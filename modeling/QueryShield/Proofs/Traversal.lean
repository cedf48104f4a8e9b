import QueryShield.Proofs.Spreads

namespace QueryShield

namespace Walk

variable {V : Type} {m : Measure V} {document : Document}

theorem unmarkedCount_enter {inProgress : List String} {name : String}
    {definition : FragmentDefinition} (found : document.fragment? name = some definition)
    (fresh : name ∉ inProgress) :
    document.unmarkedCount (name :: inProgress).contains <
      document.unmarkedCount inProgress.contains := by
  refine Document.unmarkedCount_lt (fun other seen => ?_) found (by simp [fresh]) (by simp)
  simp only [List.contains_eq_mem, List.mem_cons, decide_eq_true_eq] at seen ⊢
  exact .inr seen

/-- The total of a selection set that was folded in part, and the fragments that are known after
the rest of it. -/
def traverse (m : Measure V) (document : Document) (inProgress : List String) (known : Known V)
    (total : V) : List Selection → V × Known V
  | [] => (total, known)
  | .field field selectionSet :: rest =>
    let inner := traverse m document inProgress known m.empty selectionSet
    traverse m document inProgress inner.2
      (m.combine total (m.field field selectionSet inner.1)) rest
  | .inlineFragment fragment selectionSet :: rest =>
    let inner := traverse m document inProgress known m.empty selectionSet
    traverse m document inProgress inner.2
      (m.combine total (m.inlineFragment fragment selectionSet inner.1)) rest
  | .fragmentSpread spread :: rest =>
    match known.lookup spread.name with
    | some value =>
      traverse m document inProgress known (m.combine total (m.fragmentSpread spread value)) rest
    | none =>
      match _found : document.fragment? spread.name with
      | some definition =>
        if _cyclic : spread.name ∈ inProgress then
          traverse m document inProgress known
            (m.combine total (m.fragmentSpread spread m.empty)) rest
        else
          let inner := traverse m document (spread.name :: inProgress) known m.empty
            definition.selectionSet
          let value := m.fragmentDefinition definition inner.1
          traverse m document inProgress ((spread.name, value) :: inner.2)
            (m.combine total (m.fragmentSpread spread value)) rest
      | none =>
        traverse m document inProgress known
          (m.combine total (m.fragmentSpread spread m.empty)) rest
termination_by selections => (document.unmarkedCount inProgress.contains, sizeOf selections)
decreasing_by
  all_goals try exact Prod.Lex.right _ (by simp only [List.cons.sizeOf_spec,
    Selection.field.sizeOf_spec, Selection.inlineFragment.sizeOf_spec]; omega)
  exact Prod.Lex.left _ _ (unmarkedCount_enter _found _cyclic)

/-- Induction along the recursion, whatever is known on the way: a spread leads into a definition
only when it is not in progress. -/
@[elab_as_elim]
theorem traversal_induction (document : Document) {motive : List String → List Selection → Prop}
    (nil : ∀ inProgress, motive inProgress [])
    (field : ∀ inProgress field selectionSet rest, motive inProgress selectionSet →
      motive inProgress rest → motive inProgress (.field field selectionSet :: rest))
    (inlineFragment : ∀ inProgress fragment selectionSet rest, motive inProgress selectionSet →
      motive inProgress rest → motive inProgress (.inlineFragment fragment selectionSet :: rest))
    (spread : ∀ inProgress spread rest,
      (∀ definition, document.fragment? spread.name = some definition →
        spread.name ∉ inProgress → motive (spread.name :: inProgress) definition.selectionSet) →
      motive inProgress rest → motive inProgress (.fragmentSpread spread :: rest))
    (inProgress : List String) : ∀ selections, motive inProgress selections
  | [] => nil inProgress
  | .field f selectionSet :: rest =>
    field inProgress f selectionSet rest
      (traversal_induction document nil field inlineFragment spread inProgress selectionSet)
      (traversal_induction document nil field inlineFragment spread inProgress rest)
  | .inlineFragment fragment selectionSet :: rest =>
    inlineFragment inProgress fragment selectionSet rest
      (traversal_induction document nil field inlineFragment spread inProgress selectionSet)
      (traversal_induction document nil field inlineFragment spread inProgress rest)
  | .fragmentSpread s :: rest =>
    spread inProgress s rest
      (fun definition _found _fresh =>
        traversal_induction document nil field inlineFragment spread (s.name :: inProgress)
          definition.selectionSet)
      (traversal_induction document nil field inlineFragment spread inProgress rest)
termination_by selections => (document.unmarkedCount inProgress.contains, sizeOf selections)
decreasing_by
  all_goals try exact Prod.Lex.right _ (by simp only [List.cons.sizeOf_spec,
    Selection.field.sizeOf_spec, Selection.inlineFragment.sizeOf_spec]; omega)
  exact Prod.Lex.left _ _ (unmarkedCount_enter _found _fresh)

section

variable {inProgress : List String} {known : Known V} {total : V} {spread : FragmentSpread}
  {rest : List Selection}

theorem traverse_known {value : V} (look : known.lookup spread.name = some value) :
    traverse m document inProgress known total (.fragmentSpread spread :: rest) =
      traverse m document inProgress known (m.combine total (m.fragmentSpread spread value))
        rest := by
  rw [traverse, look]

theorem traverse_missing (look : known.lookup spread.name = none)
    (missing : document.fragment? spread.name = none) :
    traverse m document inProgress known total (.fragmentSpread spread :: rest) =
      traverse m document inProgress known (m.combine total (m.fragmentSpread spread m.empty))
        rest := by
  rw [traverse]
  simp only [look]
  split
  · rename_i definition found
    rw [missing] at found
    cases found
  · rfl

theorem traverse_cyclic (look : known.lookup spread.name = none)
    (cyclic : spread.name ∈ inProgress) :
    traverse m document inProgress known total (.fragmentSpread spread :: rest) =
      traverse m document inProgress known (m.combine total (m.fragmentSpread spread m.empty))
        rest := by
  rw [traverse]
  simp only [look]
  split
  · simp only [cyclic, ↓reduceDIte]
  · rfl

theorem traverse_entered {definition : FragmentDefinition}
    (look : known.lookup spread.name = none)
    (found : document.fragment? spread.name = some definition)
    (fresh : spread.name ∉ inProgress) :
    traverse m document inProgress known total (.fragmentSpread spread :: rest) =
      traverse m document inProgress
        ((spread.name, m.fragmentDefinition definition (traverse m document
          (spread.name :: inProgress) known m.empty definition.selectionSet).1) ::
          (traverse m document (spread.name :: inProgress) known m.empty
            definition.selectionSet).2)
        (m.combine total (m.fragmentSpread spread (m.fragmentDefinition definition (traverse m
          document (spread.name :: inProgress) known m.empty definition.selectionSet).1)))
        rest := by
  rw [traverse]
  simp only [look]
  split
  · rename_i other found'
    obtain rfl := Option.some.inj (found.symm.trans found')
    simp only [fresh, ↓reduceDIte]
  · rename_i missing
    rw [found] at missing
    cases missing

end

theorem lookup_cons_of_ne {name key : String} {value : V} {known : Known V} (other : name ≠ key) :
    List.lookup name ((key, value) :: known) = known.lookup name := by
  have differs : (name == key) = false := by simp [other]
  rw [List.lookup_cons, differs]

theorem lookup_traverse_of_not_reached {name : String} (inProgress : List String)
    (known : Known V) (total : V) (selections : List Selection)
    (away : ¬ document.Reaches selections name) :
    (traverse m document inProgress known total selections).2.lookup name =
      known.lookup name := by
  fun_induction traverse m document inProgress known total selections with
  | case1 => rfl
  | case2 inProgress known total field selectionSet rest inner ihInner ihRest =>
    rw [ihRest (fun reached => away reached.later)]
    exact ihInner (fun reached => away reached.inField)
  | case3 inProgress known total fragment selectionSet rest inner ihInner ihRest =>
    rw [ihRest (fun reached => away reached.later)]
    exact ihInner (fun reached => away reached.inInlineFragment)
  | case4 inProgress known total spread rest value look ih =>
    exact ih (fun reached => away reached.later)
  | case5 inProgress known total spread rest look definition found cyclic ih =>
    exact ih (fun reached => away reached.later)
  | case6 inProgress known total spread rest look definition found fresh inner value ihInner
      ihRest =>
    have other : name ≠ spread.name := fun same => away (same ▸ Document.reaches_spread)
    rw [ihRest (fun reached => away reached.later), lookup_cons_of_ne other]
    exact ihInner (fun reached => away (reached.inSpread found))
  | case7 inProgress known total spread rest look missing ih =>
    exact ih (fun reached => away reached.later)

theorem lookup_traverse_inProgress {name : String} (inProgress : List String) (known : Known V)
    (total : V) (selections : List Selection) (member : name ∈ inProgress) :
    (traverse m document inProgress known total selections).2.lookup name =
      known.lookup name := by
  fun_induction traverse m document inProgress known total selections with
  | case1 => rfl
  | case2 inProgress known total field selectionSet rest inner ihInner ihRest =>
    rw [ihRest member]
    exact ihInner member
  | case3 inProgress known total fragment selectionSet rest inner ihInner ihRest =>
    rw [ihRest member]
    exact ihInner member
  | case4 inProgress known total spread rest value look ih => exact ih member
  | case5 inProgress known total spread rest look definition found cyclic ih => exact ih member
  | case6 inProgress known total spread rest look definition found fresh inner value ihInner
      ihRest =>
    have other : name ≠ spread.name := fun same => fresh (same ▸ member)
    rw [ihRest member, lookup_cons_of_ne other]
    exact ihInner (List.mem_cons_of_mem _ member)
  | case7 inProgress known total spread rest look missing ih => exact ih member

theorem traverse_congr {other : Document} (same : document.fragment? = other.fragment?)
    (inProgress : List String) (known : Known V) (total : V) (selections : List Selection) :
    traverse m document inProgress known total selections =
      traverse m other inProgress known total selections := by
  induction inProgress, selections using traversal_induction document generalizing known total with
  | nil inProgress => simp only [traverse]
  | field inProgress field selectionSet rest ihInner ihRest =>
    simp only [traverse, ihInner, ihRest]
  | inlineFragment inProgress fragment selectionSet rest ihInner ihRest =>
    simp only [traverse, ihInner, ihRest]
  | spread inProgress spread rest ihBody ihRest =>
    cases look : known.lookup spread.name with
    | some value => rw [traverse_known look, traverse_known look, ihRest]
    | none =>
      cases found : document.fragment? spread.name with
      | none => rw [traverse_missing look found, traverse_missing look (same ▸ found), ihRest]
      | some definition =>
        by_cases cyclic : spread.name ∈ inProgress
        · rw [traverse_cyclic look cyclic, traverse_cyclic look cyclic, ihRest]
        · rw [traverse_entered look found cyclic, traverse_entered look (same ▸ found) cyclic,
            ihBody definition found cyclic, ihRest]

theorem run_of_step {s t : State V} (stepped : step m document s = .inl t) :
    run m document s = run m document t := by
  rw [run]
  split
  · rename_i result ended
    rw [stepped] at ended
    cases ended
  · rename_i next continued
    rw [stepped] at continued
    cases continued
    rfl

theorem run_of_end {s : State V} {result : V × Known V}
    (ended : step m document s = .inr result) : run m document s = result := by
  rw [run]
  split
  · rename_i other stopped
    rw [ended] at stopped
    exact (Sum.inr.inj stopped).symm
  · rename_i next continued
    rw [ended] at continued
    cases continued

/-- The steps spent on the innermost selection set come to its recursive fold, whatever waits in
the frames around it. -/
theorem run_innermost (inProgress : List String) (known : Known V) (total : V)
    (selections : List Selection) (owner : Owner) (outer : List (Frame V)) :
    run m document ⟨⟨owner, selections, total⟩ :: outer, inProgress, known⟩ =
      run m document ⟨⟨owner, [], (traverse m document inProgress known total selections).1⟩ ::
        outer, inProgress, (traverse m document inProgress known total selections).2⟩ := by
  fun_induction traverse m document inProgress known total selections
    generalizing owner outer with
  | case1 => rfl
  | case2 inProgress known total field selectionSet rest inner ihInner ihRest =>
    rw [run_of_step (by rfl), enter, enterFrame, ihInner, run_of_step (by rfl)]
    exact ihRest owner outer
  | case3 inProgress known total fragment selectionSet rest inner ihInner ihRest =>
    rw [run_of_step (by rfl), enter, enterFrame, ihInner, run_of_step (by rfl)]
    exact ihRest owner outer
  | case4 inProgress known total spread rest value look ih =>
    rw [run_of_step (by rfl)]
    simp only [enter, look]
    exact ih owner outer
  | case5 inProgress known total spread rest look definition found cyclic ih =>
    rw [run_of_step (by rfl)]
    simp only [enter, look, found, cyclic, ↓reduceIte]
    exact ih owner outer
  | case6 inProgress known total spread rest look definition found fresh inner value ihInner
      ihRest =>
    rw [run_of_step (by rfl)]
    simp only [enter, look, found, fresh, ↓reduceIte, enterFrame]
    rw [ihInner, run_of_step (by rfl)]
    simp only [List.erase_cons_head]
    exact ihRest owner outer
  | case7 inProgress known total spread rest look missing ih =>
    rw [run_of_step (by rfl)]
    simp only [enter, look, missing]
    exact ih owner outer

end Walk

namespace Measure

variable {V : Type}

theorem foldOperation_eq_traverse (m : Measure V) (document : Document) (known : Known V)
    (operation : Operation) :
    m.foldOperation document known operation =
      let folded := Walk.traverse m document [] known m.empty operation.selectionSet
      (m.operation operation folded.1, folded.2) := by
  rw [foldOperation, Walk.run_innermost]
  exact Walk.run_of_end rfl

def knownAfter (m : Measure V) (document : Document) (known : Known V) :
    List Operation → Known V
  | [] => known
  | operation :: rest =>
    m.knownAfter document (m.foldOperation document known operation).2 rest

theorem foldOperations_append (m : Measure V) (document : Document) (known : Known V)
    (first second : List Operation) :
    m.foldOperations document known (first ++ second) =
      m.foldOperations document known first ++
        m.foldOperations document (m.knownAfter document known first) second := by
  induction first generalizing known with
  | nil => rfl
  | cons operation rest ih => simp [foldOperations, knownAfter, ih]

theorem foldOperations_congr (m : Measure V) {document other : Document}
    (same : document.fragment? = other.fragment?) (known : Known V)
    (operations : List Operation) :
    m.foldOperations document known operations = m.foldOperations other known operations := by
  induction operations generalizing known with
  | nil => rfl
  | cons operation rest ih =>
    simp only [foldOperations, foldOperation_eq_traverse, Walk.traverse_congr same, ih]

end Measure

end QueryShield
