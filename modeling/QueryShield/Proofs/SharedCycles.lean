import QueryShield.Proofs.Coverage

namespace QueryShield

open Relation

namespace Measure

def comesThrough (name : String) : Measure Bool where
  empty := false
  combine := (· || ·)
  field := fun _ _ children => children
  fragmentDefinition := fun definition children => children || definition.name == name

end Measure

variable {document : Document} {name : String}

namespace Walk

open QueryShield.Measure (comesThrough)

theorem comesThrough_combine {total value : Bool} (either : total = true ∨ value = true) :
    (comesThrough name).combine total value = true := by
  show (total || value) = true
  simpa using either

theorem traverse_stays_true (inProgress : List String) (known : Known Bool) (total : Bool)
    (selections : List Selection) (start : total = true) :
    (traverse (comesThrough name) document inProgress known total selections).1 = true := by
  fun_induction traverse (comesThrough name) document inProgress known total selections with
  | case1 => exact start
  | case2 inProgress known total field selectionSet rest inner ihInner ihRest =>
    exact ihRest (comesThrough_combine (.inl start))
  | case3 inProgress known total fragment selectionSet rest inner ihInner ihRest =>
    exact ihRest (comesThrough_combine (.inl start))
  | case4 inProgress known total spread rest value look ih =>
    exact ih (comesThrough_combine (.inl start))
  | case5 inProgress known total spread rest look definition found cyclic ih =>
    exact ih (comesThrough_combine (.inl start))
  | case6 inProgress known total spread rest look definition found fresh inner value ihInner
      ihRest =>
    exact ihRest (comesThrough_combine (.inl start))
  | case7 inProgress known total spread rest look missing ih =>
    exact ih (comesThrough_combine (.inl start))

/-- The fragment that becomes known counts in everything around the place where it does. -/
theorem traverse_comesThrough (inProgress : List String) (known : Known Bool) (total : Bool)
    (selections : List Selection) (unknown : known.lookup name = none)
    (becomes : ((traverse (comesThrough name) document inProgress known total
      selections).2.lookup name).isSome) :
    (traverse (comesThrough name) document inProgress known total selections).1 = true := by
  fun_induction traverse (comesThrough name) document inProgress known total selections with
  | case1 inProgress known total =>
    rw [unknown] at becomes
    cases becomes
  | case2 inProgress known total field selectionSet rest inner ihInner ihRest =>
    cases look : inner.2.lookup name with
    | none => exact ihRest look becomes
    | some value =>
      have counts : inner.1 = true := ihInner unknown (by rw [look]; rfl)
      exact traverse_stays_true _ _ _ _ (comesThrough_combine (.inr counts))
  | case3 inProgress known total fragment selectionSet rest inner ihInner ihRest =>
    cases look : inner.2.lookup name with
    | none => exact ihRest look becomes
    | some value =>
      have counts : inner.1 = true := ihInner unknown (by rw [look]; rfl)
      exact traverse_stays_true _ _ _ _ (comesThrough_combine (.inr counts))
  | case4 inProgress known total spread rest value look ih => exact ih unknown becomes
  | case5 inProgress known total spread rest look definition found cyclic ih =>
    exact ih unknown becomes
  | case6 inProgress known total spread rest look definition found fresh inner value ihInner
      ihRest =>
    have own : definition.name = spread.name := (Document.fragment?_mem found).2
    have counted : inner.1 = true ∨ spread.name = name → value = true := by
      intro either
      show (inner.1 || definition.name == name) = true
      rw [own]
      simpa using either
    by_cases here : name = spread.name
    · exact traverse_stays_true _ _ _ _ (comesThrough_combine (.inr (counted (.inr here.symm))))
    · cases kept : inner.2.lookup name with
      | none =>
        have unknown' : List.lookup name ((spread.name, value) :: inner.2) = none := by
          rw [lookup_cons_of_ne here, kept]
        exact ihRest unknown' becomes
      | some _ =>
        have counts : inner.1 = true := ihInner unknown (by rw [kept]; rfl)
        exact traverse_stays_true _ _ _ _ (comesThrough_combine (.inr (counted (.inl counts))))
  | case7 inProgress known total spread rest look missing ih => exact ih unknown becomes

theorem not_comesThrough_combine {total value : Bool} (start : total = false)
    (nothing : value = false) : (comesThrough name).combine total value = false := by
  show (total || value) = false
  rw [start, nothing, Bool.or_self]

theorem traverse_not_comesThrough (inProgress : List String) (known : Known Bool) (total : Bool)
    (selections : List Selection) (member : name ∈ inProgress) (start : total = false)
    (without : ∀ other value, known.lookup other = some value → value = false) :
    (traverse (comesThrough name) document inProgress known total selections).1 = false ∧
      ∀ other value, (traverse (comesThrough name) document inProgress known total
        selections).2.lookup other = some value → value = false := by
  fun_induction traverse (comesThrough name) document inProgress known total selections with
  | case1 inProgress known total => exact ⟨start, without⟩
  | case2 inProgress known total field selectionSet rest inner ihInner ihRest =>
    obtain ⟨nothing, without⟩ := ihInner member rfl without
    exact ihRest member (not_comesThrough_combine start nothing) without
  | case3 inProgress known total fragment selectionSet rest inner ihInner ihRest =>
    obtain ⟨nothing, without⟩ := ihInner member rfl without
    exact ihRest member (not_comesThrough_combine start nothing) without
  | case4 inProgress known total spread rest value look ih =>
    exact ih member (not_comesThrough_combine start (without _ _ look)) without
  | case5 inProgress known total spread rest look definition found cyclic ih =>
    exact ih member (not_comesThrough_combine start rfl) without
  | case6 inProgress known total spread rest look definition found fresh inner value ihInner
      ihRest =>
    have own : definition.name = spread.name := (Document.fragment?_mem found).2
    have differs : spread.name ≠ name := fun same => fresh (same ▸ member)
    obtain ⟨innerNothing, without⟩ := ihInner (List.mem_cons_of_mem _ member) rfl without
    have nothing : value = false := by
      show (inner.1 || definition.name == name) = false
      rw [innerNothing, own]
      simpa using differs
    refine ihRest member (not_comesThrough_combine start nothing) ?_
    intro other kept look'
    by_cases same : other = spread.name
    · rw [same, List.lookup_cons_self] at look'
      exact Option.some.inj look' ▸ nothing
    · rw [lookup_cons_of_ne same] at look'
      exact without other kept look'
  | case7 inProgress known total spread rest look missing ih =>
    exact ih member (not_comesThrough_combine start rfl) without

end Walk

namespace Measure

def spreading (name : String) : Operation where
  selectionSet := [.fragmentSpread { name }]

variable {one other : String}

theorem isSome_of_transGen (path : TransGen document.Spreads one other) :
    ∃ definition, document.fragment? one = some definition := by
  obtain ⟨_, ⟨definition, found, -⟩, -⟩ := TransGen.head'_iff.1 path
  exact ⟨definition, found⟩

theorem known_spreading {V : Type} (m : Measure V) {definition : FragmentDefinition}
    (found : document.fragment? one = some definition) :
    (m.foldOperation document [] (spreading one)).2 =
      (one, m.fragmentDefinition definition
        (Walk.traverse m document [one] [] m.empty definition.selectionSet).1) ::
      (Walk.traverse m document [one] [] m.empty definition.selectionSet).2 := by
  have look : ([] : Known V).lookup ({ name := one } : FragmentSpread).name = none := rfl
  rw [foldOperation_eq_traverse, spreading,
    Walk.traverse_entered look found List.not_mem_nil]
  simp only [Walk.traverse]

theorem foldOperation_spreading_alone (outward : TransGen document.Spreads other one)
    (inward : TransGen document.Spreads one other) :
    ((comesThrough one).foldOperation document [] (spreading other)).1 = true := by
  obtain ⟨definition, found⟩ := isSome_of_transGen inward
  have reached : document.Reaches (spreading other).selectionSet one :=
    Document.reaches_spread.trans outward.to_reflTransGen
  have known := (foldOperation_covers (m := comesThrough one) (Walk.closed_nil []) _).2 one reached
    (by rw [found]; rfl)
  rw [foldOperation_eq_traverse] at known ⊢
  exact Walk.traverse_comesThrough _ _ _ _ rfl known

theorem foldOperation_spreading_later (different : other ≠ one)
    (outward : TransGen document.Spreads other one)
    (inward : TransGen document.Spreads one other) :
    ((comesThrough one).foldOperation document ((comesThrough one).foldOperation document []
      (spreading one)).2 (spreading other)).1 = false := by
  obtain ⟨definition, found⟩ := isSome_of_transGen inward
  obtain ⟨otherDefinition, found'⟩ := isSome_of_transGen outward
  have reached : document.Reaches (spreading one).selectionSet other :=
    Document.reaches_spread.trans inward.to_reflTransGen
  have known := (foldOperation_covers (m := comesThrough one) (Walk.closed_nil []) _).2 other
    reached (by rw [found']; rfl)
  obtain ⟨value, look⟩ := Option.isSome_iff_exists.1 known
  have without : value = false := by
    have inner : ∀ kept value, (Walk.traverse (comesThrough one) document [one] [] false
        definition.selectionSet).2.lookup kept = some value → value = false :=
      (Walk.traverse_not_comesThrough _ _ _ _ List.mem_cons_self rfl (by simp)).2
    rw [known_spreading _ found, Walk.lookup_cons_of_ne different] at look
    exact inner other value look
  have spread : Walk.traverse (comesThrough one) document [] ((comesThrough one).foldOperation
      document [] (spreading one)).2 false (spreading other).selectionSet = _ :=
    Walk.traverse_known look
  rw [foldOperation_eq_traverse]
  show (Walk.traverse _ _ _ _ false _).1 = false
  rw [spread, without, Walk.traverse]
  rfl

end Measure

end QueryShield
