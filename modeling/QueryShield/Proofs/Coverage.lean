import QueryShield.Proofs.Traversal

namespace QueryShield

open Relation

variable {V : Type} {m : Measure V} {document : Document}

namespace Walk

def Covers (document : Document) (inProgress : List String) (known : Known V)
    (names : List String) : Prop :=
  ∀ name ∈ names, (document.fragment? name).isSome →
    (known.lookup name).isSome ∨ name ∈ inProgress

/-- What is spread in known fragments is known or in progress. -/
def Closed (document : Document) (inProgress : List String) (known : Known V) : Prop :=
  ∀ outer definition, (known.lookup outer).isSome →
    document.fragment? outer = some definition →
    Covers document inProgress known (Selection.spreadNamesIn definition.selectionSet)

theorem closed_nil (inProgress : List String) :
    Closed document inProgress ([] : Known V) := by
  intro outer definition look
  simp at look

theorem lookup_cons_isSome {name key : String} {value : V} {known : Known V}
    (kept : (known.lookup name).isSome) : (List.lookup name ((key, value) :: known)).isSome := by
  by_cases here : name = key
  · subst here
    rw [List.lookup_cons_self]
    rfl
  · rwa [lookup_cons_of_ne here]

theorem lookup_traverse_isSome {name : String} (inProgress : List String) (known : Known V)
    (total : V) (selections : List Selection) (kept : (known.lookup name).isSome) :
    ((traverse m document inProgress known total selections).2.lookup name).isSome := by
  fun_induction traverse m document inProgress known total selections with
  | case1 => exact kept
  | case2 inProgress known total field selectionSet rest inner ihInner ihRest =>
    exact ihRest (ihInner kept)
  | case3 inProgress known total fragment selectionSet rest inner ihInner ihRest =>
    exact ihRest (ihInner kept)
  | case4 inProgress known total spread rest value look ih => exact ih kept
  | case5 inProgress known total spread rest look definition found cyclic ih => exact ih kept
  | case6 inProgress known total spread rest look definition found fresh inner value ihInner
      ihRest =>
    exact ihRest (lookup_cons_isSome (ihInner kept))
  | case7 inProgress known total spread rest look missing ih => exact ih kept

section

variable {inProgress names others : List String} {known after : Known V} {name : String}

theorem Covers.append (first : Covers document inProgress known names)
    (second : Covers document inProgress known others) :
    Covers document inProgress known (names ++ others) := by
  intro name member
  rcases List.mem_append.1 member with member | member
  · exact first name member
  · exact second name member

theorem Covers.spread {spread : FragmentSpread} {rest : List Selection}
    (covered : (document.fragment? spread.name).isSome →
      (known.lookup spread.name).isSome ∨ spread.name ∈ inProgress)
    (covers : Covers document inProgress known (Selection.spreadNamesIn rest)) :
    Covers document inProgress known
      (Selection.spreadNamesIn (.fragmentSpread spread :: rest)) := by
  rw [Selection.spreadNamesIn, Selection.spreadNames]
  refine Covers.append (fun name member defined => ?_) covers
  obtain rfl := List.mem_singleton.1 member
  exact covered defined

theorem Covers.mono (covers : Covers document inProgress known names)
    (kept : ∀ name, (known.lookup name).isSome → (after.lookup name).isSome) :
    Covers document inProgress after names :=
  fun name member defined => (covers name member defined).imp_left (kept name)

theorem Covers.leave (covers : Covers document (name :: inProgress) known names) (value : V) :
    Covers document inProgress ((name, value) :: known) names := by
  intro other member defined
  rcases covers other member defined with kept | member
  · exact .inl (lookup_cons_isSome kept)
  · rcases List.mem_cons.1 member with rfl | member
    · exact .inl (by rw [List.lookup_cons_self]; rfl)
    · exact .inr member

theorem Closed.enter (closed : Closed document inProgress known) :
    Closed document (name :: inProgress) known :=
  fun outer definition kept found other member defined =>
    (closed outer definition kept found other member defined).imp_right (List.mem_cons_of_mem _)

theorem Closed.leave {definition : FragmentDefinition}
    (found : document.fragment? name = some definition)
    (closed : Closed document (name :: inProgress) known)
    (covers : Covers document (name :: inProgress) known
      (Selection.spreadNamesIn definition.selectionSet)) (value : V) :
    Closed document inProgress ((name, value) :: known) := by
  intro outer other kept found'
  by_cases same : outer = name
  · subst same
    obtain rfl := Option.some.inj (found.symm.trans found')
    exact covers.leave value
  · rw [lookup_cons_of_ne same] at kept
    exact (closed outer other kept found').leave value

end

theorem traverse_covers (inProgress : List String) (known : Known V) (total : V)
    (selections : List Selection) (closed : Closed document inProgress known) :
    Closed document inProgress (traverse m document inProgress known total selections).2 ∧
      Covers document inProgress (traverse m document inProgress known total selections).2
        (Selection.spreadNamesIn selections) := by
  have keeps : ∀ inProgress known total selections name, (List.lookup name known).isSome →
      ((traverse m document inProgress known total selections).2.lookup name).isSome :=
    fun inProgress known total selections _ =>
      lookup_traverse_isSome inProgress known total selections
  fun_induction traverse m document inProgress known total selections with
  | case1 inProgress known total =>
    exact ⟨closed, fun name member => absurd member List.not_mem_nil⟩
  | case2 inProgress known total field selectionSet rest inner ihInner ihRest =>
    obtain ⟨closed, coversInner⟩ := ihInner closed
    obtain ⟨closed, coversRest⟩ := ihRest closed
    rw [Selection.spreadNamesIn, Selection.spreadNames]
    exact ⟨closed, (coversInner.mono (keeps _ _ _ _)).append coversRest⟩
  | case3 inProgress known total fragment selectionSet rest inner ihInner ihRest =>
    obtain ⟨closed, coversInner⟩ := ihInner closed
    obtain ⟨closed, coversRest⟩ := ihRest closed
    rw [Selection.spreadNamesIn, Selection.spreadNames]
    exact ⟨closed, (coversInner.mono (keeps _ _ _ _)).append coversRest⟩
  | case4 inProgress known total spread rest value look ih =>
    obtain ⟨closed, coversRest⟩ := ih closed
    have kept := keeps inProgress known (m.combine total (m.fragmentSpread spread value)) rest
      spread.name (by rw [look]; rfl)
    exact ⟨closed, .spread (fun _ => .inl kept) coversRest⟩
  | case5 inProgress known total spread rest look definition found cyclic ih =>
    obtain ⟨closed, coversRest⟩ := ih closed
    exact ⟨closed, .spread (fun _ => .inr cyclic) coversRest⟩
  | case6 inProgress known total spread rest look definition found fresh inner value ihInner
      ihRest =>
    obtain ⟨closed, coversInner⟩ := ihInner closed.enter
    obtain ⟨closed, coversRest⟩ := ihRest (closed.leave found coversInner value)
    have kept := keeps inProgress ((spread.name, value) :: inner.2)
      (m.combine total (m.fragmentSpread spread value)) rest spread.name
      (by rw [List.lookup_cons_self]; rfl)
    exact ⟨closed, .spread (fun _ => .inl kept) coversRest⟩
  | case7 inProgress known total spread rest look missing ih =>
    obtain ⟨closed, coversRest⟩ := ih closed
    refine ⟨closed, .spread (fun defined => ?_) coversRest⟩
    rw [missing] at defined
    cases defined

theorem Closed.reaches {known : Known V} (closed : Closed document [] known) {outer inner : String}
    (kept : (known.lookup outer).isSome) (path : ReflTransGen document.Spreads outer inner)
    (defined : (document.fragment? inner).isSome) : (known.lookup inner).isSome := by
  induction path with
  | refl => exact kept
  | tail _ spread ih =>
    obtain ⟨definition, found, member⟩ := spread
    have middle := ih (by rw [found]; rfl)
    exact (closed _ definition middle found _ member defined).resolve_right List.not_mem_nil

end Walk

namespace Measure

theorem foldOperation_covers {known : Known V} (closed : Walk.Closed document [] known)
    (operation : Operation) :
    Walk.Closed document [] (m.foldOperation document known operation).2 ∧
      ∀ name, document.Reaches operation.selectionSet name →
        (document.fragment? name).isSome →
        ((m.foldOperation document known operation).2.lookup name).isSome := by
  rw [foldOperation_eq_traverse]
  obtain ⟨closed, covers⟩ :=
    Walk.traverse_covers (m := m) [] known m.empty operation.selectionSet closed
  refine ⟨closed, fun name reached defined => ?_⟩
  obtain ⟨first, member, path⟩ := reached
  have start : (document.fragment? first).isSome := by
    rcases path.cases_head with rfl | ⟨_, ⟨definition, found, _⟩, _⟩
    · exact defined
    · rw [found]
      rfl
  exact closed.reaches ((covers first member start).resolve_right List.not_mem_nil) path defined

end Measure

end QueryShield
