import Mathlib
import QueryShield.Proofs.Spreads

namespace QueryShield

mutual

def Selection.fieldCount : Selection → Nat
  | .field _ selectionSet => 1 + Selection.fieldCountIn selectionSet
  | .inlineFragment _ selectionSet => Selection.fieldCountIn selectionSet
  | .fragmentSpread _ => 0

def Selection.fieldCountIn : List Selection → Nat
  | [] => 0
  | selection :: rest => selection.fieldCount + Selection.fieldCountIn rest

end

namespace Document

def bodyFieldCount (document : Document) (name : String) : Nat :=
  match document.fragment? name with
  | some definition => Selection.fieldCountIn definition.selectionSet
  | none => 0

noncomputable def reachedNames (document : Document) (operations : List Operation) :
    Finset String :=
  open Classical in
  (document.fragments.map (·.name)).toFinset.filter fun name =>
    ∃ operation ∈ operations, document.Reaches operation.selectionSet name

theorem mem_reachedNames {document : Document} {operations : List Operation} {name : String}
    (defined : (document.fragment? name).isSome)
    (reached : ∃ operation ∈ operations, document.Reaches operation.selectionSet name) :
    name ∈ document.reachedNames operations := by
  obtain ⟨definition, found⟩ := Option.isSome_iff_exists.1 defined
  obtain ⟨member, rfl⟩ := fragment?_mem found
  simp only [reachedNames, Finset.mem_filter, List.mem_toFinset, List.mem_map]
  exact ⟨⟨definition, member, rfl⟩, reached⟩

theorem sum_reachedNames_le {document : Document} {operations : List Operation}
    {names : List String} (nodup : names.Nodup)
    (reached : ∀ name ∈ names, (document.fragment? name).isSome ∧
      ∃ operation ∈ operations, document.Reaches operation.selectionSet name) :
    (names.map document.bodyFieldCount).sum ≤
      ∑ name ∈ document.reachedNames operations, document.bodyFieldCount name := by
  have within : names.toFinset ⊆ document.reachedNames operations := by
    intro name member
    obtain ⟨defined, operation⟩ := reached name (List.mem_toFinset.1 member)
    exact mem_reachedNames defined operation
  calc (names.map document.bodyFieldCount).sum
      = ∑ name ∈ names.toFinset, document.bodyFieldCount name := (List.sum_toFinset _ nodup).symm
    _ ≤ _ := Finset.sum_le_sum_of_subset within

end Document

end QueryShield
