import Mathlib
import QueryShield.Guard.Measures
import QueryShield.Proofs.Traversal
import QueryShield.Proofs.WrittenFields

namespace QueryShield

open Relation

structure Weights where
  field : Field → Nat
  inlineFragment : InlineFragment → Nat := fun _ => 0
  fragmentSpread : FragmentSpread → Nat := fun _ => 0
  fragmentDefinition : FragmentDefinition → Nat := fun _ => 0
  operation : Operation → Nat := fun _ => 0

mutual

def Selection.weight (w : Weights) : Selection → Nat
  | .field node selectionSet => w.field node + Selection.weightIn w selectionSet
  | .inlineFragment fragment selectionSet =>
    w.inlineFragment fragment + Selection.weightIn w selectionSet
  | .fragmentSpread spread => w.fragmentSpread spread

def Selection.weightIn (w : Weights) : List Selection → Nat
  | [] => 0
  | selection :: rest => selection.weight w + Selection.weightIn w rest

end

def AliasLimit.weights : Weights where
  field := fun field => if field.isAliased then 1 else 0

def DirectiveLimit.weights (limit : DirectiveLimit) : Weights where
  field := fun field => (limit.applied field.directives).toNat
  inlineFragment := fun fragment => (limit.applied fragment.directives).toNat
  fragmentSpread := fun spread => (limit.applied spread.directives).toNat
  fragmentDefinition := fun definition => (limit.applied definition.directives).toNat
  operation := fun operation => (limit.applied operation.directives).toNat

namespace Document

def bodyWeight (document : Document) (w : Weights) (name : String) : Nat :=
  match document.fragment? name with
  | some definition =>
    w.fragmentDefinition definition + Selection.weightIn w definition.selectionSet
  | none => 0

/-- The weight of an operation and of the fragments that it comes to, each taken once. -/
noncomputable def reachedWeight (document : Document) (w : Weights) (operation : Operation) : Nat :=
  w.operation operation + Selection.weightIn w operation.selectionSet +
    ∑ name ∈ document.reachedNames [operation], document.bodyWeight w name

def unknownWeight (document : Document) (w : Weights) (names : Finset String) {V : Type}
    (known : Known V) : Nat :=
  ∑ name ∈ names with known.lookup name = none, document.bodyWeight w name

variable {document : Document} {w : Weights} {names : Finset String}

theorem unknownWeight_le_cons {V : Type} (known : Known V) (name : String) (value : V) :
    document.unknownWeight w names known ≤
      document.unknownWeight w names ((name, value) :: known) + document.bodyWeight w name := by
  have within : (names.filter fun other => known.lookup other = none) ⊆
      insert name
        (names.filter fun other => List.lookup other ((name, value) :: known) = none) := by
    intro other member
    obtain ⟨listed, unknown⟩ := Finset.mem_filter.1 member
    by_cases same : other = name
    · exact Finset.mem_insert.2 (.inl same)
    · apply Finset.mem_insert_of_mem
      rw [Finset.mem_filter, Walk.lookup_cons_of_ne same]
      exact ⟨listed, unknown⟩
  have known' : name ∉ names.filter fun other =>
      List.lookup other ((name, value) :: known) = none := by
    simp
  calc document.unknownWeight w names known
      ≤ ∑ other ∈ insert name (names.filter fun other =>
          List.lookup other ((name, value) :: known) = none), document.bodyWeight w other :=
        Finset.sum_le_sum_of_subset within
    _ = _ := by rw [Finset.sum_insert known', Nat.add_comm]; rfl

theorem unknownWeight_nil {V : Type} :
    document.unknownWeight w names ([] : Known V) = ∑ name ∈ names, document.bodyWeight w name := by
  simp [unknownWeight]

theorem unknownWeight_eq_zero {V : Type} {known : Known V}
    (kept : ∀ name ∈ names, (known.lookup name).isSome) :
    document.unknownWeight w names known = 0 := by
  apply Finset.sum_eq_zero
  intro name member
  obtain ⟨listed, unknown⟩ := Finset.mem_filter.1 member
  have found := kept name listed
  rw [unknown] at found
  cases found

/-- The names hold what the selections spread and what is spread in the definitions of the names, as
far as it is defined. -/
def SpreadClosed (document : Document) (selections : List Selection) (names : Set String) : Prop :=
  ∀ name, (document.fragment? name).isSome →
    (name ∈ Selection.spreadNamesIn selections ∨
      ∃ outer ∈ names, document.Spreads outer name) → name ∈ names

theorem Reaches.of_spreadClosed {selections : List Selection} {name : String} {closed : Set String}
    (reached : document.Reaches selections name) (defined : (document.fragment? name).isSome)
    (inside : document.SpreadClosed selections closed) : name ∈ closed := by
  obtain ⟨first, member, path⟩ := reached
  induction path with
  | refl => exact inside first defined (.inl member)
  | @tail middle last _ spread ih =>
    have outer : (document.fragment? middle).isSome := by
      obtain ⟨definition, found, -⟩ := spread
      rw [found]
      rfl
    exact inside last defined (.inr ⟨middle, ih outer, spread⟩)

theorem mem_reachedNames_iff {operation : Operation} {name : String} :
    name ∈ document.reachedNames [operation] ↔
      (document.fragment? name).isSome ∧ document.Reaches operation.selectionSet name := by
  constructor
  · intro member
    simp only [reachedNames, Finset.mem_filter, List.mem_toFinset, List.mem_map,
      List.mem_singleton, exists_eq_left] at member
    obtain ⟨⟨definition, listed, rfl⟩, reached⟩ := member
    refine ⟨?_, reached⟩
    rw [fragment?, List.find?_isSome]
    exact ⟨definition, listed, beq_self_eq_true _⟩
  · rintro ⟨defined, reached⟩
    exact mem_reachedNames defined ⟨operation, List.mem_singleton_self _, reached⟩

theorem reachedNames_isLeast (document : Document) (operation : Operation) :
    IsLeast {names : Set String | document.SpreadClosed operation.selectionSet names}
      ↑(document.reachedNames [operation]) := by
  constructor
  · intro name defined spread
    rw [Finset.mem_coe, mem_reachedNames_iff]
    refine ⟨defined, ?_⟩
    rcases spread with member | ⟨outer, member, spread⟩
    · exact ⟨name, member, .refl⟩
    · have reached := (mem_reachedNames_iff.1 (Finset.mem_coe.1 member)).2
      exact reached.trans (.single spread)
  · intro closed inside name member
    obtain ⟨defined, reached⟩ := mem_reachedNames_iff.1 (Finset.mem_coe.1 member)
    exact reached.of_spreadClosed defined inside

end Document

end QueryShield
