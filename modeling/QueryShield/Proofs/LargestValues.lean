import Mathlib
import QueryShield.Proofs.CyclesApart
import QueryShield.Proofs.TopLevel

namespace QueryShield

variable {document : Document}

instance maxAssociative : Std.Associative (max : UInt64 → UInt64 → UInt64) where
  assoc a b c := UInt64.toNat_inj.1 (by simp only [toNat_max, Nat.max_assoc])

instance maxCommutative : Std.Commutative (max : UInt64 → UInt64 → UInt64) where
  comm a b := UInt64.toNat_inj.1 (by simp only [toNat_max, Nat.max_comm])

theorem foldl_max_append (first second : List UInt64) :
    (first ++ second).foldl max 0 = max (first.foldl max 0) (second.foldl max 0) := by
  have start : max (first.foldl max 0) 0 = first.foldl max 0 :=
    UInt64.toNat_inj.1 (by simp [toNat_max])
  calc (first ++ second).foldl max 0
    _ = second.foldl max (max (first.foldl max 0) 0) := by rw [List.foldl_append, start]
    _ = max (first.foldl max 0) (second.foldl max 0) := List.foldl_assoc

theorem foldl_max_le_iff (values : List UInt64) (start bound : UInt64) :
    values.foldl max start ≤ bound ↔ start ≤ bound ∧ ∀ value ∈ values, value ≤ bound := by
  induction values generalizing start with
  | nil => simp
  | cons value rest ih =>
    have both : max start value ≤ bound ↔ start ≤ bound ∧ value ≤ bound := by
      simp only [UInt64.le_iff_toNat_le, toNat_max]
      omega
    rw [List.foldl_cons, ih, both, List.forall_mem_cons, and_assoc]

theorem foldl_max_mem (values : List UInt64) (start : UInt64) :
    values.foldl max start = start ∨ values.foldl max start ∈ values := by
  induction values generalizing start with
  | nil => exact .inl rfl
  | cons value rest ih =>
    rw [List.foldl_cons]
    rcases ih (max start value) with first | later
    · rw [first]
      by_cases below : start ≤ value
      · have larger : max start value = value := if_pos below
        rw [larger]
        exact .inr List.mem_cons_self
      · exact .inl (if_neg below)
    · exact .inr (List.mem_cons_of_mem _ later)

theorem le_max_first (a b : UInt64) : a ≤ max a b := by
  rw [UInt64.le_iff_toNat_le, toNat_max]
  exact Nat.le_max_left _ _

namespace Document

def withOperations (document : Document) (operations : List Operation) : Document :=
  { document with operations }

def Measures (document : Document) (ignored : Bool) (operation : Operation) : Prop :=
  operation ∈ document.operations ∧ operation.isExempt document ignored = false

end Document

namespace Measure

variable {m : Measure UInt64} {ignored : Bool}

/-- Without cycles the largest value is the least bound of what the operations have on their own. -/
theorem largest_le_iff (zero : m.empty = 0) (acyclic : document.SpreadAcyclic)
    (isExempt : Operation → Bool) (bound : UInt64) :
    m.largest document isExempt ≤ bound ↔ ∀ operation ∈ document.operations,
      isExempt operation = false → (m.foldOperation document [] operation).1 ≤ bound := by
  have lowest : (0 : UInt64) ≤ bound := UInt64.le_iff_toNat_le.2 (Nat.zero_le _)
  rw [largest, foldOperations_acyclic acyclic List.filter_sublist.subset, zero, foldl_max_le_iff,
    and_iff_right lowest, List.forall_mem_map]
  simp only [List.mem_filter, Bool.not_eq_true', and_imp]

theorem largest_withOperations (m : Measure UInt64) (document : Document) (ignored : Bool)
    (operations : List Operation) :
    m.largest (document.withOperations operations)
        (·.isExempt (document.withOperations operations) ignored) =
      (m.foldOperations document [] (operations.filter fun operation =>
        !operation.isExempt document ignored)).foldl max m.empty := by
  have same : (document.withOperations operations).fragment? = document.fragment? := rfl
  have exempt : ∀ operation : Operation,
      operation.isExempt (document.withOperations operations) ignored =
        operation.isExempt document ignored := fun operation => by
    rw [Operation.isExempt, Operation.isExempt, operation.isIntrospectionOnly_congr same]
  simp only [largest, exempt, foldOperations_congr m same]
  rfl

theorem largest_append (zero : m.empty = 0) {first second : List Operation}
    (apart : document.CyclesApart first second) :
    m.largest (document.withOperations (first ++ second))
        (·.isExempt (document.withOperations (first ++ second)) ignored) =
      max (m.largest (document.withOperations first)
          (·.isExempt (document.withOperations first) ignored))
        (m.largest (document.withOperations second)
          (·.isExempt (document.withOperations second) ignored)) := by
  simp only [largest_withOperations, List.filter_append, zero]
  rw [foldOperations_apart (apart.sublists List.filter_sublist.subset
    List.filter_sublist.subset),
    foldl_max_append]

theorem largest_le_append (zero : m.empty = 0) (first second : List Operation) :
    m.largest (document.withOperations first)
        (·.isExempt (document.withOperations first) ignored) ≤
      m.largest (document.withOperations (first ++ second))
        (·.isExempt (document.withOperations (first ++ second)) ignored) := by
  simp only [largest_withOperations, List.filter_append, zero]
  rw [foldOperations_append, foldl_max_append]
  exact le_max_first _ _

theorem largest_perm {operations others : List Operation} (reordered : operations.Perm others)
    (apart : operations.Pairwise fun before after => document.CyclesApart [before] [after]) :
    m.largest (document.withOperations others)
        (·.isExempt (document.withOperations others) ignored) =
      m.largest (document.withOperations operations)
        (·.isExempt (document.withOperations operations) ignored) := by
  have apart' := apart.perm reordered fun apart => apart.symm
  simp only [largest_withOperations]
  rw [foldOperations_pairwise (apart.filter _), foldOperations_pairwise (apart'.filter _)]
  refine (((reordered.filter _).map _).foldl_eq' (fun first _ second _ start => ?_) _).symm
  exact UInt64.toNat_inj.1 (by simp only [toNat_max]; omega)

theorem largest_isGreatest (ignored : Bool) (zero : m.empty = 0)
    (acyclic : document.SpreadAcyclic) :
    IsGreatest (insert 0 {value | ∃ operation, document.Measures ignored operation ∧
        (m.foldOperation document [] operation).1.toNat = value})
      (m.largest document (·.isExempt document ignored)).toNat := by
  constructor
  · have values : m.largest document (·.isExempt document ignored) = _ :=
      congrArg (List.foldl max m.empty) (foldOperations_acyclic acyclic List.filter_sublist.subset)
    rw [values]
    rcases foldl_max_mem (List.map _ _) m.empty with none | some
    · exact .inl (by rw [none, zero]; rfl)
    · obtain ⟨operation, measured, same⟩ := List.mem_map.1 some
      obtain ⟨member, counted⟩ := List.mem_filter.1 measured
      exact .inr ⟨operation, ⟨member, by simpa using counted⟩, congrArg UInt64.toNat same⟩
  · rintro value (rfl | ⟨operation, ⟨member, counted⟩, rfl⟩)
    · exact Nat.zero_le _
    · rw [← UInt64.le_iff_toNat_le]
      exact (largest_le_iff zero acyclic _ _).1 (UInt64.le_refl _) operation member counted

end Measure

end QueryShield
