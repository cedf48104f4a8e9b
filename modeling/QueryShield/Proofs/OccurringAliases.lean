import Mathlib
import QueryShield.Proofs.OccurrenceLevels

namespace QueryShield

namespace Document

variable {document : Document} {selections rest : List Selection} {selection : Selection}
  {way : List Nat} {field : Field} {level : Nat}

/-- The fields with an alias that counts, each with a way to it. -/
def aliasedOccurrences (document : Document) (selections : List Selection) :
    Set (Field × List Nat) :=
  {occurrence | occurrence.1.isAliased = true ∧
    ∃ level, document.Occurs selections occurrence.2 occurrence.1 level}

theorem aliasedOccurrences_nil : document.aliasedOccurrences [] = ∅ := by
  ext ⟨field, way⟩
  simp [aliasedOccurrences, not_occurs_nil]

theorem aliasedOccurrences_cons : document.aliasedOccurrences (selection :: rest) =
    document.aliasedOccurrences [selection] ∪
      Prod.map id wayBehind '' document.aliasedOccurrences rest := by
  ext ⟨field, way⟩
  constructor
  · rintro ⟨aliased, level, occurs⟩
    rcases occurs_cons.1 occurs with here | ⟨other, rfl, behind⟩
    · exact .inl ⟨aliased, level, here⟩
    · exact .inr ⟨(field, other), ⟨aliased, level, behind⟩, rfl⟩
  · rintro (⟨aliased, level, here⟩ | ⟨⟨_, other⟩, ⟨aliased, level, behind⟩, same⟩)
    · exact ⟨aliased, level, occurs_cons.2 (.inl here)⟩
    · cases same
      exact ⟨aliased, level, occurs_cons.2 (.inr ⟨other, rfl, behind⟩)⟩

theorem disjoint_aliasedOccurrences : Disjoint (document.aliasedOccurrences [selection])
    (Prod.map id wayBehind '' document.aliasedOccurrences rest) := by
  rw [Set.disjoint_left]
  rintro ⟨field, way⟩ ⟨-, level, here⟩ ⟨⟨other, behind⟩, ⟨-, level', occurs⟩, same⟩
  obtain ⟨inner, rfl⟩ := here.single
  obtain ⟨position, rest, rfl⟩ := occurs.way_eq
  simp [wayBehind] at same

theorem encard_aliasedOccurrences_cons :
    (document.aliasedOccurrences (selection :: rest)).encard =
      (document.aliasedOccurrences [selection]).encard +
        (document.aliasedOccurrences rest).encard := by
  rw [aliasedOccurrences_cons, Set.encard_union_eq disjoint_aliasedOccurrences,
    (Function.injective_id.prodMap wayBehind_injective).encard_image]

theorem encard_aliasedOccurrences_inside {inside : List Selection}
    (steps : ∀ {way field level}, document.Occurs [selection] way field level ↔
      ∃ inner, 0 :: inner = way ∧ document.Occurs inside inner field level) :
    (document.aliasedOccurrences [selection]).encard =
      (document.aliasedOccurrences inside).encard := by
  have longer : document.aliasedOccurrences [selection] =
      Prod.map id (0 :: ·) '' document.aliasedOccurrences inside := by
    ext ⟨field, way⟩
    constructor
    · rintro ⟨aliased, level, occurs⟩
      obtain ⟨inner, rfl, occurs⟩ := steps.1 occurs
      exact ⟨(field, inner), ⟨aliased, level, occurs⟩, rfl⟩
    · rintro ⟨⟨_, inner⟩, ⟨aliased, level, occurs⟩, same⟩
      cases same
      exact ⟨aliased, level, steps.2 ⟨inner, rfl, occurs⟩⟩
  rw [longer, (Function.injective_id.prodMap List.cons_injective).encard_image]

theorem encard_aliasedOccurrences_field {outer : Field} {selectionSet : List Selection} :
    (document.aliasedOccurrences [.field outer selectionSet]).encard =
      (document.aliasedOccurrences selectionSet).encard + if outer.isAliased then 1 else 0 := by
  let own : Set (Field × List Nat) :=
    {occurrence | outer.isAliased = true ∧ occurrence = (outer, [0])}
  have parts : document.aliasedOccurrences [.field outer selectionSet] =
      Prod.map id (0 :: ·) '' document.aliasedOccurrences selectionSet ∪ own := by
    ext ⟨field, way⟩
    constructor
    · rintro ⟨aliased, level, occurs⟩
      rcases occurs_field.1 occurs with ⟨same, -⟩ | ⟨inner, below, rfl, -, occurs⟩
      · cases same
        exact .inr ⟨aliased, rfl⟩
      · exact .inl ⟨(field, inner), ⟨aliased, below, occurs⟩, rfl⟩
    · rintro (⟨⟨_, inner⟩, ⟨aliased, level, occurs⟩, same⟩ | ⟨aliased, same⟩)
      · cases same
        exact ⟨aliased, level + 1, .inField rfl occurs⟩
      · cases same
        exact ⟨aliased, 1, .here rfl⟩
  have apart : Disjoint (Prod.map id (0 :: ·) '' document.aliasedOccurrences selectionSet) own := by
    rw [Set.disjoint_left]
    rintro _ ⟨⟨field, inner⟩, ⟨-, level, occurs⟩, rfl⟩ ⟨-, same⟩
    obtain ⟨position, rest, rfl⟩ := occurs.way_eq
    simp at same
  have one : own.encard = if outer.isAliased then 1 else 0 := by
    by_cases aliased : outer.isAliased <;> simp [own, aliased]
  rw [parts, Set.encard_union_eq apart,
    (Function.injective_id.prodMap List.cons_injective).encard_image, one]

theorem expandedAliases_eq (free : document.CycleFree selections) :
    ∀ total : Nat,
      (AliasLimit.exactMeasure.setValue total (document.expand selections free) : ℕ∞) =
        total + (document.aliasedOccurrences selections).encard := by
  induction selections, free using Document.expand.induct with
  | case1 =>
    intro total
    rw [expand, Measure.setValue, aliasedOccurrences_nil, Set.encard_empty, add_zero]
  | case2 field selectionSet rest free _ ofInner ofRest =>
    intro total
    have inside := ofInner 0
    rw [Nat.cast_zero, zero_add] at inside
    rw [expand, Measure.setValue, Measure.value, ofRest, encard_aliasedOccurrences_cons,
      encard_aliasedOccurrences_field, ← inside, ← add_assoc]
    congr 1
    simp only [AliasLimit.exactMeasure, Nat.cast_add, Nat.cast_ite, Nat.cast_one, Nat.cast_zero]
  | case3 fragment selectionSet rest free _ ofInner ofRest =>
    intro total
    have inside := ofInner 0
    rw [Nat.cast_zero, zero_add] at inside
    rw [expand, Measure.setValue, Measure.value, ofRest, encard_aliasedOccurrences_cons,
      encard_aliasedOccurrences_inside occurs_inlineFragment, ← inside, ← add_assoc, ← Nat.cast_add]
    rfl
  | case4 spread rest free definition found _ ofBody ofRest =>
    intro total
    have inside := ofBody 0
    rw [Nat.cast_zero, zero_add] at inside
    rw [Document.expand_spread free found, Measure.setValue, Measure.value, ofRest,
      encard_aliasedOccurrences_cons, encard_aliasedOccurrences_inside occurs_spread,
      spreadSelections_found found, ← inside, ← add_assoc, ← Nat.cast_add]
    rfl
  | case5 spread rest free missing _ ofRest =>
    intro total
    rw [Document.expand_undefinedSpread free missing, Measure.setValue, Measure.value, ofRest,
      encard_aliasedOccurrences_cons, encard_aliasedOccurrences_inside occurs_spread,
      spreadSelections_missing missing, aliasedOccurrences_nil, Set.encard_empty, zero_add]
    rfl

theorem aliasedOccurrences_finite (free : document.CycleFree selections) :
    (document.aliasedOccurrences selections).Finite ∧
      AliasLimit.exactMeasure.setValue 0 (document.expand selections free) =
        (document.aliasedOccurrences selections).ncard := by
  have counted := expandedAliases_eq free 0
  rw [Nat.cast_zero, zero_add] at counted
  exact ⟨Set.finite_of_encard_eq_coe counted.symm, by rw [Set.ncard, ← counted, ENat.toNat_natCast]⟩

end Document

end QueryShield
