import Mathlib
import QueryShield.Proofs.LargestValues
import QueryShield.Proofs.OccurringAliases

namespace QueryShield

namespace Measure

variable {m : Measure UInt64} {document : Document}

theorem largest_isGreatest_cutOff (ignored : Bool) {n : Measure Nat} (zero : m.empty = 0)
    (cut : m.Related CutOff n) (acyclic : document.SpreadAcyclic) :
    IsGreatest (insert 0 {value | ∃ operation free, document.Measures ignored operation ∧
        min (n.expandedValue document operation free) countLimit = value})
      (m.largest document (·.isExempt document ignored)).toNat := by
  have values : ∀ operation free, (m.foldOperation document [] operation).1.toNat =
      min (n.expandedValue document operation free) countLimit := by
    intro operation free
    have exact : CutOff (m.foldOperation document [] operation).1
        (n.foldOperation document [] operation).1 := (foldOperation_related cut .nil operation).1
    rw [(foldOperation_expansion (m := n) .nil free).1] at exact
    exact exact
  obtain ⟨attained, bound⟩ := largest_isGreatest ignored zero acyclic
  constructor
  · rcases attained with none | ⟨operation, measured, same⟩
    · exact .inl none
    · have free := acyclic operation measured.1
      exact .inr ⟨operation, free, measured, (values operation free).symm.trans same⟩
  · rintro value (rfl | ⟨operation, free, measured, rfl⟩)
    · exact Nat.zero_le _
    · exact bound (.inr ⟨operation, measured, values operation free⟩)

end Measure

namespace DepthLimit

variable {document : Document} {limit : DepthLimit}

theorem depth_isGreatest (limit : DepthLimit) (acyclic : document.SpreadAcyclic) :
    IsGreatest (insert 0 {depth | ∃ operation way field level,
        document.Measures limit.ignoreIntrospection operation ∧
        document.Occurs operation.selectionSet way field level ∧ min level countLimit = depth})
      (limit.depth document).toNat := by
  obtain ⟨attained, bound⟩ := Measure.largest_isGreatest_cutOff
    limit.ignoreIntrospection rfl measure_cutOff acyclic
  constructor
  · rcases attained with none | ⟨operation, free, measured, cut⟩
    · exact .inl none
    · rcases (Document.expandedDepth_isGreatest free).1 with none | ⟨way, field, occurs⟩
      · have empty : exactMeasure.expandedValue document operation free = 0 := none
        rw [empty, Nat.zero_min] at cut
        exact .inl cut.symm
      · exact .inr ⟨operation, way, field, _, measured, occurs, cut⟩
  · rintro depth (rfl | ⟨operation, way, field, level, measured, occurs, rfl⟩)
    · exact Nat.zero_le _
    · have free := acyclic operation measured.1
      have deepest : level ≤ exactMeasure.expandedValue document operation free :=
        (Document.expandedDepth_isGreatest free).2 (.inr ⟨way, field, occurs⟩)
      have largest := bound (.inr ⟨operation, free, measured, rfl⟩)
      exact (min_le_min_right countLimit deepest).trans largest

theorem evaluate_isSome_iff (limit : DepthLimit) (acyclic : document.SpreadAcyclic) :
    (limit.guard.evaluate document).isSome ↔ ∃ operation way field level,
      document.Measures limit.ignoreIntrospection operation ∧
      document.Occurs operation.selectionSet way field level ∧ limit.maxDepth.toNat < level := by
  have small := toNat_smallCount_lt limit.maxDepth
  obtain ⟨attained, bound⟩ := limit.depth_isGreatest acyclic
  refine (violationAbove_isSome _ _ _).trans ?_
  rw [UInt64.lt_iff_toNat_lt]
  rw [UInt32.toNat_toUInt64] at small ⊢
  constructor
  · intro above
    rcases attained with none | ⟨operation, way, field, level, measured, occurs, cut⟩
    · omega
    · exact ⟨operation, way, field, level, measured, occurs, by omega⟩
  · rintro ⟨operation, way, field, level, measured, occurs, above⟩
    have largest := bound (.inr ⟨operation, way, field, level, measured, occurs, rfl⟩)
    omega

end DepthLimit

theorem AliasLimit.count_isGreatest (limit : AliasLimit) {document : Document}
    (acyclic : document.SpreadAcyclic) :
    IsGreatest (insert 0 {count | ∃ operation,
        document.Measures limit.ignoreIntrospection operation ∧
        min (document.aliasedOccurrences operation.selectionSet).ncard countLimit = count})
      (limit.count document).toNat := by
  have counted : ∀ operation free, exactMeasure.expandedValue document operation free =
      (document.aliasedOccurrences operation.selectionSet).ncard :=
    fun _ free => (Document.aliasedOccurrences_finite free).2
  obtain ⟨attained, bound⟩ := Measure.largest_isGreatest_cutOff
    limit.ignoreIntrospection rfl measure_cutOff acyclic
  constructor
  · rcases attained with none | ⟨operation, free, measured, cut⟩
    · exact .inl none
    · rw [counted] at cut
      exact .inr ⟨operation, measured, cut⟩
  · rintro count (rfl | ⟨operation, measured, rfl⟩)
    · exact Nat.zero_le _
    · have free := acyclic operation measured.1
      rw [← counted operation free]
      exact bound (.inr ⟨operation, free, measured, rfl⟩)

/-- Without cycles the depth is the largest level at which a field occurs in a measured operation,
exactly so where no more fields are written than a count can hold, and the limit rejects when a
level is beyond it. The aliases are the ways to an aliased field in the operation with most of them,
cut off at the largest count. -/
theorem Policy.measures_occurrences (policy : Policy) {document : Document}
    (acyclic : document.SpreadAcyclic) :
    (IsGreatest (insert 0 {depth | ∃ operation way field level,
          document.Measures policy.depth.ignoreIntrospection operation ∧
          document.Occurs operation.selectionSet way field level ∧ min level countLimit = depth})
        (policy.depth.depth document).toNat ∧
      ((∀ operation ∈ document.operations, document.writtenFieldCount operation ≤ countLimit) →
        IsGreatest (insert 0 {level | ∃ operation way field,
            document.Measures policy.depth.ignoreIntrospection operation ∧
            document.Occurs operation.selectionSet way field level})
          (policy.depth.depth document).toNat) ∧
      ((policy.depth.guard.evaluate document).isSome ↔ ∃ operation way field level,
        document.Measures policy.depth.ignoreIntrospection operation ∧
        document.Occurs operation.selectionSet way field level ∧
        policy.depth.maxDepth.toNat < level)) ∧
    (∀ operation ∈ document.operations,
      (document.aliasedOccurrences operation.selectionSet).Finite) ∧
    IsGreatest (insert 0 {count | ∃ operation,
        document.Measures policy.aliases.ignoreIntrospection operation ∧
        min (document.aliasedOccurrences operation.selectionSet).ncard countLimit = count})
      (policy.aliases.count document).toNat := by
  have depth := policy.depth.depth_isGreatest acyclic
  refine ⟨⟨depth, fun few => ?_, policy.depth.evaluate_isSome_iff acyclic⟩,
    fun operation member => (Document.aliasedOccurrences_finite (acyclic operation member)).1,
    policy.aliases.count_isGreatest acyclic⟩
  convert depth using 2
  ext level
  constructor
  · rintro ⟨operation, way, field, measured, occurs⟩
    have written := occurs.level_le_written (acyclic operation measured.1)
    have small := few operation measured.1
    exact ⟨operation, way, field, level, measured, occurs, by omega⟩
  · rintro ⟨operation, way, field, exact, measured, occurs, rfl⟩
    have written := occurs.level_le_written (acyclic operation measured.1)
    have small := few operation measured.1
    rw [Nat.min_eq_left (by omega)]
    exact ⟨operation, way, field, measured, occurs⟩

def pagesQuery : Operation where
  selectionSet := [.field { name := "pages" }
    [.fragmentSpread { name := "Page" }, .fragmentSpread { name := "Page" }]]

def pages : Document where
  sourceLength := 0
  operations := [pagesQuery]
  fragments := [
    { name := "Page", typeCondition := "Page",
      selectionSet := [
        .field { name := "author", aliasName := some "by" } [.fragmentSpread { name := "Person" }],
        .inlineFragment {} [.fragmentSpread { name := "Person" }]] },
    { name := "Person", typeCondition := "Person",
      selectionSet := [.field { name := "name", aliasName := some "key" } []] }]

/-- Either spread of the page has three ways to an aliased field. -/
theorem occurrences_pages : pages.SpreadAcyclic ∧ pages.writtenFieldCount pagesQuery ≤ countLimit ∧
    IsGreatest (insert 0 {level | ∃ operation way field, pages.Measures true operation ∧
      pages.Occurs operation.selectionSet way field level}) 3 ∧
    (pages.aliasedOccurrences pagesQuery.selectionSet).ncard = 6 := by
  have acyclic : pages.SpreadAcyclic :=
    Document.spreadAcyclic_of_rank (fun name => if name = "Page" then 1 else 0) (by decide)
  have few : pages.writtenFieldCount pagesQuery ≤ countLimit :=
    (pages.writtenFieldCount_le pagesQuery).trans (by decide)
  obtain ⟨⟨-, exact, -⟩, -, attained, -⟩ := Policy.measures_occurrences {} acyclic
  have depth : (({} : Policy).depth.depth pages).toNat = 3 := by cbv
  have aliases : (({} : Policy).aliases.count pages).toNat = 6 := by cbv
  refine ⟨acyclic, few, ?_, ?_⟩
  · rw [← depth]
    exact exact fun operation member => List.mem_singleton.1 member ▸ few
  · rw [aliases] at attained
    rcases attained with none | ⟨operation, ⟨member, -⟩, cut⟩
    · cases none
    · obtain rfl := List.mem_singleton.1 member
      have small : (6 : Nat) < countLimit := by decide
      omega

end QueryShield
