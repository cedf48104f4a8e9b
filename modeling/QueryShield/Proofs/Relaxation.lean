import Mathlib
import QueryShield.Proofs.Expansion
import QueryShield.Proofs.Independence
import QueryShield.Proofs.RelatedMeasures
import QueryShield.Proofs.Saturation

namespace QueryShield

section

variable {a b x y : UInt64}

theorem capped_mono {n k : Nat} (below : n ≤ k) : capped n ≤ capped k := by
  rw [UInt64.le_iff_toNat_le, toNat_capped, toNat_capped]
  omega

theorem addCapped_mono (first : a ≤ b) (second : x ≤ y) : addCapped a x ≤ addCapped b y := by
  rw [UInt64.le_iff_toNat_le] at first second
  exact capped_mono (Nat.add_le_add first second)

theorem mulCapped_mono (first : a ≤ b) (second : x ≤ y) : mulCapped a x ≤ mulCapped b y := by
  rw [UInt64.le_iff_toNat_le] at first second
  exact capped_mono (Nat.mul_le_mul first second)

theorem max_mono (first : a ≤ b) (second : x ≤ y) : max a x ≤ max b y := by
  rw [UInt64.le_iff_toNat_le] at first second ⊢
  rw [toNat_max, toNat_max]
  omega

end

namespace Measure

variable {m n : Measure UInt64} {document : Document}

theorem largest_mono (below : m.Related (· ≤ ·) n) (document : Document)
    (isExempt : Operation → Bool) : m.largest document isExempt ≤ n.largest document isExempt :=
  largest_related below max_mono document isExempt

theorem largest_le_of_exempt (zero : m.empty = 0) (acyclic : document.SpreadAcyclic)
    {isExempt others : Operation → Bool}
    (more : ∀ operation, isExempt operation = true → others operation = true) :
    m.largest document others ≤ m.largest document isExempt := by
  rw [largest_le_iff zero acyclic]
  intro operation member counted
  have kept : isExempt operation = false := by
    cases left : isExempt operation with
    | false => rfl
    | true =>
      rw [more operation left] at counted
      cases counted
  exact (largest_le_iff zero acyclic isExempt _).1 (UInt64.le_refl _) operation member kept

/-- A lower measure of the same operations, or of fewer operations where no cycles are. -/
theorem largest_relaxed (zero : m.empty = 0) (below : m.Related (· ≤ ·) n) {ignored others : Bool}
    (exempts : ignored = others ∨ document.SpreadAcyclic ∧ ignored ≤ others) :
    m.largest document (·.isExempt document others) ≤
      n.largest document (·.isExempt document ignored) := by
  have lower := largest_mono below document (·.isExempt document ignored)
  rcases exempts with rfl | ⟨acyclic, wider⟩
  · exact lower
  · have more : ∀ operation : Operation, operation.isExempt document ignored = true →
        operation.isExempt document others = true := by
      intro operation left
      obtain ⟨on, only⟩ := Bool.and_eq_true_iff.1 left
      rw [Operation.isExempt, wider on, only]
      rfl
    exact UInt64.le_trans (largest_le_of_exempt zero acyclic more) lower

end Measure

theorem DepthLimit.measure_mono : measure.Related (· ≤ ·) measure where
  empty := UInt64.le_refl _
  combine := max_mono
  field := fun _ _ _ _ children => addCapped_mono children (UInt64.le_refl _)
  inlineFragment := fun _ _ _ _ children => children
  fragmentDefinition := fun _ _ _ children => children
  fragmentSpread := fun _ _ _ fragment => fragment
  operation := fun _ _ _ children => children

theorem AliasLimit.measure_mono : measure.Related (· ≤ ·) measure where
  empty := UInt64.le_refl _
  combine := addCapped_mono
  field := fun _ _ _ _ children => addCapped_mono children (UInt64.le_refl _)
  inlineFragment := fun _ _ _ _ children => children
  fragmentDefinition := fun _ _ _ children => children
  fragmentSpread := fun _ _ _ fragment => fragment
  operation := fun _ _ _ children => children

theorem distinct_eq_dedup (names : List String) : distinct names = names.dedup := by
  induction names with
  | nil => rfl
  | cons name rest ih => rw [distinct, List.dedup_cons, ih]

theorem DirectiveLimit.applied_mono {relaxed limit : DirectiveLimit}
    (duplicates : relaxed.allowDuplicates ≤ limit.allowDuplicates) (directives : List String) :
    relaxed.applied directives ≤ limit.applied directives := by
  have fewer : (distinct directives).length ≤ directives.length := by
    rw [distinct_eq_dedup]
    exact (List.dedup_sublist directives).length_le
  apply capped_mono
  cases strict : relaxed.allowDuplicates with
  | true => rw [duplicates strict]
  | false =>
    cases limit.allowDuplicates with
    | true => exact fewer
    | false => exact Nat.le_refl _

theorem DirectiveLimit.measure_mono {relaxed limit : DirectiveLimit}
    (duplicates : relaxed.allowDuplicates ≤ limit.allowDuplicates) :
    relaxed.measure.Related (· ≤ ·) limit.measure :=
  have applied := applied_mono duplicates
  { empty := UInt64.le_refl _
    combine := addCapped_mono
    field := fun _ _ _ _ children => addCapped_mono children (applied _)
    inlineFragment := fun _ _ _ _ children => addCapped_mono children (applied _)
    fragmentDefinition := fun _ _ _ children => addCapped_mono children (applied _)
    fragmentSpread := fun _ _ _ fragment => addCapped_mono fragment (applied _)
    operation := fun _ _ _ children => addCapped_mono children (applied _) }

structure CostLimit.Cheaper (relaxed limit : CostLimit) : Prop where
  sizes : relaxed.listSizeArguments = limit.listSizeArguments
  scalar : relaxed.scalarCost ≤ limit.scalarCost
  object : relaxed.objectCost ≤ limit.objectCost
  multiplier : relaxed.listMultiplier ≤ limit.listMultiplier

theorem CostLimit.Cheaper.cardinality {relaxed limit : CostLimit} (cheaper : relaxed.Cheaper limit)
    (variableValues : List (String × Json)) (field : Field) :
    relaxed.cardinality variableValues field ≤ limit.cardinality variableValues field := by
  have multiplier := UInt64.le_iff_toNat_le.1 cheaper.multiplier
  rw [UInt64.le_iff_toNat_le, toNat_cardinality, toNat_cardinality, factor, factor, cheaper.sizes]
  split
  · exact Nat.le_refl _
  · split
    · exact multiplier
    · exact Nat.le_refl _

theorem CostLimit.Cheaper.measure {relaxed limit : CostLimit} (cheaper : relaxed.Cheaper limit)
    (variableValues : List (String × Json)) :
    (relaxed.measure variableValues).Related (· ≤ ·) (limit.measure variableValues) where
  empty := UInt64.le_refl _
  combine := addCapped_mono
  field := fun field selectionSet _ _ children => by
    refine mulCapped_mono ?_ (cheaper.cardinality variableValues field)
    split
    · exact cheaper.scalar
    · exact addCapped_mono cheaper.object children
  inlineFragment := fun _ _ _ _ children => children
  fragmentDefinition := fun _ _ _ children => children
  fragmentSpread := fun _ _ _ fragment => fragment
  operation := fun _ _ _ children => children

theorem violationAbove_eq_none {observed limit : UInt64} {violation : Violation} :
    violationAbove observed limit violation = none ↔ observed ≤ limit := by
  have some := violationAbove_isSome observed limit violation
  rw [← Option.not_isSome_iff_eq_none, some, UInt64.not_lt]

theorem Protection.rejections_eq_nil {document : Document} {guards : List Guard} :
    rejections document guards = [] ↔ ∀ guard ∈ guards, guard.evaluate document = none := by
  induction guards with
  | nil => simp [rejections]
  | cons guard rest ih =>
    rw [rejections, List.forall_mem_cons]
    cases guard.evaluate document with
    | none => simp [ih]
    | some violation => cases guard.shortCircuits <;> simp

namespace Policy

theorem validate_eq_nil {policy : Policy} {protection : Protection}
    (accepted : policy.protection = .ok protection) (document : Document) :
    protection.validate document = [] ↔
      (policy.characterLimit.enabled = true →
        document.sourceLength ≤ policy.characterLimit.maxCharacters) ∧
      (policy.cost.enabled = true → policy.cost.cost document ≤ policy.cost.maxCost) ∧
      (policy.aliases.enabled = true →
        policy.aliases.count document ≤ policy.aliases.maxAliases.toUInt64) ∧
      (policy.directives.enabled = true →
        policy.directives.count document ≤ policy.directives.maxDirectives.toUInt64) ∧
      (policy.depth.enabled = true →
        policy.depth.depth document ≤ policy.depth.maxDepth.toUInt64) := by
  obtain rfl := protection_ofGuards accepted
  rw [Protection.validate, Protection.rejections_eq_nil]
  simp only [Protection.ofGuards, guards, List.mem_filter, Bool.and_eq_true, and_imp,
    List.forall_mem_cons, List.not_mem_nil, SuggestionMask.guard, CharacterLimit.guard,
    CostLimit.guard, AliasLimit.guard, DirectiveLimit.guard, DepthLimit.guard,
    violationAbove_eq_none]
  simp

/-- A policy with no guard that the other one does not enable, no lower limit and no higher price. -/
structure Relaxes (relaxed policy : Policy) : Prop where
  characterLimit : relaxed.characterLimit.enabled = true → policy.characterLimit.enabled = true ∧
    policy.characterLimit.maxCharacters ≤ relaxed.characterLimit.maxCharacters
  cost : relaxed.cost.enabled = true → policy.cost.enabled = true ∧
    policy.cost.maxCost ≤ relaxed.cost.maxCost
  aliases : relaxed.aliases.enabled = true → policy.aliases.enabled = true ∧
    policy.aliases.maxAliases ≤ relaxed.aliases.maxAliases
  directives : relaxed.directives.enabled = true → policy.directives.enabled = true ∧
    policy.directives.maxDirectives ≤ relaxed.directives.maxDirectives
  depth : relaxed.depth.enabled = true → policy.depth.enabled = true ∧
    policy.depth.maxDepth ≤ relaxed.depth.maxDepth
  cheaper : relaxed.cost.Cheaper policy.cost
  duplicates : relaxed.directives.allowDuplicates ≤ policy.directives.allowDuplicates

structure Exemptions (compare : Bool → Bool → Prop) (policy relaxed : Policy) : Prop where
  cost : compare policy.cost.ignoreIntrospection relaxed.cost.ignoreIntrospection
  aliases : compare policy.aliases.ignoreIntrospection relaxed.aliases.ignoreIntrospection
  directives : compare policy.directives.ignoreIntrospection relaxed.directives.ignoreIntrospection
  depth : compare policy.depth.ignoreIntrospection relaxed.depth.ignoreIntrospection

theorem Exemptions.imp {compare others : Bool → Bool → Prop} {policy relaxed : Policy}
    (exemptions : Exemptions compare policy relaxed)
    (weaker : ∀ ignored other, compare ignored other → others ignored other) :
    Exemptions others policy relaxed where
  cost := weaker _ _ exemptions.cost
  aliases := weaker _ _ exemptions.aliases
  directives := weaker _ _ exemptions.directives
  depth := weaker _ _ exemptions.depth

theorem Relaxes.passes {policy relaxed : Policy} {strict loose : Protection}
    (relaxes : relaxed.Relaxes policy) (accepted : policy.protection = .ok strict)
    (accepted' : relaxed.protection = .ok loose) {document : Document}
    (exemptions : Exemptions (fun ignored others =>
      ignored = others ∨ document.SpreadAcyclic ∧ ignored ≤ others) policy relaxed)
    (passes : strict.validate document = []) : loose.validate document = [] := by
  obtain ⟨length, cost, aliases, directives, depth⟩ := (validate_eq_nil accepted document).1 passes
  have wider : ∀ {low high : UInt32}, low ≤ high → low.toUInt64 ≤ high.toUInt64 := by
    intro low high below
    rw [UInt64.le_iff_toNat_le, UInt32.toNat_toUInt64, UInt32.toNat_toUInt64]
    exact UInt32.le_iff_toNat_le.1 below
  rw [validate_eq_nil accepted']
  refine ⟨fun enabled => ?_, fun enabled => ?_, fun enabled => ?_, fun enabled => ?_,
    fun enabled => ?_⟩
  · obtain ⟨before, higher⟩ := relaxes.characterLimit enabled
    exact UInt64.le_trans (length before) higher
  · obtain ⟨before, higher⟩ := relaxes.cost enabled
    have lower := Measure.largest_relaxed rfl
      (relaxes.cheaper.measure document.variableValues) exemptions.cost
    exact UInt64.le_trans lower (UInt64.le_trans (cost before) higher)
  · obtain ⟨before, higher⟩ := relaxes.aliases enabled
    have lower := Measure.largest_relaxed rfl AliasLimit.measure_mono exemptions.aliases
    exact UInt64.le_trans lower (UInt64.le_trans (aliases before) (wider higher))
  · obtain ⟨before, higher⟩ := relaxes.directives enabled
    have lower := Measure.largest_relaxed rfl (DirectiveLimit.measure_mono relaxes.duplicates)
      exemptions.directives
    exact UInt64.le_trans lower (UInt64.le_trans (directives before) (wider higher))
  · obtain ⟨before, higher⟩ := relaxes.depth enabled
    have lower := Measure.largest_relaxed rfl DepthLimit.measure_mono exemptions.depth
    exact UInt64.le_trans lower (UInt64.le_trans (depth before) (wider higher))

/-- Relaxing a policy rejects no document that passed. Where fragments are on cycles this holds as
long as the exemptions stay as they are, and otherwise also when there are more of them. -/
theorem validate_relaxed {policy relaxed : Policy} {strict loose : Protection}
    (accepted : policy.protection = .ok strict) (accepted' : relaxed.protection = .ok loose)
    (relaxes : relaxed.Relaxes policy) (document : Document)
    (passes : strict.validate document = []) :
    (Exemptions (· = ·) policy relaxed → loose.validate document = []) ∧
    (document.SpreadAcyclic → Exemptions (· ≤ ·) policy relaxed →
      loose.validate document = []) := by
  constructor
  · intro same
    exact relaxes.passes accepted accepted' (same.imp fun _ _ equal => .inl equal) passes
  · intro acyclic more
    exact relaxes.passes accepted accepted' (more.imp fun _ _ wider => .inr ⟨acyclic, wider⟩) passes

end Policy

def firmPolicy : Policy where
  cost := { maxCost := 12 }
  aliases := { maxAliases := 3 }
  directives := { maxDirectives := 4 }

def lenientPolicy : Policy where
  characterLimit := { enabled := false }
  cost := { maxCost := 12, objectCost := 1, listMultiplier := 1 }
  aliases := { maxAliases := 20 }
  directives := { maxDirectives := 4, allowDuplicates := false }

def exemptingPolicy : Policy where
  characterLimit := lenientPolicy.characterLimit
  cost := lenientPolicy.cost
  aliases := { maxAliases := 20, ignoreIntrospection := true }
  directives := { maxDirectives := 4, allowDuplicates := false, ignoreIntrospection := true }

theorem lenientPolicy_relaxes : lenientPolicy.Relaxes firmPolicy where
  characterLimit := by decide
  cost := by decide
  aliases := by decide
  directives := by decide
  depth := by decide
  cheaper := ⟨rfl, by decide, by decide, by decide⟩
  duplicates := by decide

theorem exemptingPolicy_relaxes : exemptingPolicy.Relaxes firmPolicy :=
  { lenientPolicy_relaxes with
    aliases := by decide
    directives := by decide }

/-- The first document has a cycle, and the second one has none. -/
theorem validate_lenient :
    (Protection.ofGuards lenientPolicy.guards).validate twoWayCycle = [] ∧
    (Protection.ofGuards exemptingPolicy.guards).validate sharedFragments = [] := by
  constructor
  · have passes : (Protection.ofGuards firmPolicy.guards).validate twoWayCycle = [] := by cbv
    obtain ⟨same, -⟩ := Policy.validate_relaxed rfl rfl lenientPolicy_relaxes twoWayCycle passes
    exact same ⟨rfl, rfl, rfl, rfl⟩
  · have passes : (Protection.ofGuards firmPolicy.guards).validate sharedFragments = [] := by cbv
    obtain ⟨-, more⟩ :=
      Policy.validate_relaxed rfl rfl exemptingPolicy_relaxes sharedFragments passes
    exact more sharedFragments_acyclic ⟨by decide, by decide, by decide, by decide⟩

end QueryShield
