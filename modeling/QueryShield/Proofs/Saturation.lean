import Mathlib
import QueryShield.Proofs.RelatedMeasures
import QueryShield.Protection

namespace QueryShield

/-- The value is the exact one, cut off at the largest count. -/
def CutOff (value : UInt64) (exact : Nat) : Prop := value.toNat = min exact countLimit

theorem cutOff_toNat (value : UInt64) : CutOff value value.toNat :=
  (Nat.min_eq_left (toNat_le_countLimit value)).symm

theorem cutOff_capped (exact : Nat) : CutOff (capped exact) exact := toNat_capped exact

section

variable {a b : UInt64} {x y : Nat}

theorem CutOff.add (first : CutOff a x) (second : CutOff b y) : CutOff (addCapped a b) (x + y) := by
  unfold CutOff at *
  rw [toNat_addCapped, first, second]
  omega

theorem CutOff.max (first : CutOff a x) (second : CutOff b y) : CutOff (max a b) (max x y) := by
  unfold CutOff at *
  rw [toNat_max, first, second]
  omega

theorem min_mul_min (x y limit : Nat) :
    min (min x limit * min y limit) limit = min (x * y) limit := by
  -- A factor beyond the limit keeps the product there unless the other one is zero.
  have cut : ∀ {u v : Nat}, limit < u → 0 < v →
      min (limit * min v limit) limit = min (u * v) limit := by
    intro u v beyond positive
    have exact : limit ≤ u * v := by
      calc limit ≤ u := Nat.le_of_lt beyond
        _ ≤ u * v := Nat.le_mul_of_pos_right u positive
    rw [Nat.min_eq_right exact]
    by_cases zero : limit = 0
    · simp [zero]
    · have factor : 0 < min v limit := by omega
      exact Nat.min_eq_right (Nat.le_mul_of_pos_right limit factor)
  by_cases small : x ≤ limit
  · by_cases small' : y ≤ limit
    · rw [Nat.min_eq_left small, Nat.min_eq_left small']
    · rcases Nat.eq_zero_or_pos x with rfl | positive
      · simp
      · have beyond : limit < y := by omega
        rw [Nat.min_eq_right (Nat.le_of_lt beyond), Nat.mul_comm, cut beyond positive,
          Nat.mul_comm]
  · rcases Nat.eq_zero_or_pos y with rfl | positive
    · simp
    · have beyond : limit < x := by omega
      rw [Nat.min_eq_right (Nat.le_of_lt beyond), cut beyond positive]

theorem CutOff.mul (first : CutOff a x) (second : CutOff b y) : CutOff (mulCapped a b) (x * y) := by
  unfold CutOff at *
  rw [toNat_mulCapped, first, second, min_mul_min]

theorem CutOff.lt_iff (cut : CutOff a x) {limit : UInt64} (below : limit.toNat < countLimit) :
    limit < a ↔ limit.toNat < x := by
  unfold CutOff at cut
  rw [UInt64.lt_iff_toNat_lt, cut]
  omega

end

namespace DepthLimit

def exactMeasure : Measure Nat where
  empty := 0
  combine := max
  field := fun _ _ children => children + 1

def exactDepth (limit : DepthLimit) (document : Document) : Nat :=
  exactMeasure.largest document (·.isExempt document limit.ignoreIntrospection)

theorem measure_cutOff : measure.Related CutOff exactMeasure where
  empty := cutOff_toNat 0
  combine := .max
  field := fun _ _ _ _ children => children.add (cutOff_toNat 1)
  inlineFragment := fun _ _ _ _ children => children
  fragmentDefinition := fun _ _ _ children => children
  fragmentSpread := fun _ _ _ fragment => fragment
  operation := fun _ _ _ children => children

theorem depth_cutOff (limit : DepthLimit) (document : Document) :
    CutOff (limit.depth document) (limit.exactDepth document) :=
  Measure.largest_related measure_cutOff .max document _

end DepthLimit

namespace AliasLimit

def exactMeasure : Measure Nat where
  empty := 0
  combine := (· + ·)
  field := fun field _ children => children + if field.isAliased then 1 else 0

def exactCount (limit : AliasLimit) (document : Document) : Nat :=
  exactMeasure.largest document (·.isExempt document limit.ignoreIntrospection)

theorem measure_cutOff : measure.Related CutOff exactMeasure where
  empty := cutOff_toNat 0
  combine := .add
  field := fun field _ _ _ children => by
    by_cases aliased : field.isAliased
    · simp only [measure, exactMeasure, aliased, ↓reduceIte]
      exact children.add (cutOff_toNat 1)
    · simp only [measure, exactMeasure, aliased]
      exact children.add (cutOff_toNat 0)
  inlineFragment := fun _ _ _ _ children => children
  fragmentDefinition := fun _ _ _ children => children
  fragmentSpread := fun _ _ _ fragment => fragment
  operation := fun _ _ _ children => children

theorem count_cutOff (limit : AliasLimit) (document : Document) :
    CutOff (limit.count document) (limit.exactCount document) :=
  Measure.largest_related measure_cutOff .max document _

end AliasLimit

namespace DirectiveLimit

def exactApplied (limit : DirectiveLimit) (directives : List String) : Nat :=
  (if limit.allowDuplicates then directives else distinct directives).length

def exactMeasure (limit : DirectiveLimit) : Measure Nat where
  empty := 0
  combine := (· + ·)
  field := fun field _ children => children + limit.exactApplied field.directives
  inlineFragment := fun fragment _ children => children + limit.exactApplied fragment.directives
  fragmentDefinition := fun definition children =>
    children + limit.exactApplied definition.directives
  fragmentSpread := fun spread fragment => fragment + limit.exactApplied spread.directives
  operation := fun operation children => children + limit.exactApplied operation.directives

def exactCount (limit : DirectiveLimit) (document : Document) : Nat :=
  limit.exactMeasure.largest document (·.isExempt document limit.ignoreIntrospection)

theorem measure_cutOff (limit : DirectiveLimit) : limit.measure.Related CutOff limit.exactMeasure :=
  have applied : ∀ directives, CutOff (limit.applied directives) (limit.exactApplied directives) :=
    fun _ => cutOff_capped _
  { empty := cutOff_toNat 0
    combine := .add
    field := fun _ _ _ _ children => children.add (applied _)
    inlineFragment := fun _ _ _ _ children => children.add (applied _)
    fragmentDefinition := fun _ _ _ children => children.add (applied _)
    fragmentSpread := fun _ _ _ fragment => fragment.add (applied _)
    operation := fun _ _ _ children => children.add (applied _) }

theorem count_cutOff (limit : DirectiveLimit) (document : Document) :
    CutOff (limit.count document) (limit.exactCount document) :=
  Measure.largest_related limit.measure_cutOff .max document _

end DirectiveLimit

namespace Field

def sizes (field : Field) (variableValues : List (String × Json)) (names : List String) :
    List UInt64 :=
  names.filterMap fun name =>
    (field.argument? name).bind fun argument => argument.value.size? variableValues

def carries (field : Field) (names : List String) : Bool :=
  field.arguments.any fun argument => names.contains argument.name

theorem carries_cons (field : Field) (name : String) (rest : List String) :
    field.carries (name :: rest) = ((field.argument? name).isSome || field.carries rest) := by
  rw [Bool.eq_iff_iff]
  simp only [carries, argument?, List.any_eq_true, Bool.or_eq_true, List.find?_isSome,
    List.contains_eq_mem, List.mem_cons, decide_eq_true_eq, beq_iff_eq, and_or_left, exists_or]

end Field

namespace CostLimit

def factor (limit : CostLimit) (variableValues : List (String × Json)) (field : Field) : Nat :=
  match (field.sizes variableValues limit.listSizeArguments).head? with
  | some size => max 1 size.toNat
  | none =>
    if field.isList || field.carries limit.listSizeArguments then limit.listMultiplier.toNat else 1

theorem toNat_cardinalityFrom (limit : CostLimit) (variableValues : List (String × Json))
    (field : Field) (isSized : Bool) (names : List String) :
    (limit.cardinalityFrom variableValues field isSized names).toNat =
      match (field.sizes variableValues names).head? with
      | some size => max 1 size.toNat
      | none =>
        if field.isList || (isSized || field.carries names) then limit.listMultiplier.toNat
        else 1 := by
  induction names generalizing isSized with
  | nil =>
    have none : field.carries [] = false := by simp [Field.carries]
    simp only [cardinalityFrom, Field.sizes, List.filterMap_nil, List.head?_nil, none,
      Bool.or_false]
    split <;> rfl
  | cons name rest ih =>
    cases found : field.argument? name with
    | none =>
      have sizes : field.sizes variableValues (name :: rest) = field.sizes variableValues rest := by
        simp [Field.sizes, found]
      rw [cardinalityFrom, found, sizes, Field.carries_cons, found]
      exact ih isSized
    | some argument =>
      cases size : argument.value.size? variableValues with
      | none =>
        have sizes : field.sizes variableValues (name :: rest) =
            field.sizes variableValues rest := by
          simp [Field.sizes, found, size]
        rw [cardinalityFrom, found, sizes, Field.carries_cons, found]
        simp only [size, ih true, Option.isSome_some, Bool.true_or, Bool.or_true]
      | some items =>
        have sizes : field.sizes variableValues (name :: rest) =
            items :: field.sizes variableValues rest := by
          simp [Field.sizes, found, size]
        rw [cardinalityFrom, found, sizes]
        simp only [size, List.head?_cons, toNat_max, Nat.max_comm, UInt64.toNat_one]

theorem toNat_cardinality (limit : CostLimit) (variableValues : List (String × Json))
    (field : Field) :
    (limit.cardinality variableValues field).toNat = limit.factor variableValues field := by
  rw [cardinality, toNat_cardinalityFrom]
  rfl

def exactMeasure (limit : CostLimit) (variableValues : List (String × Json)) : Measure Nat where
  empty := 0
  combine := (· + ·)
  field := fun field selectionSet children =>
    (if selectionSet.isEmpty then limit.scalarCost.toNat
      else limit.objectCost.toNat + children) * limit.factor variableValues field

def exactCost (limit : CostLimit) (document : Document) : Nat :=
  (limit.exactMeasure document.variableValues).largest document
    (·.isExempt document limit.ignoreIntrospection)

theorem measure_cutOff (limit : CostLimit) (variableValues : List (String × Json)) :
    (limit.measure variableValues).Related CutOff (limit.exactMeasure variableValues) where
  empty := cutOff_toNat 0
  combine := .add
  field := fun field selectionSet _ _ children => by
    have items := cutOff_toNat (limit.cardinality variableValues field)
    rw [toNat_cardinality] at items
    refine CutOff.mul ?_ items
    by_cases leaf : selectionSet.isEmpty
    · simp only [leaf, ↓reduceIte]
      exact cutOff_toNat limit.scalarCost
    · simp only [leaf]
      exact (cutOff_toNat limit.objectCost).add children
  inlineFragment := fun _ _ _ _ children => children
  fragmentDefinition := fun _ _ _ children => children
  fragmentSpread := fun _ _ _ fragment => fragment
  operation := fun _ _ _ children => children

theorem cost_cutOff (limit : CostLimit) (document : Document) :
    CutOff (limit.cost document) (limit.exactCost document) :=
  Measure.largest_related (limit.measure_cutOff document.variableValues) .max document _

end CostLimit

theorem violationAbove_isSome (observed limit : UInt64) (violation : Violation) :
    (violationAbove observed limit violation).isSome ↔ limit < observed := by
  unfold violationAbove
  by_cases above : limit < observed <;> simp [above]

theorem toNat_smallCount_lt (limit : UInt32) : limit.toUInt64.toNat < countLimit := by
  have bound := limit.toNat_lt
  rw [UInt32.toNat_toUInt64]
  simp only [countLimit, UInt64.size]
  omega

/-- What the four limits measure is the exact value cut off at the largest count, and they reject
exactly the documents with an exact value beyond the limit. -/
theorem Policy.measured_exact (policy : Policy) (document : Document) :
    ((policy.cost.cost document).toNat = min (policy.cost.exactCost document) countLimit ∧
      (policy.cost.maxCost.toNat < countLimit →
        ((policy.cost.guard.evaluate document).isSome ↔
          policy.cost.maxCost.toNat < policy.cost.exactCost document))) ∧
    ((policy.aliases.count document).toNat =
        min (policy.aliases.exactCount document) countLimit ∧
      ((policy.aliases.guard.evaluate document).isSome ↔
        policy.aliases.maxAliases.toNat < policy.aliases.exactCount document)) ∧
    ((policy.directives.count document).toNat =
        min (policy.directives.exactCount document) countLimit ∧
      ((policy.directives.guard.evaluate document).isSome ↔
        policy.directives.maxDirectives.toNat < policy.directives.exactCount document)) ∧
    ((policy.depth.depth document).toNat = min (policy.depth.exactDepth document) countLimit ∧
      ((policy.depth.guard.evaluate document).isSome ↔
        policy.depth.maxDepth.toNat < policy.depth.exactDepth document)) := by
  have cost := policy.cost.cost_cutOff document
  have aliases := policy.aliases.count_cutOff document
  have directives := policy.directives.count_cutOff document
  have depth := policy.depth.depth_cutOff document
  refine ⟨⟨cost, fun below => ?_⟩, ⟨aliases, ?_⟩, ⟨directives, ?_⟩, ⟨depth, ?_⟩⟩
  · exact (violationAbove_isSome _ _ _).trans (cost.lt_iff below)
  · exact (violationAbove_isSome _ _ _).trans (aliases.lt_iff (toNat_smallCount_lt _))
  · exact (violationAbove_isSome _ _ _).trans (directives.lt_iff (toNat_smallCount_lt _))
  · exact (violationAbove_isSome _ _ _).trans (depth.lt_iff (toNat_smallCount_lt _))

def largestSize : Argument where
  name := "first"
  value := .int 9223372036854775807

/-- The cost of the fragment is cut off, and so is that of the list around its two spreads. -/
def hugeLists : Document where
  sourceLength := 0
  operations := [
    { selectionSet := [.field { name := "pages", arguments := [largestSize] }
        [.fragmentSpread { name := "Items" }, .fragmentSpread { name := "Items" }]] }]
  fragments := [
    { name := "Items", typeCondition := "Page",
      selectionSet := [.field { name := "items", arguments := [largestSize] }
        [.field { name := "id" } []]] }]

def generousPolicy : Policy where
  cost := { maxCost := 18446744073709551614 }

theorem cost_hugeLists : generousPolicy.cost.cost hugeLists = 18446744073709551615 := by
  cbv

theorem evaluate_hugeLists : generousPolicy.cost.maxCost.toNat < countLimit ∧
    countLimit ≤ generousPolicy.cost.exactCost hugeLists ∧
    (generousPolicy.cost.guard.evaluate hugeLists).isSome := by
  have below : generousPolicy.cost.maxCost.toNat < countLimit := by decide
  obtain ⟨⟨cutOff, rejects⟩, -⟩ := Policy.measured_exact generousPolicy hugeLists
  have largest : countLimit = min (generousPolicy.cost.exactCost hugeLists) countLimit := by
    rw [← cutOff, cost_hugeLists]
    decide
  have beyond : countLimit ≤ generousPolicy.cost.exactCost hugeLists := by omega
  exact ⟨below, beyond, (rejects below).2 (Nat.lt_of_lt_of_le below beyond)⟩

end QueryShield
