import Mathlib.Order.Bounds.Defs
import QueryShield.Proofs.LargestValues
import QueryShield.Proofs.TopLevel
import QueryShield.Proofs.Verdict

namespace QueryShield

namespace Document

/-- The set holds the given selections, and with an inline fragment or the spread of a defined
fragment it holds the selections inside. Fields are not looked into. -/
structure TopClosed (document : Document) (own : List Selection) (reached : Set Selection) :
    Prop where
  own : ∀ selection ∈ own, selection ∈ reached
  inInlineFragment : ∀ fragment selectionSet, .inlineFragment fragment selectionSet ∈ reached →
    ∀ selection ∈ selectionSet, selection ∈ reached
  inSpread : ∀ spread definition, .fragmentSpread spread ∈ reached →
    document.fragment? spread.name = some definition →
    ∀ selection ∈ definition.selectionSet, selection ∈ reached

theorem topLevel_isLeast (document : Document) (own : List Selection) :
    IsLeast {reached | document.TopClosed own reached}
      {selection | document.TopLevel [] own selection} := by
  constructor
  · exact {
      own := fun _ member => .own member
      inInlineFragment := fun _ _ around _ member => .inInlineFragment around member
      inSpread := fun _ _ around found _ member =>
        .inSpread around List.not_mem_nil found member }
  · intro reached closed selection top
    induction top with
    | own member => exact closed.own _ member
    | inInlineFragment _ member ih => exact closed.inInlineFragment _ _ ih _ member
    | inSpread _ _ found member ih => exact closed.inSpread _ _ ih found _ member

end Document

theorem isIntrospectionField_iff {name : String} : isIntrospectionField name = true ↔
    name = "__schema" ∨ name = "__type" ∨ name = "__typename" := by
  simp [isIntrospectionField, introspectionFields]

namespace Measure

variable {m : Measure UInt64} {document : Document}

theorem largest_insert_exempt {before after : List Operation} {operation : Operation}
    (split : document.operations = before ++ after)
    (asks : operation.isIntrospectionOnly document = true) :
    m.largest (document.withOperations (before ++ operation :: after))
        (·.isExempt (document.withOperations (before ++ operation :: after)) true) =
      m.largest document (·.isExempt document true) := by
  have whole : document = document.withOperations (before ++ after) := by
    rw [← split]
    rfl
  have left : (!operation.isExempt document true) = false := by
    simp [Operation.isExempt, asks]
  have kept : (before ++ operation :: after).filter (!·.isExempt document true) =
      (before ++ after).filter (!·.isExempt document true) := by
    simp only [List.filter_append, List.filter_cons, left, Bool.false_eq_true, ↓reduceIte]
  conv_rhs => rw [whole]
  rw [largest_withOperations, largest_withOperations, kept]

theorem largest_exempt_eq (m : Measure UInt64) (document : Document) :
    m.largest document (·.isExempt document true) =
      let others := document.withOperations
        (document.operations.filter (!·.isIntrospectionOnly document))
      m.largest others (·.isExempt others false) := by
  have whole : document = document.withOperations document.operations := rfl
  have none : ∀ operations : List Operation,
      operations.filter (!·.isExempt document false) = operations := fun operations =>
    List.filter_eq_self.2 fun _ _ => rfl
  conv_lhs => rw [whole]
  dsimp only
  rw [largest_withOperations, largest_withOperations, none]
  rfl

end Measure

theorem CostLimit.measure_withExemption (limit : CostLimit) (ignored : Bool)
    (variableValues : List (String × Json)) :
    { limit with ignoreIntrospection := ignored }.measure variableValues =
      limit.measure variableValues := by
  have sizes : ∀ field isSized names,
      { limit with ignoreIntrospection := ignored }.cardinalityFrom variableValues field isSized
        names = limit.cardinalityFrom variableValues field isSized names := by
    intro field isSized names
    induction names generalizing isSized with
    | nil => rfl
    | cons name rest ih => simp only [cardinalityFrom, ih]
  simp only [measure, cardinality, sizes]

def Policy.withExemptions (policy : Policy) (ignored : Bool) : Policy :=
  { policy with
    cost := { policy.cost with ignoreIntrospection := ignored }
    aliases := { policy.aliases with ignoreIntrospection := ignored }
    directives := { policy.directives with ignoreIntrospection := ignored }
    depth := { policy.depth with ignoreIntrospection := ignored } }

/-- An operation asks about the schema only when the least set of selections at its top level has a
field, and no field other than introspection fields. With another field it is never exempt. A limit
that leaves such operations out measures what it would measure of the others alone, so it does not
matter where one is put in. -/
theorem Policy.exempts_exactly (policy : Policy) (document : Document) :
    (∀ operation : Operation, ∃ reached,
      IsLeast {reached | document.TopClosed operation.selectionSet reached} reached ∧
      (operation.isIntrospectionOnly document = true ↔
        (∃ field selectionSet, .field field selectionSet ∈ reached) ∧
        ∀ field selectionSet, .field field selectionSet ∈ reached →
          field.name = "__schema" ∨ field.name = "__type" ∨ field.name = "__typename") ∧
      ∀ field selectionSet, .field field selectionSet ∈ reached →
        isIntrospectionField field.name = false →
        ∀ ignored, operation.isExempt document ignored = false) ∧
    (∀ measured ∈ (policy.withExemptions true).treeMeasures, ∀ before operation after,
      document.operations = before ++ after → operation.isIntrospectionOnly document = true →
      measured (document.withOperations (before ++ operation :: after)) = measured document) ∧
    (policy.withExemptions true).treeMeasures.map (· document) =
      (policy.withExemptions false).treeMeasures.map (· (document.withOperations
        (document.operations.filter (!·.isIntrospectionOnly document)))) := by
  refine ⟨fun operation => ?_, fun measured member before operation after split asks => ?_, ?_⟩
  · have only := operation.isIntrospectionOnly_iff document
    simp only [Introspection.OnlyIntrospection, Document.TopField, isIntrospectionField_iff,
      Bool.false_eq_true, false_or, forall_exists_index] at only
    refine ⟨_, document.topLevel_isLeast operation.selectionSet, only.trans and_comm, ?_⟩
    intro field selectionSet top other ignored
    have counted : operation.isIntrospectionOnly document = false := by
      rw [Bool.eq_false_iff]
      intro asks
      have name := (only.1 asks).1 field selectionSet top
      rw [isIntrospectionField_iff.2 name] at other
      cases other
    rw [Operation.isExempt, counted, Bool.and_false]
  · simp only [treeMeasures, List.mem_cons, List.not_mem_nil, or_false] at member
    rcases member with rfl | rfl | rfl | rfl <;> exact Measure.largest_insert_exempt split asks
  · simp only [treeMeasures, List.map_cons, List.map_nil, List.cons.injEq, and_true]
    refine ⟨?_, Measure.largest_exempt_eq _ _, Measure.largest_exempt_eq _ _,
      Measure.largest_exempt_eq _ _⟩
    simp only [CostLimit.cost, withExemptions, CostLimit.measure_withExemption]
    exact Measure.largest_exempt_eq _ _

def metaQuery : Operation where
  selectionSet := [.fragmentSpread { name := "Meta" }, .fragmentSpread { name := "Nowhere" }]

def userQuery : Operation where
  selectionSet := [.fragmentSpread { name := "Meta" },
    .inlineFragment {} [.field { name := "user", aliasName := some "me" } []]]

/-- The fragment spreads itself and asks for an alias of an introspection field. -/
def loopedMeta : Document where
  sourceLength := 0
  operations := [userQuery]
  fragments := [
    { name := "Meta", typeCondition := "Query",
      selectionSet := [.field { name := "__type", aliasName := some "kind" } [],
        .fragmentSpread { name := "Meta" }] }]

theorem exempts_metaQuery : metaQuery.isIntrospectionOnly loopedMeta = true ∧
    userQuery.isExempt loopedMeta true = false ∧
    (({} : Policy).withExemptions true).aliases.count
      (loopedMeta.withOperations [metaQuery, userQuery]) = 2 := by
  obtain ⟨operations, inserted, -⟩ := Policy.exempts_exactly {} loopedMeta
  have asks : metaQuery.isIntrospectionOnly loopedMeta = true := by cbv
  have top : loopedMeta.TopLevel [] userQuery.selectionSet
      (.field { name := "user", aliasName := some "me" } []) :=
    .inInlineFragment (.own (List.mem_cons_of_mem _ List.mem_cons_self)) List.mem_cons_self
  obtain ⟨reached, least, -, counted⟩ := operations userQuery
  obtain rfl := least.unique (loopedMeta.topLevel_isLeast userQuery.selectionSet)
  refine ⟨asks, counted _ _ top (by decide) true, ?_⟩
  have same := inserted (({} : Policy).withExemptions true).aliases.count
    (List.mem_cons_of_mem _ List.mem_cons_self) [] metaQuery [userQuery] rfl asks
  refine same.trans ?_
  cbv

end QueryShield
