import Mathlib
import QueryShield.Proofs.Expansion
import QueryShield.Proofs.TopLevel
import QueryShield.Proofs.Verdict

namespace QueryShield

mutual

def Expansion.inlined : Expansion → Selection
  | .field node _ children => .field node (Expansion.inlinedSet children)
  | .inlineFragment node _ children => .inlineFragment node (Expansion.inlinedSet children)
  | .spread node definition children =>
    .inlineFragment { directives := node.directives } [.inlineFragment
      { typeCondition := some definition.typeCondition, directives := definition.directives }
      (Expansion.inlinedSet children)]
  | .undefinedSpread node => .inlineFragment { directives := node.directives } []

def Expansion.inlinedSet : List Expansion → List Selection
  | [] => []
  | node :: rest => node.inlined :: Expansion.inlinedSet rest

end

namespace Document

def inlineOperation (document : Document) (operation : Operation)
    (free : document.CycleFree operation.selectionSet) : Operation :=
  { operation with
    selectionSet := Expansion.inlinedSet (document.expand operation.selectionSet free) }

def inline (document : Document) (acyclic : document.SpreadAcyclic) : Document :=
  { document with
    operations := document.operations.pmap document.inlineOperation
      fun operation member => acyclic operation member
    fragments := [] }

theorem operations_inline {document : Document} (acyclic : document.SpreadAcyclic) :
    (document.inline acyclic).operations = document.operations.pmap document.inlineOperation
      fun operation member => acyclic operation member := rfl

end Document

mutual

theorem Expansion.spreadNames_inlined : ∀ node : Expansion, node.inlined.spreadNames = []
  | .field _ _ children => by
    rw [inlined, Selection.spreadNames, Expansion.spreadNames_inlinedSet children]
  | .inlineFragment _ _ children => by
    rw [inlined, Selection.spreadNames, Expansion.spreadNames_inlinedSet children]
  | .spread _ _ children => by
    simp only [inlined, Selection.spreadNames, Selection.spreadNamesIn,
      Expansion.spreadNames_inlinedSet children, List.append_nil]
  | .undefinedSpread _ => by
    simp only [inlined, Selection.spreadNames, Selection.spreadNamesIn]

theorem Expansion.spreadNames_inlinedSet :
    ∀ tree : List Expansion, Selection.spreadNamesIn (Expansion.inlinedSet tree) = []
  | [] => by rw [inlinedSet, Selection.spreadNamesIn]
  | node :: rest => by
    rw [inlinedSet, Selection.spreadNamesIn, Expansion.spreadNames_inlined node,
      Expansion.spreadNames_inlinedSet rest, List.append_nil]

end

variable {document : Document} {selections : List Selection}

theorem Document.isEmpty_inlinedSet (free : document.CycleFree selections) :
    (Expansion.inlinedSet (document.expand selections free)).isEmpty = selections.isEmpty := by
  cases selections with
  | nil => rw [expand, Expansion.inlinedSet]
  | cons selection rest =>
    cases selection with
    | field | inlineFragment => rw [expand, Expansion.inlinedSet]; rfl
    | fragmentSpread spread =>
      cases found : document.fragment? spread.name with
      | none => rw [expand_undefinedSpread free found, Expansion.inlinedSet]; rfl
      | some definition => rw [expand_spread free found, Expansion.inlinedSet]; rfl

/-- A measure that takes a spread for the inline fragments in its place, and looks at a selection
set for its value and for being a leaf only. -/
structure Measure.SeesThrough {V : Type} (m : Measure V) : Prop where
  field : ∀ field selectionSet others value, selectionSet.isEmpty = others.isEmpty →
    m.field field selectionSet value = m.field field others value
  inlineFragment : ∀ fragment selectionSet others value,
    m.inlineFragment fragment selectionSet value = m.inlineFragment fragment others value
  spread : ∀ (spread : FragmentSpread) definition inner outer value,
    m.inlineFragment { directives := spread.directives } outer (m.combine m.empty
      (m.inlineFragment { typeCondition := some definition.typeCondition,
                          directives := definition.directives } inner value)) =
      m.fragmentSpread spread (m.fragmentDefinition definition value)
  undefinedSpread : ∀ (spread : FragmentSpread) outer,
    m.inlineFragment { directives := spread.directives } outer m.empty =
      m.fragmentSpread spread m.empty
  operation : ∀ operation selectionSet value,
    m.operation { operation with selectionSet } value = m.operation operation value

namespace Measure

variable {V : Type} {m : Measure V} {inlined : Document}

theorem traverse_inlinedSet (sees : m.SeesThrough) (inlined : Document) (inProgress : List String)
    (known : Known V) (selections : List Selection) (free : document.CycleFree selections) :
    ∀ total, Walk.traverse m inlined inProgress known total
        (Expansion.inlinedSet (document.expand selections free)) =
      (m.setValue total (document.expand selections free), known) := by
  induction selections, free using Document.expand.induct with
  | case1 =>
    intro total
    rw [Document.expand, Expansion.inlinedSet, Walk.traverse, setValue]
  | case2 field selectionSet rest free _ ofInner ofRest =>
    intro total
    have same := sees.field field _ _
      (m.setValue m.empty (document.expand selectionSet free.inField))
      (Document.isEmpty_inlinedSet free.inField)
    rw [Document.expand, Expansion.inlinedSet, Expansion.inlined, Walk.traverse]
    simp only [ofInner, ofRest, same, setValue, value]
  | case3 fragment selectionSet rest free _ ofInner ofRest =>
    intro total
    have same := sees.inlineFragment fragment
      (Expansion.inlinedSet (document.expand selectionSet free.inInlineFragment)) selectionSet
      (m.setValue m.empty (document.expand selectionSet free.inInlineFragment))
    rw [Document.expand, Expansion.inlinedSet, Expansion.inlined, Walk.traverse]
    simp only [ofInner, ofRest, same, setValue, value]
  | case4 spread rest free definition found _ ofInner ofRest =>
    intro total
    rw [Document.expand_spread free found, Expansion.inlinedSet, Expansion.inlined]
    simp only [Walk.traverse, ofInner, ofRest, sees.spread, setValue, value]
  | case5 spread rest free missing _ ofRest =>
    intro total
    rw [Document.expand_undefinedSpread free missing, Expansion.inlinedSet, Expansion.inlined]
    simp only [Walk.traverse, ofRest, sees.undefinedSpread, setValue, value]

theorem foldOperation_inlined (sees : m.SeesThrough) {known others : Known V}
    (faithful : m.Faithful document known) (operation : Operation)
    (free : document.CycleFree operation.selectionSet) :
    m.foldOperation inlined others (document.inlineOperation operation free) =
      ((m.foldOperation document known operation).1, others) := by
  rw [(foldOperation_expansion faithful free).1, foldOperation_eq_traverse]
  simp only [Document.inlineOperation, traverse_inlinedSet sees, sees.operation, expandedValue]

theorem foldOperations_inlined (sees : m.SeesThrough) {known others : Known V}
    (faithful : m.Faithful document known) (operations : List Operation)
    (free : ∀ operation ∈ operations, document.CycleFree operation.selectionSet)
    (keep keepInlined : Operation → Bool) (same : ∀ operation free,
      keepInlined (document.inlineOperation operation free) = keep operation) :
    m.foldOperations inlined others
        ((operations.pmap document.inlineOperation free).filter keepInlined) =
      m.foldOperations document known (operations.filter keep) := by
  induction operations generalizing known with
  | nil => rfl
  | cons operation rest ih =>
    have ofFirst := free operation List.mem_cons_self
    have ofRest := fun other member => free other (List.mem_cons_of_mem operation member)
    by_cases kept : keep operation
    · have faithful' := (foldOperation_expansion faithful ofFirst).2
      simp only [List.pmap_cons, List.filter_cons, same, kept, ↓reduceIte, foldOperations,
        foldOperation_inlined sees faithful operation ofFirst]
      rw [ih faithful' ofRest]
    · simp only [List.pmap_cons, List.filter_cons, same, kept]
      exact ih faithful ofRest

end Measure

theorem DepthLimit.measure_seesThrough : DepthLimit.measure.SeesThrough where
  field := fun _ _ _ _ _ => rfl
  inlineFragment := fun _ _ _ _ => rfl
  spread := fun _ _ _ _ value => zero_max value
  undefinedSpread := fun _ _ => rfl
  operation := fun _ _ _ => rfl

theorem AliasLimit.measure_seesThrough : AliasLimit.measure.SeesThrough where
  field := fun _ _ _ _ _ => rfl
  inlineFragment := fun _ _ _ _ => rfl
  spread := fun _ _ _ _ value => zero_addCapped value
  undefinedSpread := fun _ _ => rfl
  operation := fun _ _ _ => rfl

theorem DirectiveLimit.measure_seesThrough (limit : DirectiveLimit) :
    limit.measure.SeesThrough where
  field := fun _ _ _ _ _ => rfl
  inlineFragment := fun _ _ _ _ => rfl
  spread := fun spread _ _ _ _ =>
    congrArg (addCapped · (limit.applied spread.directives)) (zero_addCapped _)
  undefinedSpread := fun _ _ => rfl
  operation := fun _ _ _ => rfl

theorem CostLimit.measure_seesThrough (limit : CostLimit) (variableValues : List (String × Json)) :
    (limit.measure variableValues).SeesThrough where
  field := fun _ _ _ _ same => by simp only [measure, same]
  inlineFragment := fun _ _ _ _ => rfl
  spread := fun _ _ _ _ value => zero_addCapped value
  undefinedSpread := fun _ _ => rfl
  operation := fun _ _ _ => rfl

theorem Document.topField_inlinedSet (inlined : Document) (selections : List Selection)
    (free : document.CycleFree selections) (field : Field) :
    inlined.TopField [] (Expansion.inlinedSet (document.expand selections free)) field ↔
      document.TopField [] selections field := by
  induction selections, free using Document.expand.induct with
  | case1 =>
    rw [expand, Expansion.inlinedSet]
    exact ⟨fun top => absurd top not_topField_nil, fun top => absurd top not_topField_nil⟩
  | case2 node selectionSet rest free _ ofInner ofRest =>
    rw [expand, Expansion.inlinedSet, Expansion.inlined, topField_field, topField_field, ofRest]
  | case3 node selectionSet rest free _ ofInner ofRest =>
    rw [expand, Expansion.inlinedSet, Expansion.inlined, topField_inlineFragment,
      topField_inlineFragment, topField_append, topField_append, ofInner, ofRest]
  | case4 node rest free definition found _ ofInner ofRest =>
    have stands : document.spreadSelections node.name = definition.selectionSet := by
      simp [spreadSelections, found]
    rw [expand_spread free found, Expansion.inlinedSet, Expansion.inlined, topField_spread, stands,
      topField_inlineFragment, topField_append, topField_inlineFragment, List.append_nil, ofInner,
      ofRest]
  | case5 node rest free missing _ ofRest =>
    have stands : document.spreadSelections node.name = [] := by
      simp [spreadSelections, missing]
    rw [expand_undefinedSpread free missing, Expansion.inlinedSet, Expansion.inlined,
      topField_spread, stands, topField_inlineFragment, List.nil_append, ofRest]
    exact (or_iff_right not_topField_nil).symm

theorem Document.isIntrospectionOnly_inlined (inlined : Document) (operation : Operation)
    (free : document.CycleFree operation.selectionSet) :
    (document.inlineOperation operation free).isIntrospectionOnly inlined =
      operation.isIntrospectionOnly document :=
  Operation.isIntrospectionOnly_eq (topField_inlinedSet inlined operation.selectionSet free)

theorem Measure.largest_inlined {V : Type} [Max V] {m : Measure V} (sees : m.SeesThrough)
    (acyclic : document.SpreadAcyclic) (ignored : Bool) :
    m.largest (document.inline acyclic) (·.isExempt (document.inline acyclic) ignored) =
      m.largest document (·.isExempt document ignored) := by
  have same : ∀ operation free,
      (!(document.inlineOperation operation free).isExempt (document.inline acyclic) ignored) =
        !operation.isExempt document ignored := by
    intro operation free
    simp only [Operation.isExempt, Document.isIntrospectionOnly_inlined]
  unfold largest
  rw [Document.operations_inline, foldOperations_inlined sees .nil _ _ _ _ same]

theorem Policy.treeMeasures_inlined (policy : Policy) (acyclic : document.SpreadAcyclic) :
    ∀ measured ∈ policy.treeMeasures, measured (document.inline acyclic) = measured document := by
  intro measured member
  simp only [treeMeasures, List.mem_cons, List.not_mem_nil, or_false] at member
  rcases member with rfl | rfl | rfl | rfl
  · exact Measure.largest_inlined (policy.cost.measure_seesThrough _) acyclic _
  · exact Measure.largest_inlined AliasLimit.measure_seesThrough acyclic _
  · exact Measure.largest_inlined policy.directives.measure_seesThrough acyclic _
  · exact Measure.largest_inlined DepthLimit.measure_seesThrough acyclic _

/-- Every accepted policy gives a document without cycles and its inlined form the same verdict.
The same operations ask about the schema only, and no spread is left. -/
theorem Policy.validate_inline {policy : Policy} {protection : Protection}
    (accepted : policy.protection = .ok protection) (acyclic : document.SpreadAcyclic) :
    (∀ operation ∈ (document.inline acyclic).operations,
      Selection.spreadNamesIn operation.selectionSet = []) ∧
    (document.inline acyclic).operations.map
        (·.isIntrospectionOnly (document.inline acyclic)) =
      document.operations.map (·.isIntrospectionOnly document) ∧
    protection.validate (document.inline acyclic) = protection.validate document := by
  refine ⟨fun other member => ?_, ?_, ?_⟩
  · obtain ⟨operation, found, rfl⟩ := List.mem_pmap.1 member
    exact Expansion.spreadNames_inlinedSet _
  · rw [Document.operations_inline, List.map_pmap]
    simp only [Document.isIntrospectionOnly_inlined, List.pmap_eq_map]
  · exact Policy.validate_congr accepted rfl (policy.treeMeasures_inlined acyclic)

def strictPolicy : Policy where
  aliases := { maxAliases := 2 }
  directives := { maxDirectives := 3 }

theorem strictPolicy_accepted :
    strictPolicy.protection = .ok (.ofGuards strictPolicy.guards) := by
  rfl

theorem validate_inline_sharedFragments :
    (Protection.ofGuards strictPolicy.guards).validate
      (sharedFragments.inline sharedFragments_acyclic) = [.aliases 3 2, .directives 4 3] := by
  obtain ⟨-, -, verdict⟩ := Policy.validate_inline strictPolicy_accepted sharedFragments_acyclic
  rw [verdict]
  cbv

end QueryShield
