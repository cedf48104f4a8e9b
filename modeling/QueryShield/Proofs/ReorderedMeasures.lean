import Mathlib
import QueryShield.Proofs.FragmentValues
import QueryShield.Proofs.Inlining
import QueryShield.Proofs.Relaxation
import QueryShield.Proofs.ReorderedFragments

namespace QueryShield

namespace Measure

variable {V : Type}

/-- Reordered nodes are worth the same, and so are values that are combined in another order. -/
structure Unordered (m : Measure V) : Prop where
  combine : RightCommutative m.combine
  field : ∀ {node other selectionSet others}, node.Reordered other →
    selectionSet.isEmpty = others.isEmpty → ∀ value,
    m.field node selectionSet value = m.field other others value
  inlineFragment : ∀ {node other selectionSet others}, node.Reordered other → ∀ value,
    m.inlineFragment node selectionSet value = m.inlineFragment other others value
  fragmentDefinition : ∀ {definition other}, definition.Reordered other → ∀ value,
    m.fragmentDefinition definition value = m.fragmentDefinition other value
  fragmentSpread : ∀ {spread other}, spread.Reordered other → ∀ value,
    m.fragmentSpread spread value = m.fragmentSpread other value
  operation : ∀ {operation other}, operation.Reordered other → ∀ value,
    m.operation operation value = m.operation other value

variable {m : Measure V} {table otherTable : String → V} {selections others : List Selection}

theorem setValueWith_rel (unordered : m.Unordered)
    (agree : ∀ name ∈ Selection.spreadNamesIn selections, table name = otherTable name)
    (values : Multiset.Rel (fun selection other =>
      (∀ name ∈ selection.spreadNames, table name = otherTable name) →
        m.valueWith table selection = m.valueWith otherTable other) selections others) (total : V) :
    m.setValueWith table total selections = m.setValueWith otherTable total others := by
  have perm : (selections.map (m.valueWith table)).Perm (others.map (m.valueWith otherTable)) := by
    apply perm_map_of_rel
    refine values.mono fun selection member _ _ value => value fun name spread => ?_
    exact agree name (Selection.spreadNamesIn_subset member spread)
  have := unordered.combine
  rw [setValueWith_eq_foldl, setValueWith_eq_foldl]
  exact perm.foldl_eq total

theorem valueWith_reordered (unordered : m.Unordered) {selection other : Selection}
    (reordered : selection.Reordered other) :
    (∀ name ∈ selection.spreadNames, table name = otherTable name) →
      m.valueWith table selection = m.valueWith otherTable other := by
  refine Selection.Reordered.induction ?_ ?_ ?_ reordered
  · intro node other selectionSet others same set inner agree
    have children := setValueWith_rel unordered agree inner m.empty
    rw [valueWith, valueWith, children]
    exact unordered.field same set.isEmpty_eq _
  · intro node other selectionSet others same _ inner agree
    have children := setValueWith_rel unordered agree inner m.empty
    rw [valueWith, valueWith, children]
    exact unordered.inlineFragment same _
  · intro spread other same agree
    have fragment : table spread.name = otherTable other.name := by
      rw [← same.name]
      exact agree spread.name List.mem_cons_self
    rw [valueWith, valueWith, fragment]
    exact unordered.fragmentSpread same _

theorem setValueWith_reordered (unordered : m.Unordered)
    (reordered : Selection.SetReordered selections others)
    (agree : ∀ name ∈ Selection.spreadNamesIn selections, table name = otherTable name)
    (total : V) :
    m.setValueWith table total selections = m.setValueWith otherTable total others :=
  setValueWith_rel unordered agree
    (reordered.mono fun _ _ _ _ same => valueWith_reordered unordered same) total

variable {document other : Document}

theorem freshValue_reordered (unordered : m.Unordered) (same : document.SameFragments other)
    (free : document.CycleFree selections) : ∀ name ∈ Selection.spreadNamesIn selections,
      m.freshValue document name = m.freshValue other name := by
  refine free.spread_induction ?_ ?_
  · intro name missing
    rw [freshValue_missing missing, freshValue_missing (same.missing missing)]
  · intro name definition found inner ofBody
    -- The body asks the table for the fragments below it only, and for these the tables agree.
    obtain ⟨partner, found', reordered⟩ := same.partner found
    have total := setValueWith_reordered unordered reordered.selectionSet ofBody m.empty
    rw [freshValue_eq found inner,
      freshValue_eq found' (same.cycleFree reordered.selectionSet inner),
      unordered.fragmentDefinition reordered, total]

theorem foldOperation_reordered (unordered : m.Unordered) (same : document.SameFragments other)
    {operation partner : Operation} (reordered : operation.Reordered partner)
    (free : document.CycleFree operation.selectionSet) :
    (m.foldOperation document [] operation).1 = (m.foldOperation other [] partner).1 := by
  have fragments := freshValue_reordered unordered same free
  have total := setValueWith_reordered unordered reordered.selectionSet fragments m.empty
  rw [foldOperation_eq_setValueWith free,
    foldOperation_eq_setValueWith (same.cycleFree reordered.selectionSet free), total]
  exact unordered.operation reordered _

theorem largest_le_reordered {m : Measure UInt64} (zero : m.empty = 0) (unordered : m.Unordered)
    (reordered : document.Reordered other) (same : document.SameFragments other)
    (acyclic : document.SpreadAcyclic) (ignored : Bool) :
    m.largest document (·.isExempt document ignored) ≤
      m.largest other (·.isExempt other ignored) := by
  have acyclic' := reordered.spreadAcyclic same acyclic
  rw [largest_le_iff zero acyclic]
  intro operation member counted
  obtain ⟨partner, listed, of⟩ := Multiset.exists_mem_of_rel_of_mem reordered.operations member
  rw [of.isExempt_eq same] at counted
  rw [foldOperation_reordered unordered same of (acyclic operation member)]
  exact (largest_le_iff zero acyclic' _ _).1 (UInt64.le_refl _) partner listed counted

theorem largest_reordered {m : Measure UInt64} (zero : m.empty = 0) (unordered : m.Unordered)
    (reordered : document.Reordered other) (same : document.SameFragments other)
    (acyclic : document.SpreadAcyclic) (ignored : Bool) :
    m.largest document (·.isExempt document ignored) =
      m.largest other (·.isExempt other ignored) := by
  have acyclic' := reordered.spreadAcyclic same acyclic
  apply UInt64.le_antisymm
  · exact largest_le_reordered zero unordered reordered same acyclic ignored
  · exact largest_le_reordered zero unordered reordered.symm same.symm acyclic' ignored

end Measure

theorem addCapped_rightCommutative : RightCommutative addCapped where
  right_comm a b c := by
    apply UInt64.toNat_inj.1
    simp only [toNat_addCapped]
    omega

theorem DepthLimit.measure_unordered : measure.Unordered where
  combine := inferInstanceAs (RightCommutative (max : UInt64 → UInt64 → UInt64))
  field := fun _ _ _ => rfl
  inlineFragment := fun _ _ => rfl
  fragmentDefinition := fun _ _ => rfl
  fragmentSpread := fun _ _ => rfl
  operation := fun _ _ => rfl

theorem Field.Reordered.isAliased_eq {node other : Field} (reordered : node.Reordered other) :
    node.isAliased = other.isAliased := by
  rw [isAliased, isAliased, reordered.aliasName, reordered.name]

theorem AliasLimit.measure_unordered : measure.Unordered where
  combine := addCapped_rightCommutative
  field := fun reordered _ value => by
    simp only [measure, reordered.isAliased_eq]
  inlineFragment := fun _ _ => rfl
  fragmentDefinition := fun _ _ => rfl
  fragmentSpread := fun _ _ => rfl
  operation := fun _ _ => rfl

theorem DirectiveLimit.applied_perm (limit : DirectiveLimit) {directives others : List String}
    (perm : directives.Perm others) : limit.applied directives = limit.applied others := by
  have length : directives.length = others.length := perm.length_eq
  have once : (distinct directives).length = (distinct others).length := by
    rw [distinct_eq_dedup, distinct_eq_dedup]
    exact perm.dedup.length_eq
  rw [applied, applied]
  cases limit.allowDuplicates with
  | true => exact congrArg capped length
  | false => exact congrArg capped once

theorem DirectiveLimit.measure_unordered (limit : DirectiveLimit) : limit.measure.Unordered :=
  have added : ∀ {directives others : List String}, directives.Perm others → ∀ value,
      addCapped value (limit.applied directives) = addCapped value (limit.applied others) :=
    fun perm value => congrArg (addCapped value) (limit.applied_perm perm)
  { combine := addCapped_rightCommutative
    field := fun reordered _ => added reordered.directives
    inlineFragment := fun reordered => added reordered.directives
    fragmentDefinition := fun reordered => added reordered.directives
    fragmentSpread := fun reordered => added reordered.directives
    operation := fun reordered => added reordered.directives }

theorem Field.Reordered.argument?_eq {node other : Field} (reordered : node.Reordered other)
    (name : String) : node.argument? name = other.argument? name := by
  rcases reordered.arguments with same | ⟨distinct, perm⟩
  · rw [argument?, argument?, same]
  · apply List.find?_eq_find?_of_perm perm
    rintro first ⟨member, named⟩ second ⟨listed, alike⟩
    have same : first.name = second.name := (eq_of_beq named).trans (eq_of_beq alike).symm
    exact List.inj_on_of_nodup_map distinct member listed same

theorem CostLimit.cardinality_reordered (limit : CostLimit) (variableValues : List (String × Json))
    {node other : Field} (reordered : node.Reordered other) :
    limit.cardinality variableValues node = limit.cardinality variableValues other := by
  have from_names : ∀ (names : List String) isSized,
      limit.cardinalityFrom variableValues node isSized names =
        limit.cardinalityFrom variableValues other isSized names := by
    intro names
    induction names with
    | nil =>
      intro isSized
      rw [cardinalityFrom, cardinalityFrom, reordered.isList]
    | cons name rest ih =>
      intro isSized
      rw [cardinalityFrom, cardinalityFrom, reordered.argument?_eq name]
      simp only [ih]
  exact from_names _ _

theorem CostLimit.measure_unordered (limit : CostLimit) (variableValues : List (String × Json)) :
    (limit.measure variableValues).Unordered where
  combine := addCapped_rightCommutative
  field := fun reordered empty value => by
    simp only [measure, empty, limit.cardinality_reordered variableValues reordered]
  inlineFragment := fun _ _ => rfl
  fragmentDefinition := fun _ _ => rfl
  fragmentSpread := fun _ _ => rfl
  operation := fun _ _ => rfl

end QueryShield
