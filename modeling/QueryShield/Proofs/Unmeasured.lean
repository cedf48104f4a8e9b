import QueryShield.Proofs.Matching
import QueryShield.Proofs.Relaxation
import QueryShield.Proofs.Verdict

namespace QueryShield

/-- Counts stay related when they are added, multiplied and compared. -/
structure CountCongruence (related : UInt64 → UInt64 → Prop) : Prop where
  refl : ∀ count, related count count
  add : ∀ {a b x y}, related a b → related x y → related (addCapped a x) (addCapped b y)
  mul : ∀ {a b x y}, related a b → related x y → related (mulCapped a x) (mulCapped b y)
  larger : ∀ {a b x y}, related a b → related x y → related (max a x) (max b y)

theorem CountCongruence.eq : CountCongruence (· = ·) where
  refl := fun _ => rfl
  add := congrArg₂ addCapped
  mul := congrArg₂ mulCapped
  larger := congrArg₂ max

theorem CountCongruence.le : CountCongruence (· ≤ ·) where
  refl := UInt64.le_refl
  add := addCapped_mono
  mul := mulCapped_mono
  larger := max_mono

theorem CountCongruence.ge : CountCongruence (· ≥ ·) where
  refl := UInt64.le_refl
  add := addCapped_mono
  mul := mulCapped_mono
  larger := max_mono

section

variable {related : UInt64 → UInt64 → Prop} {matching : Matching} {limit : CostLimit}
  {variableValues otherValues : List (String × Json)}

theorem CostLimit.cardinality_related (congruence : CountCongruence related) {node other : Field}
    (isList : node.isList = other.isList)
    (sizes : ∀ name ∈ limit.listSizeArguments, Option.Rel
      (fun argument partner : Argument => Option.Rel related
        (argument.value.size? variableValues) (partner.value.size? otherValues))
      (node.argument? name) (other.argument? name)) :
    related (limit.cardinality variableValues node) (limit.cardinality otherValues other) := by
  unfold cardinality
  -- an argument without a size is passed over, but it is remembered that there was one
  generalize limit.listSizeArguments = names, false = isSized at sizes
  induction names generalizing isSized with
  | nil =>
    rw [cardinalityFrom, cardinalityFrom, isList]
    exact congruence.refl _
  | cons name rest ih =>
    obtain ⟨first, later⟩ := List.forall_mem_cons.1 sizes
    rw [cardinalityFrom, cardinalityFrom]
    cases found : node.argument? name with
    | none =>
      rw [found] at first
      rw [rel_none_iff.1 first]
      exact ih isSized later
    | some argument =>
      rw [found] at first
      obtain ⟨partner, found', values⟩ := rel_some_iff.1 first
      rw [found']
      cases size : argument.value.size? variableValues with
      | none =>
        rw [size] at values
        simp only [size, rel_none_iff.1 values]
        exact ih true later
      | some items =>
        rw [size] at values
        obtain ⟨items', size', more⟩ := rel_some_iff.1 values
        simp only [size, size']
        exact congruence.larger more (congruence.refl 1)

theorem CostLimit.measure_across (congruence : CountCongruence related)
    (cardinality : ∀ {node other}, matching.field node other →
      related (limit.cardinality variableValues node) (limit.cardinality otherValues other)) :
    Measure.RelatedAcross matching related (limit.measure variableValues)
      (limit.measure otherValues) where
  empty := congruence.refl 0
  combine := congruence.add
  field := fun same set children => by
    refine congruence.mul ?_ (cardinality same)
    rw [set.isEmpty_eq]
    split
    · exact congruence.refl _
    · exact congruence.add (congruence.refl _) children
  inlineFragment := fun _ _ children => children
  fragmentDefinition := fun _ children => children
  fragmentSpread := fun _ fragment => fragment
  operation := fun _ children => children

theorem CostLimit.cost_matched (congruence : CountCongruence related) {document other : Document}
    (matched : document.Matched matching other)
    (cardinality : ∀ {node partner}, matching.field node partner →
      related (limit.cardinality document.variableValues node)
        (limit.cardinality other.variableValues partner)) :
    related (limit.cost document) (limit.cost other) :=
  Measure.largest_matched matched (measure_across congruence cardinality) congruence.larger
    fun same => same.isExempt_eq matched _

structure Field.ArgumentsChanged (changed : Argument → Argument → Prop) (node other : Field) :
    Prop where
  kept : other = { node with arguments := other.arguments }
  arguments : List.Forall₂ changed node.arguments other.arguments

def Matching.ofArguments (changed : Argument → Argument → Prop) : Matching :=
  .ofFields (Field.ArgumentsChanged changed) fun same => by rw [same.kept]

theorem Document.Rewritten.matched_ofArguments {changed : Argument → Argument → Prop}
    {document other : Document} (rewritten : document.Rewritten (.ofArguments changed) other) :
    document.Matched (.ofArguments changed) other :=
  rewritten.matched (Set.injOn_id _) fun _ _ => trivial

theorem CostLimit.cardinality_ofArguments (congruence : CountCongruence related)
    {changed : Argument → Argument → Prop}
    (name : ∀ {argument partner}, changed argument partner → argument.name = partner.name)
    (sizes : ∀ {argument partner}, changed argument partner → Option.Rel related
      (argument.value.size? variableValues) (partner.value.size? otherValues))
    {node other : Field} (same : node.ArgumentsChanged changed other) :
    related (limit.cardinality variableValues node) (limit.cardinality otherValues other) := by
  refine cardinality_related congruence (by rw [same.kept]) fun listed _ => ?_
  refine rel_imp sizes (rel_find? (fun argument _ partner pair => ?_) same.arguments)
  rw [name pair]

end

/-- Nodes that stand for each other are measured alike. -/
structure Matching.Unmeasured (matching : Matching) (limit : CostLimit)
    (variableValues otherValues : List (String × Json)) : Prop where
  aliased : ∀ {node other}, matching.field node other → node.isAliased = other.isAliased
  cardinality : ∀ {node other}, matching.field node other →
    limit.cardinality variableValues node = limit.cardinality otherValues other
  field : ∀ {node other}, matching.field node other → node.directives = other.directives
  inlineFragment : ∀ {node other}, matching.inlineFragment node other →
    node.directives = other.directives
  fragmentSpread : ∀ {spread other}, matching.fragmentSpread spread other →
    spread.directives = other.directives
  fragmentDefinition : ∀ {definition other}, matching.fragmentDefinition definition other →
    definition.directives = other.directives
  operation : ∀ {operation other}, matching.operation operation other →
    operation.directives = other.directives

section

variable {matching : Matching} {limit : CostLimit}
  {variableValues otherValues : List (String × Json)}

theorem Matching.unmeasured_ofArguments {changed : Argument → Argument → Prop}
    (name : ∀ {argument partner}, changed argument partner → argument.name = partner.name)
    (sizes : ∀ {argument partner}, changed argument partner →
      argument.value.size? variableValues = partner.value.size? otherValues) :
    (ofArguments changed).Unmeasured limit variableValues otherValues where
  aliased := fun same => by
    rw [same.kept]
    rfl
  cardinality := by
    refine CostLimit.cardinality_ofArguments .eq name fun {argument partner} same => ?_
    rw [sizes same]
    exact rel_refl (fun _ => rfl) _
  field := fun same => by rw [same.kept]
  inlineFragment := congrArg InlineFragment.directives
  fragmentSpread := congrArg FragmentSpread.directives
  fragmentDefinition := fun same => (congrArg FragmentDefinition.directives same).symm
  operation := fun same => (congrArg Operation.directives same).symm

theorem DepthLimit.measure_across (matching : Matching) :
    Measure.RelatedAcross matching (· = ·) measure measure where
  empty := rfl
  combine := congrArg₂ max
  field := fun _ _ children => congrArg (addCapped · 1) children
  inlineFragment := fun _ _ children => children
  fragmentDefinition := fun _ children => children
  fragmentSpread := fun _ fragment => fragment
  operation := fun _ children => children

theorem AliasLimit.measure_across
    (unmeasured : matching.Unmeasured limit variableValues otherValues) :
    Measure.RelatedAcross matching (· = ·) measure measure where
  empty := rfl
  combine := congrArg₂ addCapped
  field := fun same _ children => by
    simp only [measure, unmeasured.aliased same, children]
  inlineFragment := fun _ _ children => children
  fragmentDefinition := fun _ children => children
  fragmentSpread := fun _ fragment => fragment
  operation := fun _ children => children

theorem DirectiveLimit.measure_across (limit' : DirectiveLimit)
    (unmeasured : matching.Unmeasured limit variableValues otherValues) :
    Measure.RelatedAcross matching (· = ·) limit'.measure limit'.measure :=
  have added : ∀ {directives others : List String} {value partner : UInt64},
      directives = others → value = partner →
      addCapped value (limit'.applied directives) = addCapped partner (limit'.applied others) :=
    fun same children => congrArg₂ addCapped children (congrArg limit'.applied same)
  { empty := rfl
    combine := congrArg₂ addCapped
    field := fun same _ => added (unmeasured.field same)
    inlineFragment := fun same _ => added (unmeasured.inlineFragment same)
    fragmentDefinition := fun same => added (unmeasured.fragmentDefinition same.node)
    fragmentSpread := fun same => added (unmeasured.fragmentSpread same)
    operation := fun same => added (unmeasured.operation same.node) }

variable {policy : Policy} {document other : Document}

theorem Policy.treeMeasures_matched (matched : document.Matched matching other)
    (unmeasured : matching.Unmeasured policy.cost document.variableValues other.variableValues) :
    ∀ measured ∈ policy.treeMeasures, measured document = measured other := by
  have exempt : ∀ ignored {operation partner}, Operation.Matched matching operation partner →
      operation.isExempt document ignored = partner.isExempt other ignored :=
    fun ignored _ _ same => same.isExempt_eq matched ignored
  intro measured member
  simp only [treeMeasures, List.mem_cons, List.not_mem_nil, or_false] at member
  rcases member with rfl | rfl | rfl | rfl
  · exact CostLimit.cost_matched .eq matched unmeasured.cardinality
  · exact Measure.largest_matched matched (AliasLimit.measure_across unmeasured)
      (congrArg₂ max) (exempt _)
  · exact Measure.largest_matched matched (policy.directives.measure_across unmeasured)
      (congrArg₂ max) (exempt _)
  · exact Measure.largest_matched matched (DepthLimit.measure_across matching)
      (congrArg₂ max) (exempt _)

theorem Policy.validate_matched {protection : Protection}
    (accepted : policy.protection = .ok protection)
    (length : document.sourceLength = other.sourceLength)
    (matched : document.Matched matching other)
    (unmeasured : matching.Unmeasured policy.cost document.variableValues other.variableValues) :
    protection.validate document = protection.validate other :=
  validate_congr accepted length (treeMeasures_matched matched unmeasured)

end

end QueryShield
