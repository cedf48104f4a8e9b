import Mathlib
import QueryShield.Proofs.NodeMaps
import QueryShield.Proofs.Relaxation

namespace QueryShield

def NodeMap.firstDirectives : NodeMap where
  field := fun node => { node with directives := node.directives.eraseDups }
  inlineFragment := fun node => { node with directives := node.directives.eraseDups }
  fragmentSpread := fun spread => { spread with directives := spread.directives.eraseDups }
  fragmentDefinition := fun definition =>
    { definition with directives := definition.directives.eraseDups }
  operation := fun operation => { operation with directives := operation.directives.eraseDups }

def Document.withoutRepetitions (document : Document) : Document :=
  document.mapNodes .firstDirectives

def Matching.withoutRepetitions : Matching where
  field node other := node.name = other.name ∧ other.directives = node.directives.eraseDups
  inlineFragment node other := other.directives = node.directives.eraseDups
  fragmentSpread spread other := other.directives = spread.directives.eraseDups
  fragmentDefinition definition other := other.directives = definition.directives.eraseDups
  operation operation other := other.directives = operation.directives.eraseDups
  name := And.left

theorem NodeMap.firstDirectives_fits : firstDirectives.Fits .withoutRepetitions where
  field := fun _ => ⟨rfl, rfl⟩
  inlineFragment := fun _ => rfl
  fragmentSpread := fun _ => rfl
  spreadName := fun _ => rfl
  fragmentDefinition := fun _ => rfl
  definedName := fun _ => rfl
  operation := fun _ => rfl

theorem Document.matched_withoutRepetitions (document : Document) :
    document.Matched .withoutRepetitions document.withoutRepetitions :=
  document.matched_mapNodes NodeMap.firstDirectives_fits (Set.injOn_id _) fun _ _ => trivial

theorem nodup_eraseDups : ∀ names : List String, names.eraseDups.Nodup
  | [] => List.nodup_nil
  | name :: rest => by
    rw [List.eraseDups_cons, List.nodup_cons, List.mem_eraseDups]
    exact ⟨by simp, nodup_eraseDups _⟩
termination_by names => names.length
decreasing_by exact Nat.lt_succ_of_le (List.length_filter_le _ _)

theorem length_eraseDups (names : List String) :
    names.eraseDups.length = (distinct names).length := by
  rw [distinct_eq_dedup]
  have same : ∀ name, name ∈ names.eraseDups ↔ name ∈ names.dedup := by simp
  exact ((List.perm_ext_iff_of_nodup (nodup_eraseDups names) names.nodup_dedup).2 same).length_eq

namespace DirectiveLimit

theorem measure_withoutRepetitions (limit : DirectiveLimit) :
    Measure.RelatedAcross .withoutRepetitions (· = ·)
      { limit with allowDuplicates := false }.measure
      { limit with allowDuplicates := true }.measure :=
  have added : ∀ {directives others : List String} {value partner : UInt64},
      others = directives.eraseDups → value = partner →
      addCapped value ({ limit with allowDuplicates := false }.applied directives) =
        addCapped partner ({ limit with allowDuplicates := true }.applied others) := by
    rintro directives _ value _ rfl rfl
    exact congrArg (fun count => addCapped value (capped count)) (length_eraseDups directives).symm
  { empty := rfl
    combine := congrArg₂ addCapped
    field := fun same _ => added same.2
    inlineFragment := fun same _ => added same
    fragmentDefinition := fun same => added same.node
    fragmentSpread := added
    operation := fun same => added same.node }

theorem count_eq_repeatedCount (limit : DirectiveLimit) (document : Document) :
    { limit with allowDuplicates := false }.count document =
      { limit with allowDuplicates := true }.count document.withoutRepetitions :=
  Measure.largest_matched document.matched_withoutRepetitions limit.measure_withoutRepetitions
    (congrArg₂ max) fun same => same.isExempt_eq document.matched_withoutRepetitions _

end DirectiveLimit

/-- The directives of all nodes of a tree, node by node. What a fragment holds comes again with
every spread of it. -/
def directiveLists : Measure (List (List String)) where
  empty := []
  combine := (· ++ ·)
  field := fun node _ children => children ++ [node.directives]
  inlineFragment := fun node _ children => children ++ [node.directives]
  fragmentDefinition := fun definition children => children ++ [definition.directives]
  fragmentSpread := fun spread fragment => fragment ++ [spread.directives]
  operation := fun operation children => children ++ [operation.directives]

def distinctCount (lists : List (List String)) : Nat :=
  (lists.map fun names => names.eraseDups.length).sum

theorem distinctCount_append (first second : List (List String)) :
    distinctCount (first ++ second) = distinctCount first + distinctCount second := by
  rw [distinctCount, List.map_append, List.sum_append]
  rfl

namespace DirectiveLimit

theorem exactMeasure_distinctCount (limit : DirectiveLimit) :
    { limit with allowDuplicates := false }.exactMeasure.Related
      (fun exact lists => exact = distinctCount lists) directiveLists :=
  have added : ∀ {exact : Nat} {lists : List (List String)} (directives : List String),
      exact = distinctCount lists →
      exact + { limit with allowDuplicates := false }.exactApplied directives =
        distinctCount (lists ++ [directives]) := by
    rintro _ lists directives rfl
    rw [distinctCount_append]
    exact congrArg (distinctCount lists + ·) (length_eraseDups directives).symm
  { empty := rfl
    combine := by
      rintro _ sum _ other rfl rfl
      exact (distinctCount_append sum other).symm
    field := fun node _ _ _ => added node.directives
    inlineFragment := fun node _ _ _ => added node.directives
    fragmentDefinition := fun definition _ _ => added definition.directives
    fragmentSpread := fun spread _ _ => added spread.directives
    operation := fun operation _ _ => added operation.directives }

theorem exactCount_eq_distinctCount (limit : DirectiveLimit) (document : Document) :
    { limit with allowDuplicates := false }.exactCount document =
      ((directiveLists.foldOperations document [] (document.operations.filter fun operation =>
        !operation.isExempt document limit.ignoreIntrospection)).map distinctCount).foldl max
        0 := by
  have same : ∀ operations : List Operation,
      List.Forall₂ (Operation.Matched .same) operations operations := fun _ =>
    List.forall₂_same.2 fun _ _ => Operation.matched_same fun _ _ => trivial
  have values := Measure.foldOperations_matched document.matched_same
    limit.exactMeasure_distinctCount.across (same (document.operations.filter fun operation =>
      !operation.isExempt document limit.ignoreIntrospection)) .nil
  rw [exactCount, Measure.largest]
  exact congrArg (List.foldl max 0)
    (List.forall₂_eq_eq_eq ▸ List.forall₂_map_right_iff.2 values)

end DirectiveLimit

section

variable {V : Type} {m : Measure V} {document : Document} {inProgress : List String}
  {known : Known V} {name : String} {spreads : List FragmentSpread}

theorem Walk.traverse_spreads_known {value : V} (look : known.lookup name = some value)
    (named : ∀ spread ∈ spreads, spread.name = name) (total : V) :
    traverse m document inProgress known total (spreads.map .fragmentSpread) =
      ((spreads.map fun spread => m.fragmentSpread spread value).foldl m.combine total, known) := by
  induction spreads generalizing total with
  | nil => rw [List.map_nil, traverse]; rfl
  | cons spread rest ih =>
    obtain ⟨rfl, others⟩ := List.forall_mem_cons.1 named
    rw [List.map_cons, traverse_known look]
    exact ih others _

theorem Walk.traverse_spreads {definition : FragmentDefinition}
    (found : document.fragment? name = some definition) (unknown : known.lookup name = none)
    (fresh : name ∉ inProgress) (named : ∀ spread ∈ spreads, spread.name = name) (total : V) :
    (traverse m document inProgress known total (spreads.map .fragmentSpread)).1 =
      (spreads.map fun spread => m.fragmentSpread spread (m.fragmentDefinition definition
        (traverse m document (name :: inProgress) known m.empty
          definition.selectionSet).1)).foldl m.combine total := by
  cases spreads with
  | nil => rw [List.map_nil, traverse]; rfl
  | cons spread rest =>
    obtain ⟨rfl, others⟩ := List.forall_mem_cons.1 named
    rw [List.map_cons, traverse_entered unknown found fresh,
      traverse_spreads_known List.lookup_cons_self others]
    rfl

end

theorem directiveLists_spreads {document : Document} {name : String}
    {definition : FragmentDefinition} (found : document.fragment? name = some definition) :
    ∃ inner, ∀ (operation : Operation) (spreads : List FragmentSpread),
      operation.selectionSet = spreads.map .fragmentSpread →
      (∀ spread ∈ spreads, spread.name = name) →
      (directiveLists.foldOperation document [] operation).1 =
        spreads.flatMap (fun spread => inner ++ [definition.directives, spread.directives]) ++
          [operation.directives] := by
  let inner := (Walk.traverse directiveLists document [name] [] [] definition.selectionSet).1
  refine ⟨inner, fun operation spreads set named => ?_⟩
  have folded : (Walk.traverse directiveLists document [] [] [] operation.selectionSet).1 =
      spreads.flatMap fun spread => inner ++ [definition.directives, spread.directives] := by
    rw [set, Walk.traverse_spreads found rfl List.not_mem_nil named, List.foldl_map,
      List.flatMap_eq_foldl]
    simp [directiveLists, inner]
  rw [Measure.foldOperation_eq_traverse]
  exact congrArg (· ++ [operation.directives]) folded

/-- Where repetitions do not count, each node counts for what it counts for once its directives are
named once. The count is the sum over the nodes, of which none sees the directives of another, and
of the same definition there is one with every spread. -/
theorem DirectiveLimit.count_withoutRepetitions (limit : DirectiveLimit) (document : Document) :
    { limit with allowDuplicates := false }.count document =
      { limit with allowDuplicates := true }.count document.withoutRepetitions ∧
    ({ limit with allowDuplicates := false }.count document).toNat =
      min (((directiveLists.foldOperations document [] (document.operations.filter fun operation =>
        !operation.isExempt document limit.ignoreIntrospection)).map distinctCount).foldl max 0)
        countLimit ∧
    ∀ (name : String) (definition : FragmentDefinition),
      document.fragment? name = some definition →
      ∃ inner, ∀ (operation : Operation) (spreads : List FragmentSpread),
        operation.selectionSet = spreads.map .fragmentSpread →
        (∀ spread ∈ spreads, spread.name = name) →
        (directiveLists.foldOperation document [] operation).1 =
          spreads.flatMap (fun spread => inner ++ [definition.directives, spread.directives]) ++
            [operation.directives] := by
  refine ⟨limit.count_eq_repeatedCount document, ?_, fun _ _ => directiveLists_spreads⟩
  rw [← exactCount_eq_distinctCount]
  exact count_cutOff _ document

/-- Spreads itself below a field. -/
def banner : FragmentDefinition where
  name := "Banner"
  typeCondition := "Page"
  directives := ["cached", "live", "cached"]
  selectionSet := [.field { name := "text", directives := ["include", "include"] }
    [.fragmentSpread { name := "Banner" }]]

def bannerSpreads : List FragmentSpread :=
  [{ name := "Banner", directives := ["skip", "skip"] },
    { name := "Banner", directives := ["skip"] }]

def frontPage : Operation where
  directives := ["live", "live"]
  selectionSet := bannerSpreads.map .fragmentSpread

def frontPages : Document where
  sourceLength := 90
  operations := [frontPage]
  fragments := [banner]

theorem count_frontPages :
    let limit : DirectiveLimit := { allowDuplicates := false }
    limit.count frontPages = ({} : DirectiveLimit).count frontPages.withoutRepetitions ∧
      limit.count frontPages = 9 ∧
      ∃ inner, (directiveLists.foldOperation frontPages [] frontPage).1 =
        inner ++ [["cached", "live", "cached"], ["skip", "skip"]] ++
          (inner ++ [["cached", "live", "cached"], ["skip"]]) ++ [["live", "live"]] := by
  intro limit
  obtain ⟨same, -, spreads⟩ := DirectiveLimit.count_withoutRepetitions {} frontPages
  obtain ⟨inner, lists⟩ := spreads "Banner" banner rfl
  have named : ∀ spread ∈ bannerSpreads, spread.name = "Banner" := by decide
  refine ⟨same, by cbv, inner, ?_⟩
  rw [lists frontPage bannerSpreads rfl named]
  simp [bannerSpreads, banner, frontPage]

end QueryShield
