import Mathlib.Logic.Relation
import QueryShield.Proofs.NodeMaps
import QueryShield.Proofs.Unmeasured

namespace QueryShield

open Relation

/-- The same field but for arguments of other names than the listed ones, variables that are not the
value of a listed one, and the key of an alias. -/
structure Field.Disregarded (listed : List String)
    (variableValues otherValues : List (String × Json)) (node other : Field) : Prop where
  name : node.name = other.name
  aliased : node.isAliased = other.isAliased
  directives : node.directives = other.directives
  isList : node.isList = other.isList
  arguments : (node.arguments.filter fun argument => listed.contains argument.name) =
    other.arguments.filter fun argument => listed.contains argument.name
  variableValues : ∀ argument ∈ node.arguments, argument.name ∈ listed → ∀ variableName,
    argument.value = .reference variableName →
    lastNamed variableName variableValues = lastNamed variableName otherValues

def Matching.disregarding (listed : List String)
    (variableValues otherValues : List (String × Json)) : Matching where
  field := Field.Disregarded listed variableValues otherValues
  inlineFragment node other := node.directives = other.directives
  fragmentSpread spread other := spread.directives = other.directives
  fragmentDefinition definition other := definition.directives = other.directives
  operation operation other := operation.directives = other.directives
  name := Field.Disregarded.name

namespace Field.Disregarded

variable {listed : List String} {variableValues otherValues : List (String × Json)}
  {node other : Field}

theorem argument?_eq (same : node.Disregarded listed variableValues otherValues other)
    {name : String} (member : name ∈ listed) : node.argument? name = other.argument? name := by
  have among : ∀ arguments : List Argument,
      (arguments.find? fun argument => argument.name == name) =
        (arguments.filter fun argument => listed.contains argument.name).find?
          fun argument => argument.name == name := by
    intro arguments
    rw [List.find?_filter]
    congr 1
    funext argument
    by_cases named : argument.name = name <;> simp [named, member]
  rw [argument?, argument?, among, among other.arguments, same.arguments]

theorem size?_eq (same : node.Disregarded listed variableValues otherValues other)
    {name : String} (member : name ∈ listed) {argument : Argument}
    (found : node.argument? name = some argument) :
    argument.value.size? variableValues = argument.value.size? otherValues := by
  have named : argument.name = name := by simpa using List.find?_some found
  cases value : argument.value with
  | reference variableName =>
    have bound := same.variableValues argument (List.mem_of_find?_eq_some found)
      (named ▸ member) variableName value
    rw [Value.size?, Value.size?, bound]
  | _ => rfl

end Field.Disregarded

theorem CostLimit.cardinality_disregarded (limit : CostLimit)
    {variableValues otherValues : List (String × Json)} {node other : Field}
    (same : node.Disregarded limit.listSizeArguments variableValues otherValues other) :
    limit.cardinality variableValues node = limit.cardinality otherValues other := by
  refine cardinality_related .eq same.isList fun name member => ?_
  rw [← same.argument?_eq member]
  cases found : node.argument? name with
  | none => exact .none
  | some argument =>
    refine .some ?_
    rw [same.size?_eq member found]
    exact rel_refl (fun _ => rfl) _

theorem Matching.unmeasured_disregarding (limit : CostLimit)
    (variableValues otherValues : List (String × Json)) :
    (disregarding limit.listSizeArguments variableValues otherValues).Unmeasured limit
      variableValues otherValues where
  aliased := Field.Disregarded.aliased
  cardinality := limit.cardinality_disregarded
  field := Field.Disregarded.directives
  inlineFragment := id
  fragmentSpread := id
  fragmentDefinition := id
  operation := id

theorem Matching.unmeasured_same (limit : CostLimit) (variableValues : List (String × Json))
    (followed : Set String) :
    ({ same with followed } : Matching).Unmeasured limit variableValues variableValues where
  aliased := congrArg Field.isAliased
  cardinality := congrArg (limit.cardinality variableValues)
  field := congrArg Field.directives
  inlineFragment := congrArg InlineFragment.directives
  fragmentSpread := congrArg FragmentSpread.directives
  fragmentDefinition := fun same => (congrArg FragmentDefinition.directives same).symm
  operation := fun same => (congrArg Operation.directives same).symm

def Document.Uses (document : Document) (name : String) : Prop :=
  ∃ operation ∈ document.operations, document.Reaches operation.selectionSet name

theorem Document.Uses.mem_of_closed {document : Document} {names : List String}
    (entered : ∀ operation ∈ document.operations,
      ∀ name ∈ Selection.spreadNamesIn operation.selectionSet, name ∈ names)
    (closed : ∀ definition ∈ document.fragments, definition.name ∈ names →
      ∀ name ∈ Selection.spreadNamesIn definition.selectionSet, name ∈ names)
    {name : String} (used : document.Uses name) : name ∈ names := by
  obtain ⟨operation, member, first, spread, path⟩ := used
  induction path with
  | refl => exact entered operation member first spread
  | tail _ last ih =>
    obtain ⟨definition, found, inner⟩ := last
    obtain ⟨listed, rfl⟩ := fragment?_mem found
    exact closed definition listed ih _ inner

theorem Document.fragment?_replaced {document : Document}
    {before old new after : List FragmentDefinition}
    (split : document.fragments = before ++ old ++ after)
    (unread : ∀ definition ∈ old ++ new,
      ¬ document.Uses definition.name ∨ definition.name ∈ before.map FragmentDefinition.name)
    {name : String} (used : document.Uses name) :
    ({ document with fragments := before ++ new ++ after } : Document).fragment? name =
      document.fragment? name := by
  rw [fragment?, fragment?, split]
  by_cases earlier : name ∈ before.map FragmentDefinition.name
  · obtain ⟨definition, member, named⟩ := List.mem_map.1 earlier
    have found : (before.find? fun definition => definition.name == name).isSome :=
      List.find?_isSome.2 ⟨definition, member, by simp [named]⟩
    obtain ⟨first, found⟩ := Option.isSome_iff_exists.1 found
    simp [List.find?_append, found]
  · -- nothing before shadows the replaced ones here, so a used name is none of theirs
    have absent : ∀ definition ∈ old ++ new, ¬ (definition.name == name) = true := by
      intro definition member named
      obtain rfl : definition.name = name := by simpa using named
      exact (unread definition member).elim (absurd used) earlier
    obtain ⟨gone, added⟩ := List.forall_mem_append.1 absent
    simp only [List.find?_append, List.find?_eq_none.2 gone, List.find?_eq_none.2 added,
      Option.or_none]

theorem Document.matched_of_uses {document : Document} {fragments : List FragmentDefinition}
    (kept : ∀ {name}, document.Uses name →
      ({ document with fragments } : Document).fragment? name = document.fragment? name) :
    document.Matched { Matching.same with followed := {name | document.Uses name} }
      { document with fragments } where
  distinct := Set.injOn_id _
  operations := List.forall₂_same.2 fun operation member =>
    Operation.matched_same fun _ spread => ⟨operation, member, _, spread, .refl⟩
  fragments := by
    intro name used
    change Option.Rel _ _ (({ document with fragments } : Document).fragment? name)
    rw [kept used]
    cases found : document.fragment? name with
    | none => exact .none
    | some definition =>
      refine .some (FragmentDefinition.matched_same fun inner spread => ?_)
      obtain ⟨operation, member, reached⟩ := used
      exact ⟨operation, member, reached.trans (.single ⟨definition, found, spread⟩)⟩

def NodeMap.ofNames (rename : String → String) : NodeMap where
  fragmentSpread spread := { spread with name := rename spread.name }
  fragmentDefinition definition := { definition with name := rename definition.name }

def Document.renamed (document : Document) (rename : String → String) : Document :=
  document.mapNodes (.ofNames rename)

def Matching.ofNames (rename : String → String) (followed : Set String) : Matching :=
  { Matching.same with
    fragmentSpread := fun spread other => spread.directives = other.directives
    fragmentDefinition := fun definition other => definition.directives = other.directives
    rename
    followed }

theorem NodeMap.ofNames_fits (rename : String → String) (followed : Set String) :
    (NodeMap.ofNames rename).Fits (.ofNames rename followed) where
  field := fun _ => rfl
  inlineFragment := fun _ => rfl
  fragmentSpread := fun _ => rfl
  spreadName := fun _ => rfl
  fragmentDefinition := fun _ => rfl
  definedName := fun _ => rfl
  operation := fun _ => rfl

theorem Matching.unmeasured_ofNames (limit : CostLimit) (variableValues : List (String × Json))
    (rename : String → String) (followed : Set String) :
    (ofNames rename followed).Unmeasured limit variableValues variableValues :=
  { unmeasured_same limit variableValues followed with
    fragmentSpread := id
    fragmentDefinition := id }

/-- One change that no limit looks at, given the names of size arguments. -/
inductive Document.Disregarded (listed : List String) (document : Document) : Document → Prop where
  | nodes {other : Document} (sourceLength : document.sourceLength = other.sourceLength)
    (rewritten : document.Rewritten
      (.disregarding listed document.variableValues other.variableValues) other) :
    Disregarded listed document other
  /-- Definitions come, go or change that no operation uses or an earlier one shadows. -/
  | definitions {before old new after : List FragmentDefinition}
    (split : document.fragments = before ++ old ++ after)
    (unread : ∀ definition ∈ old ++ new,
      ¬ document.Uses definition.name ∨ definition.name ∈ before.map FragmentDefinition.name) :
    Disregarded listed document { document with fragments := before ++ new ++ after }
  | renamed (rename : String → String)
    (distinct : Set.InjOn rename {name | name ∈ document.fragmentNames}) :
    Disregarded listed document (document.renamed rename)

namespace Policy

variable {policy : Policy} {protection : Protection} {document other : Document}

theorem validate_disregarded_step (accepted : policy.protection = .ok protection)
    (changed : document.Disregarded policy.cost.listSizeArguments other) :
    protection.validate document = protection.validate other := by
  cases changed with
  | nodes sourceLength rewritten =>
    have matched := rewritten.matched (Set.injOn_id _) fun _ _ => trivial
    exact validate_matched accepted sourceLength matched (Matching.unmeasured_disregarding _ _ _)
  | definitions split unread =>
    have matched := Document.matched_of_uses (Document.fragment?_replaced split unread)
    exact validate_matched accepted rfl matched (Matching.unmeasured_same _ _ _)
  | renamed rename distinct =>
    have matched := document.matched_mapNodes
      (NodeMap.ofNames_fits rename {name | name ∈ document.fragmentNames}) distinct fun _ => id
    exact validate_matched accepted rfl matched (Matching.unmeasured_ofNames _ _ _ _)

/-- Any number of changes that no limit looks at leaves the verdict as it is. -/
theorem validate_disregarded (accepted : policy.protection = .ok protection)
    (changes : ReflTransGen (Document.Disregarded policy.cost.listSizeArguments) document other) :
    protection.validate document = protection.validate other := by
  induction changes with
  | refl => rfl
  | tail _ last ih => exact ih.trans (validate_disregarded_step accepted last)

end Policy

def photo (typeCondition : String) (arguments : List Argument) : FragmentDefinition where
  name := "Photo"
  typeCondition
  selectionSet := [.field { name := "comments", arguments }
    [.fragmentSpread { name := "Author", directives := ["include"] }]]

def author (key : String) (typeCondition : Option String) : FragmentDefinition where
  name := "Author"
  typeCondition := "User"
  selectionSet := [.field { name := "name", aliasName := some key } [],
    .inlineFragment { typeCondition } [.fragmentSpread { name := "Photo" }]]

def endless (name : String) : FragmentDefinition where
  name
  typeCondition := "Photo"
  selectionSet := [.fragmentSpread { name, directives := ["cached"] }]

def commentPage : Argument where
  name := "first"
  value := .reference "page"

def photos : List Selection :=
  [.field { name := "photos", isList := true } [.fragmentSpread { name := "Photo" }]]

def gallery : Document where
  sourceLength := 160
  operations := [{ name := some "Gallery", selectionSet := photos }]
  fragments := [photo "Photo" [commentPage, { name := "after", value := .reference "start" }],
    endless "Draft", author "label" none]
  variableValues := [("page", .natural 30), ("start", .string "c1")]

def newestPhoto : FragmentDefinition :=
  photo "Media" [{ name := "sort", value := .enumeration "NEWEST" }, commentPage]

def sortedGallery : Document where
  sourceLength := 160
  operations := [{ kind := .subscription, selectionSet := photos }]
  fragments := [newestPhoto, endless "Draft", author "title" (some "User")]
  variableValues := [("start", .natural 8), ("page", .natural 30)]

def storedGallery : Document :=
  { sortedGallery with
    fragments := [newestPhoto, endless "Photo", endless "Archive", author "title" (some "User")] }

theorem gallery_sorted :
    gallery.Disregarded firmPolicy.cost.listSizeArguments sortedGallery := by
  have photos : Field.Disregarded firmPolicy.cost.listSizeArguments gallery.variableValues
      sortedGallery.variableValues { name := "photos", isList := true }
      { name := "photos", isList := true } :=
    ⟨rfl, rfl, rfl, rfl, rfl, nofun⟩
  have name : Field.Disregarded firmPolicy.cost.listSizeArguments gallery.variableValues
      sortedGallery.variableValues { name := "name", aliasName := some "label" }
      { name := "name", aliasName := some "title" } :=
    ⟨rfl, by decide, rfl, rfl, rfl, nofun⟩
  have comments : Field.Disregarded firmPolicy.cost.listSizeArguments gallery.variableValues
      sortedGallery.variableValues
      { name := "comments",
        arguments := [commentPage, { name := "after", value := .reference "start" }] }
      { name := "comments",
        arguments := [{ name := "sort", value := .enumeration "NEWEST" }, commentPage] } := by
    refine ⟨rfl, rfl, rfl, rfl, by simp [firmPolicy, commentPage], ?_⟩
    simp [firmPolicy, commentPage, gallery, sortedGallery, lastNamed]
  exact .nodes rfl ⟨.cons ⟨rfl, .field photos (.fragmentSpread rfl trivial rfl .nil) .nil⟩ .nil,
    .cons ⟨rfl, rfl, .field comments (.fragmentSpread rfl trivial rfl .nil) .nil⟩
      (.cons ⟨rfl, rfl, .fragmentSpread rfl trivial rfl .nil⟩
        (.cons ⟨rfl, rfl, .field name .nil
          (.inlineFragment rfl (.fragmentSpread rfl trivial rfl .nil) .nil)⟩ .nil))⟩

theorem gallery_stored :
    sortedGallery.Disregarded firmPolicy.cost.listSizeArguments storedGallery := by
  have closed : ∀ {name}, sortedGallery.Uses name → name ∈ ["Photo", "Author"] :=
    Document.Uses.mem_of_closed (by decide) (by decide)
  have unread : ∀ definition ∈ [endless "Draft"] ++ [endless "Photo", endless "Archive"],
      ¬ sortedGallery.Uses definition.name ∨
        definition.name ∈ [newestPhoto].map FragmentDefinition.name := by
    simp only [List.cons_append, List.nil_append, List.forall_mem_cons]
    refine ⟨.inl fun used => ?_, .inr (by decide), .inl fun used => ?_, nofun⟩
    all_goals exact absurd (closed used) (by decide)
  have split : sortedGallery.fragments =
      [newestPhoto] ++ [endless "Draft"] ++ [author "title" (some "User")] := rfl
  exact .definitions split unread

/-- The fragments are on a cycle and exchange their names. -/
theorem validate_gallery :
    (Protection.ofGuards firmPolicy.guards).validate
      (storedGallery.renamed (Equiv.swap "Photo" "Author")) = [.cost 920 12] := by
  have changes : ReflTransGen (Document.Disregarded firmPolicy.cost.listSizeArguments) gallery
      (storedGallery.renamed (Equiv.swap "Photo" "Author")) :=
    .tail (.tail (.single gallery_sorted) gallery_stored)
      (.renamed _ (Equiv.injective _).injOn)
  rw [← Policy.validate_disregarded rfl changes]
  cbv

end QueryShield
