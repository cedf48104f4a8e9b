import QueryShield.Document.Encoding
import QueryShield.Proofs.RecordReading

namespace QueryShield

open Json

def Tagged (kind : String) (content : Form) (json : Json) : Prop :=
  ∃ members, json = .object members ∧ Holds members "kind" (.text kind) ∧
    Holds members "value" content

mutual

def Value.Written : Value → Json → Prop
  | .reference name => Tagged "variable" (.text name)
  | .int n => Tagged "int" (.exactly (.number (.ofInt64 n)))
  | .float x => Tagged "float" (.exactly (.number (.real x)))
  | .string s => Tagged "string" (.text s)
  | .boolean b => Tagged "boolean" (.exactly (.boolean b))
  | .null => Tagged "null" .nothing
  | .enumeration name => Tagged "enum" (.text name)
  | .list items => Tagged "list" (.items (ValuesWritten items))
  | .object members => Tagged "object" (.members (ValueMembersWritten members))

def ValuesWritten : List Value → List Json → Prop
  | [], [] => True
  | value :: values, item :: items => value.Written item ∧ ValuesWritten values items
  | _, _ => False

def ValueMembersWritten : List (String × Value) → List (String × Json) → Prop
  | [], [] => True
  | (name, value) :: values, (key, item) :: items =>
    key = name ∧ value.Written item ∧ ValueMembersWritten values items
  | _, _ => False

end

structure Argument.WrittenIn (argument : Argument) (members : List (String × Json)) : Prop where
  name : Holds members "name" (.text argument.name)
  value : Holds members "value" (.always argument.value.Written)

def Argument.Written (argument : Argument) (json : Json) : Prop :=
  ∃ members, json = .object members ∧ argument.WrittenIn members

def directivesForm (directives : List String) : Form :=
  .omittableItems directives (· = directives.map .string)

structure Field.WrittenIn (field : Field) (selectionSet : List Selection)
    (setWritten : List Json → Prop) (members : List (String × Json)) : Prop where
  name : Holds members "name" (.text field.name)
  aliasName : Holds members "alias" (.optionalText field.aliasName)
  arguments : Holds members "arguments"
    (.omittableItems field.arguments (List.Forall₂ Argument.Written field.arguments))
  directives : Holds members "directives" (directivesForm field.directives)
  selectionSet : Holds members "selection_set" (.omittableItems selectionSet setWritten)
  isList : Holds members "list" (.exactly (.boolean field.isList))

structure InlineFragment.WrittenIn (fragment : InlineFragment) (setWritten : List Json → Prop)
    (members : List (String × Json)) : Prop where
  typeCondition : Holds members "type_condition" (.optionalText fragment.typeCondition)
  directives : Holds members "directives" (directivesForm fragment.directives)
  selectionSet : Holds members "selection_set" (.items setWritten)

structure FragmentSpread.WrittenIn (spread : FragmentSpread) (members : List (String × Json)) :
    Prop where
  name : Holds members "name" (.text spread.name)
  directives : Holds members "directives" (directivesForm spread.directives)

mutual

def Selection.Written : Selection → Json → Prop
  | .field field selectionSet => fun json => ∃ members, json = .object members ∧
      Holds members "kind" (.text "field") ∧
      field.WrittenIn selectionSet (SelectionsWritten selectionSet) members
  | .inlineFragment fragment selectionSet => fun json => ∃ members, json = .object members ∧
      Holds members "kind" (.text "inline_fragment") ∧
      fragment.WrittenIn (SelectionsWritten selectionSet) members
  | .fragmentSpread spread => fun json => ∃ members, json = .object members ∧
      Holds members "kind" (.text "fragment_spread") ∧ spread.WrittenIn members

def SelectionsWritten : List Selection → List Json → Prop
  | [], [] => True
  | selection :: selections, item :: items =>
    selection.Written item ∧ SelectionsWritten selections items
  | _, _ => False

end

theorem selectionsWritten_iff {selections : List Selection} {items : List Json} :
    SelectionsWritten selections items ↔ List.Forall₂ Selection.Written selections items := by
  induction selections generalizing items with
  | nil => cases items <;> simp [SelectionsWritten]
  | cons selection rest ih => cases items <;> simp [SelectionsWritten, ih]

structure FragmentDefinition.WrittenIn (fragment : FragmentDefinition)
    (members : List (String × Json)) : Prop where
  name : Holds members "name" (.text fragment.name)
  typeCondition : Holds members "type_condition" (.text fragment.typeCondition)
  directives : Holds members "directives" (directivesForm fragment.directives)
  selectionSet : Holds members "selection_set" (.items (SelectionsWritten fragment.selectionSet))

def FragmentDefinition.Written (fragment : FragmentDefinition) (json : Json) : Prop :=
  ∃ members, json = .object members ∧ fragment.WrittenIn members

structure Operation.WrittenIn (operation : Operation) (members : List (String × Json)) : Prop where
  kind : Holds members "kind" (.text operation.kind.text)
  name : Holds members "name" (.optionalText operation.name)
  directives : Holds members "directives" (directivesForm operation.directives)
  selectionSet : Holds members "selection_set" (.items (SelectionsWritten operation.selectionSet))

def Operation.Written (operation : Operation) (json : Json) : Prop :=
  ∃ members, json = .object members ∧ operation.WrittenIn members

structure Document.WrittenIn (document : Document) (members : List (String × Json)) : Prop where
  sourceLength : Holds members "source_length" (.exactly (.natural document.sourceLength))
  operations : Holds members "operations"
    (.items (List.Forall₂ Operation.Written document.operations))
  fragments : Holds members "fragments"
    (.items (List.Forall₂ FragmentDefinition.Written document.fragments))
  variableValues : Holds members "variables" (.exactly (.object document.variableValues))

/-- The object holds each member of the document in its form; what else it holds is left open. -/
def Document.Written (document : Document) (json : Json) : Prop :=
  ∃ members, json = .object members ∧ document.WrittenIn members

mutual

def Value.doubles : Value → List Double
  | .float x => [x]
  | .list items => valueDoubles items
  | .object members => valueMemberDoubles members
  | _ => []

def valueDoubles : List Value → List Double
  | [] => []
  | value :: rest => value.doubles ++ valueDoubles rest

def valueMemberDoubles : List (String × Value) → List Double
  | [] => []
  | (_, value) :: rest => value.doubles ++ valueMemberDoubles rest

end

mutual

def Selection.doubles : Selection → List Double
  | .field field selectionSet =>
    field.arguments.flatMap (·.value.doubles) ++ selectionDoubles selectionSet
  | .inlineFragment _ selectionSet => selectionDoubles selectionSet
  | .fragmentSpread _ => []

def selectionDoubles : List Selection → List Double
  | [] => []
  | selection :: rest => selection.doubles ++ selectionDoubles rest

end

def Document.doubles (document : Document) : List Double :=
  document.operations.flatMap (selectionDoubles ·.selectionSet) ++
    document.fragments.flatMap (selectionDoubles ·.selectionSet)

def AllFinite (numbers : List Double) : Prop := ∀ x ∈ numbers, x.isFinite

instance (numbers : List Double) : Decidable (AllFinite numbers) :=
  inferInstanceAs (Decidable (∀ x ∈ numbers, x.isFinite))

theorem allFinite_append {first second : List Double} :
    AllFinite (first ++ second) ↔ AllFinite first ∧ AllFinite second :=
  List.forall_mem_append

theorem allFinite_flatMap {items : List α} {numbers : α → List Double} :
    AllFinite (items.flatMap numbers) ↔ ∀ item ∈ items, AllFinite (numbers item) := by
  simp only [AllFinite, List.mem_flatMap]
  exact ⟨fun finite item among x under => finite x ⟨item, among, under⟩,
    fun finite x ⟨item, among, under⟩ => finite item among x under⟩

theorem tagged_written {kind : String} {content : Form} {json : Json}
    (hasForm : content (some json)) : Tagged kind content (tagged kind json) :=
  ⟨_, rfl, ⟨some _, by simp [underName_cons], rfl⟩, ⟨some _, by simp [underName_cons], hasForm⟩⟩

mutual

theorem Value.written_toJson : ∀ value : Value, AllFinite value.doubles → value.Written value.toJson
  | .reference _, _ => tagged_written rfl
  | .int _, _ => tagged_written rfl
  | .float x, finite => by
    have isFinite : x.isFinite := finite x (by simp [Value.doubles])
    rw [Value.toJson, finiteJson, if_pos isFinite]
    exact tagged_written rfl
  | .string _, _ => tagged_written rfl
  | .boolean _, _ => tagged_written rfl
  | .null, _ => ⟨_, rfl, ⟨some _, by simp [underName_cons], rfl⟩,
      ⟨none, by simp [underName_cons], rfl⟩⟩
  | .enumeration _, _ => tagged_written rfl
  | .list items, finite => tagged_written (Form.items_array.2 (written_valuesToJson items finite))
  | .object members, finite =>
    tagged_written (Form.members_object.2 (written_valueMembersToJson members finite))

theorem written_valuesToJson :
    ∀ values : List Value, AllFinite (valueDoubles values) →
      ValuesWritten values (valuesToJson values)
  | [], _ => trivial
  | value :: rest, finite =>
    ⟨value.written_toJson (allFinite_append.1 finite).1,
      written_valuesToJson rest (allFinite_append.1 finite).2⟩

theorem written_valueMembersToJson :
    ∀ members : List (String × Value), AllFinite (valueMemberDoubles members) →
      ValueMembersWritten members (valueMembersToJson members)
  | [], _ => trivial
  | (_, value) :: rest, finite =>
    ⟨rfl, value.written_toJson (allFinite_append.1 finite).1,
      written_valueMembersToJson rest (allFinite_append.1 finite).2⟩

end

theorem Argument.written_toJson (argument : Argument) (finite : AllFinite argument.value.doubles) :
    argument.Written argument.toJson :=
  ⟨_, rfl, {
    name := ⟨some _, by simp [underName_cons], rfl⟩
    value := ⟨some _, by simp [underName_cons],
      Form.always_some.2 (argument.value.written_toJson finite)⟩ }⟩

theorem optionalText_map (value : Option String) :
    Form.optionalText value (value.map .string) := by
  cases value with
  | none => exact .inl rfl
  | some s => rfl

theorem omittableItems_of_written {values : List α} {items : List Json}
    {written : List Json → Prop} (alike : items = [] → values = []) (isWritten : written items) :
    Form.omittableItems values written (if items.isEmpty then none else some (.array items)) := by
  cases items with
  | nil => exact .inr ⟨alike rfl, rfl⟩
  | cons first rest => exact .inl (Form.items_array.2 isWritten)

theorem directivesForm_map (directives : List String) :
    directivesForm directives
      (if (directives.map Json.string).isEmpty then none
        else some (.array (directives.map .string))) :=
  omittableItems_of_written List.map_eq_nil_iff.1 rfl

theorem forall₂_written {values : List α} {write : α → Json} {written : α → Json → Prop}
    (writes : ∀ value ∈ values, written value (write value)) :
    List.Forall₂ written values (values.map write) :=
  List.forall₂_map_right_iff.2 (List.forall₂_same.2 writes)

theorem eq_nil_of_selectionsToJson {selections : List Selection}
    (none : selectionsToJson selections = []) : selections = [] := by
  cases selections with
  | nil => rfl
  | cons selection rest => cases none

mutual

theorem Selection.written_toJson :
    ∀ selection : Selection, AllFinite selection.doubles → selection.Written selection.toJson
  | .field field selectionSet, finite => by
    obtain ⟨inArguments, inSet⟩ := allFinite_append.1 finite
    have arguments : List.Forall₂ Argument.Written field.arguments
        (field.arguments.map Argument.toJson) :=
      forall₂_written fun argument among =>
        argument.written_toJson (allFinite_flatMap.1 inArguments argument among)
    exact ⟨_, rfl, ⟨some _, by simp [underName_cons], rfl⟩, {
      name := ⟨some _, by simp [underName_cons], rfl⟩
      aliasName := ⟨_, by simp [underName_cons], optionalText_map field.aliasName⟩
      arguments := ⟨_, by simp [underName_cons],
        omittableItems_of_written List.map_eq_nil_iff.1 arguments⟩
      directives := ⟨_, by simp [underName_cons], directivesForm_map field.directives⟩
      selectionSet := ⟨_, by simp [underName_cons], omittableItems_of_written
        eq_nil_of_selectionsToJson (written_selectionsToJson selectionSet inSet)⟩
      isList := ⟨some _, by simp [underName_cons], rfl⟩ }⟩
  | .inlineFragment fragment selectionSet, finite =>
    ⟨_, rfl, ⟨some _, by simp [underName_cons], rfl⟩, {
      typeCondition := ⟨_, by simp [underName_cons], optionalText_map fragment.typeCondition⟩
      directives := ⟨_, by simp [underName_cons], directivesForm_map fragment.directives⟩
      selectionSet := ⟨some _, by simp [underName_cons],
        Form.items_array.2 (written_selectionsToJson selectionSet finite)⟩ }⟩
  | .fragmentSpread spread, _ =>
    ⟨_, rfl, ⟨some _, by simp [underName_cons], rfl⟩, {
      name := ⟨some _, by simp [underName_cons], rfl⟩
      directives := ⟨_, by simp [underName_cons], directivesForm_map spread.directives⟩ }⟩

theorem written_selectionsToJson :
    ∀ selections : List Selection, AllFinite (selectionDoubles selections) →
      SelectionsWritten selections (selectionsToJson selections)
  | [], _ => trivial
  | selection :: rest, finite =>
    ⟨selection.written_toJson (allFinite_append.1 finite).1,
      written_selectionsToJson rest (allFinite_append.1 finite).2⟩

end

theorem FragmentDefinition.written_toJson (fragment : FragmentDefinition)
    (finite : AllFinite (selectionDoubles fragment.selectionSet)) :
    fragment.Written fragment.toJson :=
  ⟨_, rfl, {
    name := ⟨some _, by simp [underName_cons], rfl⟩
    typeCondition := ⟨some _, by simp [underName_cons], rfl⟩
    directives := ⟨_, by simp [underName_cons], directivesForm_map fragment.directives⟩
    selectionSet := ⟨some _, by simp [underName_cons],
      Form.items_array.2 (written_selectionsToJson fragment.selectionSet finite)⟩ }⟩

theorem Operation.written_toJson (operation : Operation)
    (finite : AllFinite (selectionDoubles operation.selectionSet)) :
    operation.Written operation.toJson :=
  ⟨_, rfl, {
    kind := ⟨some _, by simp [underName_cons], rfl⟩
    name := ⟨_, by simp [underName_cons], optionalText_map operation.name⟩
    directives := ⟨_, by simp [underName_cons], directivesForm_map operation.directives⟩
    selectionSet := ⟨some _, by simp [underName_cons],
      Form.items_array.2 (written_selectionsToJson operation.selectionSet finite)⟩ }⟩

theorem Document.written_toJson (document : Document) (finite : AllFinite document.doubles) :
    document.Written document.toJson := by
  obtain ⟨inOperations, inFragments⟩ := allFinite_append.1 finite
  have operations : List.Forall₂ Operation.Written document.operations
      (document.operations.map Operation.toJson) :=
    forall₂_written fun operation among =>
      operation.written_toJson (allFinite_flatMap.1 inOperations operation among)
  have fragments : List.Forall₂ FragmentDefinition.Written document.fragments
      (document.fragments.map FragmentDefinition.toJson) :=
    forall₂_written fun fragment among =>
      fragment.written_toJson (allFinite_flatMap.1 inFragments fragment among)
  exact ⟨_, rfl, {
    sourceLength := ⟨some _, by simp [underName_cons], rfl⟩
    operations := ⟨some _, by simp [underName_cons], Form.items_array.2 operations⟩
    fragments := ⟨some _, by simp [underName_cons], Form.items_array.2 fragments⟩
    variableValues := ⟨some _, by simp [underName_cons], rfl⟩ }⟩

end QueryShield
