import QueryShield.Document.Encoding

namespace QueryShield

open Json

inductive ValueKind where
  | reference
  | int
  | float
  | string
  | boolean
  | null
  | enumeration
  | list
  | object
  deriving DecidableEq, Repr

def ValueKind.names : List (String × ValueKind) :=
  [("variable", .reference), ("int", .int), ("float", .float), ("string", .string),
    ("boolean", .boolean), ("null", .null), ("enum", .enumeration), ("list", .list),
    ("object", .object)]

def repeatedName? (names : List String) (members : List (String × Json)) : Option String :=
  names.find? fun name => 1 < members.countP fun member => member.1 == name

def rejectRepeated (names : List String) (members : List (String × Json)) : Decoded Unit :=
  match repeatedName? names members with
  | some name => .error (.repeated name)
  | none => .ok ()

def Value.ofScalar (kind : ValueKind) (json : Json) : Decoded Value :=
  match kind with
  | .reference => json.toText.map .reference
  | .int => json.toInteger.map .int
  | .float => json.toDouble.map .float
  | .string => json.toText.map .string
  | .boolean => json.toBool.map .boolean
  | .enumeration => json.toText.map .enumeration
  | .null =>
    match json with
    | .null => .ok .null
    | other => .error (.wrongType other "unit variant Value::Null")
  | .list => .error (.wrongType json "a sequence")
  | .object => .error (.wrongType json "a map")

def valueWanted : String := "adjacently tagged enum Value"

mutual

/-- A value is an object with its kind and its content, or an array of both, where the kind is an
identifier. -/
def Value.ofJson (origin : Origin) : Json → Decoded Value
  | .object members => do
    rejectRepeated ["kind", "value"] members
    match lastNamed "kind" members with
    | none => .error (.missing "kind")
    | some kind =>
      let kind ← toChoice origin ValueKind.names kind
      match ← Value.contentOfMembers origin kind members with
      | some value => return value
      | none => if kind = .null then return .null else .error (.missing "value")
  | .array [] => .error (.tooShort 0 valueWanted)
  | .array [kind] => do
    let _ ← toIdentifier origin ValueKind.names kind
    .error (.tooShort 1 valueWanted)
  | .array (kind :: content :: rest) => do
    let kind ← toIdentifier origin ValueKind.names kind
    let value ← Value.contentOfJson origin kind content
    if rest.isEmpty then return value else .error (origin.tooLong (rest.length + 2) 2)
  | other => .error (.wrongType other valueWanted)

def Value.contentOfMembers (origin : Origin) (kind : ValueKind) :
    List (String × Json) → Decoded (Option Value)
  | [] => .ok none
  | (name, json) :: rest =>
    if name = "value" then (Value.contentOfJson origin kind json).map some
    else Value.contentOfMembers origin kind rest

def Value.contentOfJson (origin : Origin) (kind : ValueKind) : Json → Decoded Value
  | .array items =>
    if kind = .list then (Value.listOfJson origin items).map .list
    else Value.ofScalar kind (.array items)
  | .object members =>
    if kind = .object then (Value.membersOfJson origin members).map .object
    else Value.ofScalar kind (.object members)
  | scalar => Value.ofScalar kind scalar

def Value.listOfJson (origin : Origin) : List Json → Decoded (List Value)
  | [] => .ok []
  | json :: rest => do
    let value ← Value.ofJson origin json
    let values ← Value.listOfJson origin rest
    return value :: values

def Value.membersOfJson (origin : Origin) : List (String × Json) → Decoded (List (String × Value))
  | [] => .ok []
  | (name, json) :: rest => do
    let value ← Value.ofJson origin json
    let values ← Value.membersOfJson origin rest
    return (name, value) :: values

end

def Argument.record (origin : Origin) : Record Argument where
  title := "Argument"
  initial := ⟨"", .null⟩
  slots := [
    .mandatory "name" toText fun name argument => { argument with name },
    .mandatory "value" (Value.ofJson origin) fun value argument => { argument with value }]

inductive SelectionKind where
  | field
  | inlineFragment
  | fragmentSpread
  deriving DecidableEq, Repr

namespace SelectionKind

def names : List (String × SelectionKind) :=
  [("field", .field), ("inline_fragment", .inlineFragment), ("fragment_spread", .fragmentSpread)]

def members : SelectionKind → List String
  | field => ["name", "alias", "arguments", "directives", "selection_set", "list"]
  | inlineFragment => ["type_condition", "directives", "selection_set"]
  | fragmentSpread => ["name", "directives"]

def required : SelectionKind → Nat
  | field => 1
  | inlineFragment => 0
  | fragmentSpread => 1

def title : SelectionKind → String
  | field => "Field"
  | inlineFragment => "InlineFragment"
  | fragmentSpread => "FragmentSpread"

end SelectionKind

structure SelectionDraft where
  name : String := ""
  aliasName : Option String := none
  arguments : List Argument := []
  directives : List String := []
  selectionSet : List Selection := []
  isList : Bool := false
  typeCondition : Option String := none

namespace SelectionDraft

def put (draft : SelectionDraft) (name : String) (json : Json) : Decoded SelectionDraft :=
  match name with
  | "name" => json.toText.map fun name => { draft with name }
  | "alias" => (toOption toText json).map fun aliasName => { draft with aliasName }
  | "arguments" =>
    (Json.toList (Argument.record .setAside |>.read .setAside) json).map fun arguments =>
      { draft with arguments }
  | "directives" => (Json.toList toText json).map fun directives => { draft with directives }
  | "list" => json.toBool.map fun isList => { draft with isList }
  | "type_condition" =>
    (toOption toText json).map fun typeCondition => { draft with typeCondition }
  | _ => .ok draft

def finish (draft : SelectionDraft) : SelectionKind → Selection
  | .field => .field
      ⟨draft.name, draft.aliasName, draft.arguments, draft.directives, draft.isList⟩
      draft.selectionSet
  | .inlineFragment =>
    .inlineFragment ⟨draft.typeCondition, draft.directives⟩ draft.selectionSet
  | .fragmentSpread => .fragmentSpread ⟨draft.name, draft.directives⟩

end SelectionDraft

mutual

def Selection.ofJson (origin : Origin) : Json → Decoded Selection
  | .object members => do
    rejectRepeated ["kind"] members
    match lastNamed "kind" members with
    | none => .error (.missing "kind")
    | some kind =>
      let kind ← toIdentifier origin SelectionKind.names kind
      let (seen, draft) ← Selection.draftOfMembers kind members [] {}
      match (kind.members.take kind.required).find? (· ∉ seen) with
      | some name => .error (.missing name)
      | none => return draft.finish kind
  | .array [] => .error (.missing "kind")
  | .array (kind :: items) => do
    let kind ← toIdentifier origin SelectionKind.names kind
    let draft ← Selection.draftOfItems kind.members items {}
    if items.length < kind.required then
      .error (.tooShort items.length
        ("struct " ++ kind.title ++ " with " ++ toString kind.members.length ++ " elements"))
    else if kind.members.length < items.length then
      .error (.tooLongSequence items.length kind.members.length)
    else return draft.finish kind
  | other => .error (.wrongType other "internally tagged enum Selection")

/-- Passes over the kind and over names that a selection of that kind does not have. -/
def Selection.draftOfMembers (kind : SelectionKind) :
    List (String × Json) → List String → SelectionDraft → Decoded (List String × SelectionDraft)
  | [], seen, draft => .ok (seen, draft)
  | (name, json) :: rest, seen, draft =>
    if name ∉ kind.members then Selection.draftOfMembers kind rest seen draft
    else if name ∈ seen then .error (.repeated name)
    else do
      let draft ←
        if name = "selection_set" then
          (Selection.setOfJson .setAside json).map fun selectionSet => { draft with selectionSet }
        else draft.put name json
      Selection.draftOfMembers kind rest (name :: seen) draft

def Selection.draftOfItems : List String → List Json → SelectionDraft → Decoded SelectionDraft
  | name :: names, json :: rest, draft => do
    let draft ←
      if name = "selection_set" then
        (Selection.setOfJson .setAside json).map fun selectionSet => { draft with selectionSet }
      else draft.put name json
    Selection.draftOfItems names rest draft
  | [], _ :: _, draft => .ok draft
  | _, [], draft => .ok draft

def Selection.setOfJson (origin : Origin) : Json → Decoded (List Selection)
  | .array items => Selection.listOfJson origin items
  | other => .error (.wrongType other "a sequence")

def Selection.listOfJson (origin : Origin) : List Json → Decoded (List Selection)
  | [] => .ok []
  | json :: rest => do
    let selection ← Selection.ofJson origin json
    let selections ← Selection.listOfJson origin rest
    return selection :: selections

end

def FragmentDefinition.record (origin : Origin) : Record FragmentDefinition where
  title := "FragmentDefinition"
  initial := ⟨"", "", [], []⟩
  slots := [
    .mandatory "name" toText fun name fragment => { fragment with name },
    .mandatory "type_condition" toText fun typeCondition fragment =>
      { fragment with typeCondition },
    .optional "directives" (Json.toList toText) fun directives fragment =>
      { fragment with directives },
    .optional "selection_set" (Selection.setOfJson origin) fun selectionSet fragment =>
      { fragment with selectionSet }]

/-- The kind stands outside every selection, so only null goes with its name, set aside or not. -/
def Operation.record (origin : Origin) : Record Operation where
  title := "Operation"
  initial := {}
  slots := [
    .optional "kind" (toChoice .met OperationKind.names) fun kind operation =>
      { operation with kind },
    .optional "name" (toOption toText) fun name operation => { operation with name },
    .optional "directives" (Json.toList toText) fun directives operation =>
      { operation with directives },
    .optional "selection_set" (Selection.setOfJson origin) fun selectionSet operation =>
      { operation with selectionSet }]

def Document.record (origin : Origin) : Record Document where
  title := "QueryDocument"
  initial := ⟨0, [], [], []⟩
  slots := [
    .mandatory "source_length" toSize fun sourceLength document => { document with sourceLength },
    .optional "operations" (Json.toList ((Operation.record origin).read origin))
      fun operations document => { document with operations },
    .optional "fragments" (Json.toList ((FragmentDefinition.record origin).read origin))
      fun fragments document => { document with fragments },
    .optional "variables" toMembers fun variableValues document => { document with variableValues }]

def Argument.ofJson (origin : Origin) : Json → Decoded Argument := (record origin).read origin

def FragmentDefinition.ofJson (origin : Origin) : Json → Decoded FragmentDefinition :=
  (record origin).read origin

def Operation.ofJson (origin : Origin) : Json → Decoded Operation := (record origin).read origin

def Document.ofJson (origin : Origin) : Json → Decoded Document := (record origin).read origin

end QueryShield
