import QueryShield.Document.Basic
import QueryShield.Json.Decoding

namespace QueryShield

open Json

def OperationKind.names : List (String × OperationKind) :=
  [("query", .query), ("mutation", .mutation), ("subscription", .subscription)]

def OperationKind.text : OperationKind → String
  | .query => "query"
  | .mutation => "mutation"
  | .subscription => "subscription"

def finiteJson (x : Double) : Json := if x.isFinite then .number (.real x) else .null

def tagged (kind : String) (value : Json) : Json :=
  .object [("kind", .string kind), ("value", value)]

mutual

def Value.toJson : Value → Json
  | .reference name => tagged "variable" (.string name)
  | .int n => tagged "int" (.number (.ofInt64 n))
  | .float x => tagged "float" (finiteJson x)
  | .string s => tagged "string" (.string s)
  | .boolean b => tagged "boolean" (.boolean b)
  | .null => .object [("kind", .string "null")]
  | .enumeration name => tagged "enum" (.string name)
  | .list items => tagged "list" (.array (valuesToJson items))
  | .object members => tagged "object" (.object (valueMembersToJson members))

def valuesToJson : List Value → List Json
  | [] => []
  | value :: rest => value.toJson :: valuesToJson rest

def valueMembersToJson : List (String × Value) → List (String × Json)
  | [] => []
  | (name, value) :: rest => (name, value.toJson) :: valueMembersToJson rest

end

def Argument.toJson (argument : Argument) : Json :=
  .object [("name", .string argument.name), ("value", argument.value.toJson)]

mutual

def Selection.toJson : Selection → Json
  | .field field selectionSet =>
    .object ([("kind", .string "field"), ("name", .string field.name)] ++
      optionalMember "alias" (field.aliasName.map .string) ++
      nonEmptyMember "arguments" (field.arguments.map Argument.toJson) ++
      nonEmptyMember "directives" (field.directives.map .string) ++
      nonEmptyMember "selection_set" (selectionsToJson selectionSet) ++
      [("list", .boolean field.isList)])
  | .inlineFragment fragment selectionSet =>
    .object ([("kind", .string "inline_fragment")] ++
      optionalMember "type_condition" (fragment.typeCondition.map .string) ++
      nonEmptyMember "directives" (fragment.directives.map .string) ++
      [("selection_set", .array (selectionsToJson selectionSet))])
  | .fragmentSpread spread =>
    .object ([("kind", .string "fragment_spread"), ("name", .string spread.name)] ++
      nonEmptyMember "directives" (spread.directives.map .string))

def selectionsToJson : List Selection → List Json
  | [] => []
  | selection :: rest => selection.toJson :: selectionsToJson rest

end

def FragmentDefinition.toJson (fragment : FragmentDefinition) : Json :=
  .object ([("name", .string fragment.name), ("type_condition", .string fragment.typeCondition)] ++
    nonEmptyMember "directives" (fragment.directives.map .string) ++
    [("selection_set", .array (selectionsToJson fragment.selectionSet))])

def Operation.toJson (operation : Operation) : Json :=
  .object ([("kind", .string operation.kind.text)] ++
    optionalMember "name" (operation.name.map .string) ++
    nonEmptyMember "directives" (operation.directives.map .string) ++
    [("selection_set", .array (selectionsToJson operation.selectionSet))])

def Document.toJson (document : Document) : Json :=
  .object [("source_length", .natural document.sourceLength),
    ("operations", .array (document.operations.map Operation.toJson)),
    ("fragments", .array (document.fragments.map FragmentDefinition.toJson)),
    ("variables", .object document.variableValues)]

end QueryShield
