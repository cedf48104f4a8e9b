import QueryShield.Json.Basic

namespace QueryShield

inductive Value where
  | reference (name : String)
  | int (n : Int64)
  | float (x : Double)
  | string (s : String)
  | boolean (b : Bool)
  | null
  | enumeration (name : String)
  | list (items : List Value)
  | object (members : List (String × Value))
  deriving Inhabited, Repr

structure Argument where
  name : String
  value : Value
  deriving Inhabited, Repr

structure Field where
  name : String
  aliasName : Option String := none
  arguments : List Argument := []
  directives : List String := []
  /-- Whether the schema declares a list for it. -/
  isList : Bool := false
  deriving Inhabited, Repr

structure InlineFragment where
  typeCondition : Option String := none
  directives : List String := []
  deriving Inhabited, Repr

structure FragmentSpread where
  name : String
  directives : List String := []
  deriving Inhabited, Repr

inductive Selection where
  | field (field : Field) (selectionSet : List Selection)
  | inlineFragment (fragment : InlineFragment) (selectionSet : List Selection)
  | fragmentSpread (spread : FragmentSpread)
  deriving Inhabited, Repr

structure FragmentDefinition where
  name : String
  typeCondition : String
  directives : List String := []
  selectionSet : List Selection := []
  deriving Inhabited, Repr

inductive OperationKind where
  | query
  | mutation
  | subscription
  deriving DecidableEq, Inhabited, Repr

structure Operation where
  kind : OperationKind := .query
  name : Option String := none
  directives : List String := []
  selectionSet : List Selection := []
  deriving Inhabited, Repr

structure Document where
  /-- The length of the query text in characters. -/
  sourceLength : UInt64
  operations : List Operation := []
  fragments : List FragmentDefinition := []
  variableValues : List (String × Json) := []
  deriving Inhabited, Repr

namespace Field

/-- An alias counts when it differs from the name. -/
def isAliased (field : Field) : Bool :=
  match field.aliasName with
  | some key => key != field.name
  | none => false

def argument? (field : Field) (name : String) : Option Argument :=
  field.arguments.find? fun argument => argument.name == name

end Field

/-- The value as the size of a list: a literal or a variable that is a natural number. -/
def Value.size? (variableValues : List (String × Json)) : Value → Option UInt64
  | int n => if 0 ≤ n then some n.toUInt64 else none
  | reference name =>
    match lastNamed name variableValues with
    | some (.number n) => n.natural?
    | _ => none
  | _ => none

namespace Document

def ofSource (source : String) : Document := { sourceLength := UInt64.ofNat source.length }

def fragment? (document : Document) (name : String) : Option FragmentDefinition :=
  document.fragments.find? fun fragment => fragment.name == name

def addOperation (document : Document) (operation : Operation) : Document :=
  { document with operations := document.operations ++ [operation] }

def addFragment (document : Document) (fragment : FragmentDefinition) : Document :=
  { document with fragments := document.fragments ++ [fragment] }

def setVariable (document : Document) (name : String) (value : Json) : Document :=
  { document with variableValues := document.variableValues ++ [(name, value)] }

end Document

end QueryShield
