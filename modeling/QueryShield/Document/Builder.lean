import QueryShield.Document.Basic

namespace QueryShield.Builder

inductive Node where
  | operation (operation : Operation)
  | fragment (fragment : FragmentDefinition)
  | field (field : Field) (selectionSet : List Selection)
  | inlineFragment (fragment : InlineFragment) (selectionSet : List Selection)
  | fragmentSpread (spread : FragmentSpread)

inductive Change where
  | setAlias (key : String)
  | markList
  | addArgument (argument : Argument)
  | setName (name : String)
  | addDirective (name : String)
  /-- Puts the field into a new field, that one into another, and so on. -/
  | wrap (name : String) (times : Nat)

inductive Step where
  | push (node : Node)
  | change (change : Change)
  | select
  | add
  | setVariable (name : String) (value : Json)

inductive Fault where
  | emptyStack
  | noSelection
  | misfit
  deriving DecidableEq, Repr

structure State where
  stack : List Node := []
  document : Document

def Node.selection? : Node → Option Selection
  | .field head selectionSet => some (.field head selectionSet)
  | .inlineFragment head selectionSet => some (.inlineFragment head selectionSet)
  | .fragmentSpread head => some (.fragmentSpread head)
  | _ => none

def Node.addSelection? (selection : Selection) : Node → Option Node
  | .operation built =>
    some (.operation { built with selectionSet := built.selectionSet ++ [selection] })
  | .fragment built =>
    some (.fragment { built with selectionSet := built.selectionSet ++ [selection] })
  | .field head selectionSet => some (.field head (selectionSet ++ [selection]))
  | .inlineFragment head selectionSet => some (.inlineFragment head (selectionSet ++ [selection]))
  | .fragmentSpread _ => none

def wrapped (name : String) : Nat → List Selection → List Selection
  | 0, selectionSet => selectionSet
  | times + 1, selectionSet => wrapped name times [.field { name } selectionSet]

def changeOperation? (built : Operation) : Change → Option Operation
  | .setName name => some { built with name := some name }
  | .addDirective name => some { built with directives := built.directives ++ [name] }
  | _ => none

def changeField? (head : Field) (selectionSet : List Selection) :
    Change → Option (Field × List Selection)
  | .setAlias key => some ({ head with aliasName := some key }, selectionSet)
  | .markList => some ({ head with isList := true }, selectionSet)
  | .addArgument argument =>
    some ({ head with arguments := head.arguments ++ [argument] }, selectionSet)
  | .addDirective name => some ({ head with directives := head.directives ++ [name] }, selectionSet)
  | .wrap _ 0 => some (head, selectionSet)
  | .wrap name (times + 1) => some ({ name }, wrapped name times [.field head selectionSet])
  | .setName _ => none

/-- Nothing when the node has no place for the change. -/
def Node.change? (change : Change) : Node → Option Node
  | .operation built => (changeOperation? built change).map .operation
  | .fragment _ => none
  | .field head selectionSet =>
    (changeField? head selectionSet change).map fun (head, selectionSet) =>
      .field head selectionSet
  | .inlineFragment head selectionSet =>
    match change with
    | .addDirective name =>
      some (.inlineFragment { head with directives := head.directives ++ [name] } selectionSet)
    | _ => none
  | .fragmentSpread head =>
    match change with
    | .addDirective name =>
      some (.fragmentSpread { head with directives := head.directives ++ [name] })
    | _ => none

def State.apply (state : State) : Step → Except Fault State
  | .push node => .ok { state with stack := node :: state.stack }
  | .change change =>
    match state.stack with
    | [] => .error .emptyStack
    | top :: below =>
      match top.change? change with
      | some top => .ok { state with stack := top :: below }
      | none => .error .misfit
  | .select =>
    match state.stack with
    | child :: parent :: below =>
      match child.selection?.bind parent.addSelection? with
      | some parent => .ok { state with stack := parent :: below }
      | none => .error .noSelection
    | _ => .error .emptyStack
  | .add =>
    match state.stack with
    | [] => .error .emptyStack
    | .operation operation :: below =>
      .ok { stack := below, document := state.document.addOperation operation }
    | .fragment fragment :: below =>
      .ok { stack := below, document := state.document.addFragment fragment }
    | _ :: _ => .error .misfit
  | .setVariable name value =>
    .ok { state with document := state.document.setVariable name value }

end QueryShield.Builder
