import QueryShield.Policy.Resolution
import QueryShield.Yaml.Tree

namespace QueryShield

open Yaml (Tree Node)

inductive SettingKind where
  | flag
  | count
  | text
  | texts
  deriving DecidableEq, Repr

def Policy.settings : List (String × List (String × SettingKind)) := [
  ("character_limit", [("enabled", .flag), ("max_characters", .count)]),
  ("cost", [("enabled", .flag), ("max_cost", .count), ("scalar_cost", .count),
    ("object_cost", .count), ("list_multiplier", .count), ("list_size_arguments", .texts),
    ("ignore_introspection", .flag)]),
  ("depth", [("enabled", .flag), ("max_depth", .count), ("ignore_introspection", .flag)]),
  ("aliases", [("enabled", .flag), ("max_aliases", .count), ("ignore_introspection", .flag)]),
  ("directives", [("enabled", .flag), ("max_directives", .count),
    ("allow_duplicate_directives", .flag), ("ignore_introspection", .flag)]),
  ("field_suggestion", [("enabled", .flag), ("mask", .text)])]

namespace Yaml

def toFlag? (text : String) : Option Bool :=
  if ["true", "True", "TRUE"].contains text then some true
  else if ["false", "False", "FALSE"].contains text then some false
  else none

def digit? (radix : Nat) (c : Char) : Option Nat :=
  (Text.hexDigit? c).filter (· < radix)

def digitsToNat? (radix : Nat) (digits : List Char) : Option Nat :=
  if digits.isEmpty then none
  else (digits.mapM (digit? radix)).map fun values => values.foldl (fun n d => n * radix + d) 0

/-- Digits in base ten without leading zeros, or with a mark in base sixteen, eight or two. -/
def unsigned? : List Char → Option Nat
  | '0' :: 'x' :: digits => digitsToNat? 16 digits
  | '0' :: 'o' :: digits => digitsToNat? 8 digits
  | '0' :: 'b' :: digits => digitsToNat? 2 digits
  | ['0'] => some 0
  | '0' :: _ => none
  | digits => digitsToNat? 10 digits

def toCount? (text : String) : Option UInt64 :=
  let number := match text.toList with
    | '+' :: rest => unsigned? rest
    | chars => unsigned? chars
  match number with
  | some n => if n < UInt64.size then some (UInt64.ofNat n) else none
  | none => none

namespace Node

def toText? : Node → Option String
  | scalar _ _ text => some text
  | _ => none

/-- The text of a scalar that stands for a value of another kind: one without quotes, or a literal
block that is tagged with the kind. -/
def toBare? (kind : String) : Node → Option String
  | scalar .plain _ text => some text
  | scalar .literal (some tag) text => if tag = commonTag ++ kind then some text else none
  | _ => none

def isEmpty : Node → Bool
  | scalar .plain _ "" => true
  | _ => false

end Node

namespace Tree

def toSetting? (tree : Tree) (kind : SettingKind) (node : Node) : Option Json :=
  let node := tree.target node
  match kind, node with
  | .flag, node => (node.toBare? "bool").bind toFlag? |>.map .boolean
  | .count, node => (node.toBare? "int").bind toCount? |>.map .natural
  | .text, node => node.toText?.map .string
  | .texts, .sequence items => (items.mapM fun item => (tree.target item).toText?).map .strings
  | .texts, node => if node.isEmpty then some (.array []) else none

def toRecord? (tree : Tree) (known : List (String × α)) (read : α → Node → Option Json)
    (node : Node) : Option Json :=
  match tree.target node with
  | .mapping entries => do
    let members ← entries.mapM fun (key, value) => do
      let name ← (tree.target key).toText?
      let json ← read (← known.lookup name) value
      return (name, json)
    return .object members
  | node => if node.isEmpty then some (.object []) else none

end Tree

end Yaml

def Policy.overrides? (tree : Tree) : Option Json :=
  tree.toRecord? settings (fun known => tree.toRecord? known tree.toSetting?) tree.root

def Yaml.policy? (text : String) : Option Policy :=
  match (Tree.ofText? text).bind Policy.overrides? with
  | none => none
  | some overrides => (Policy.ofJson overrides).toOption

def Policy.ofYaml : String → Except PolicyError Policy := ofText Yaml.policy?

end QueryShield
