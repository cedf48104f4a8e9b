import QueryShield.Number.Shortest

namespace QueryShield

/-- A number: a 64-bit integer of either kind, anything else as a double. -/
inductive Number where
  | natural (n : UInt64)
  | negative (n : Int64)
  | real (x : Double)
  deriving DecidableEq, Repr, Inhabited

namespace Number

def ofInt64 (n : Int64) : Number := if 0 ≤ n then natural n.toUInt64 else negative n

def natural? : Number → Option UInt64
  | natural n => some n
  | _ => none

def int64? : Number → Option Int64
  | natural n => if n.toNat < Nat.pow 2 63 then some n.toInt64 else none
  | negative n => some n
  | real _ => none

def toDouble : Number → Double
  | natural n => Double.ofNat n.toNat
  | negative n => (Double.ofNat n.toInt.natAbs).negate
  | real x => x

def toText : Number → String
  | natural n => toString n.toNat
  | negative n => toString n.toInt
  | real x => x.toText

end Number

inductive Json where
  | null
  | boolean (b : Bool)
  | number (n : Number)
  | string (s : String)
  | array (items : List Json)
  | object (members : List (String × Json))
  deriving Inhabited, Repr

def lastNamed (name : String) : List (String × α) → Option α
  | [] => none
  | (key, value) :: rest =>
    match lastNamed name rest with
    | some found => some found
    | none => if key = name then some value else none

def dropShadowed : List (String × α) → List (String × α)
  | [] => []
  | [entry] => [entry]
  | entry :: next :: rest =>
    if entry.1 = next.1 then dropShadowed (next :: rest) else entry :: dropShadowed (next :: rest)

def sortedByName (entries : List (String × α)) : List (String × α) :=
  dropShadowed (entries.mergeSort fun a b => !(b.1 < a.1))

namespace Json

def natural (n : UInt64) : Json := number (.natural n)

def strings (items : List String) : Json := array (items.map string)

mutual

def canonical : Json → Json
  | array items => array (canonicalItems items)
  | object members => object (sortedByName (canonicalMembers members))
  | other => other

def canonicalItems : List Json → List Json
  | [] => []
  | item :: rest => item.canonical :: canonicalItems rest

def canonicalMembers : List (String × Json) → List (String × Json)
  | [] => []
  | (name, value) :: rest => (name, value.canonical) :: canonicalMembers rest

end

def member? (json : Json) (name : String) : Option Json :=
  match json with
  | object members => lastNamed name members
  | _ => none

end Json

end QueryShield
