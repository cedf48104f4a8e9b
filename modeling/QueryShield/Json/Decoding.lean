import QueryShield.Json.Basic
import QueryShield.Text.Quoted

namespace QueryShield.Json

/-- Whether a value is decoded as it is met, or was set aside until the kind of the value around it
was known. -/
inductive Origin where
  | met
  | setAside
  deriving DecidableEq, Repr

inductive Fault where
  | wrongType (found : Json) (wanted : String)
  | wrongValue (found : Json) (wanted : String)
  | missing (field : String)
  | repeated (field : String)
  | unknownField (name : String) (known : List String)
  | unknownVariant (name : String) (known : List String)
  | tooShort (length : Nat) (wanted : String)
  | tooLong (length : Nat)
  | tooLongSequence (length used : Nat)
  deriving Repr

def describe : Json → String
  | null => "null"
  | boolean true => "boolean `true`"
  | boolean false => "boolean `false`"
  | number (.real x) => "floating point `" ++ x.toText ++ "`"
  | number n => "integer `" ++ n.toText ++ "`"
  | string s => "string " ++ Text.quoted s
  | array _ => "sequence"
  | object _ => "map"

def ticked (name : String) : String := "`" ++ name ++ "`"

def alternatives : List String → String
  | [first] => ticked first
  | [first, second] => ticked first ++ " or " ++ ticked second
  | names => "one of " ++ ", ".intercalate (names.map ticked)

def Fault.message : Fault → String
  | wrongType found wanted => "invalid type: " ++ describe found ++ ", expected " ++ wanted
  | wrongValue found wanted => "invalid value: " ++ describe found ++ ", expected " ++ wanted
  | missing field => "missing field " ++ ticked field
  | repeated field => "duplicate field " ++ ticked field
  | unknownField name known =>
    "unknown field " ++ ticked name ++ ", expected " ++ alternatives known
  | unknownVariant name known =>
    "unknown variant " ++ ticked name ++ ", expected " ++ alternatives known
  | tooShort length wanted => "invalid length " ++ toString length ++ ", expected " ++ wanted
  | tooLong length =>
    "invalid length " ++ toString length ++ ", expected fewer elements in array"
  | tooLongSequence length used =>
    "invalid length " ++ toString length ++ ", expected " ++ toString used ++
      (if used = 1 then " element in sequence" else " elements in sequence")

abbrev Decoded := Except Fault

def Origin.tooLong (origin : Origin) (length used : Nat) : Fault :=
  match origin with
  | met => .tooLong length
  | setAside => .tooLongSequence length used

def toBool : Json → Decoded Bool
  | boolean b => .ok b
  | other => .error (.wrongType other "a boolean")

def toText : Json → Decoded String
  | string s => .ok s
  | other => .error (.wrongType other "a string")

def toNatural (wanted : String) (bits : Nat) : Json → Decoded UInt64
  | number (.natural n) =>
    if n.toNat < Nat.pow 2 bits then .ok n
    else .error (.wrongValue (number (.natural n)) wanted)
  | number (.negative n) => .error (.wrongValue (number (.negative n)) wanted)
  | other => .error (.wrongType other wanted)

def toCount : Json → Decoded UInt64 := toNatural "u64" 64

def toSize : Json → Decoded UInt64 := toNatural "usize" 64

def toSmallCount (json : Json) : Decoded UInt32 := (toNatural "u32" 32 json).map UInt64.toUInt32

def toInteger : Json → Decoded Int64
  | number n =>
    match n with
    | .real x => .error (.wrongType (number (.real x)) "i64")
    | n =>
      match n.int64? with
      | some i => .ok i
      | none => .error (.wrongValue (number n) "i64")
  | other => .error (.wrongType other "i64")

def toDouble : Json → Decoded Double
  | number n => .ok n.toDouble
  | other => .error (.wrongType other "f64")

def toOption (read : Json → Decoded α) : Json → Decoded (Option α)
  | null => .ok none
  | json => (read json).map some

def toItems : Json → Decoded (List Json)
  | array items => .ok items
  | other => .error (.wrongType other "a sequence")

def toMembers : Json → Decoded (List (String × Json))
  | object members => .ok members
  | other => .error (.wrongType other "a map")

def readAll (read : Json → Decoded α) : List Json → Decoded (List α)
  | [] => .ok []
  | item :: rest => do
    let first ← read item
    let others ← readAll read rest
    return first :: others

def toList (read : Json → Decoded α) (json : Json) : Decoded (List α) := do
  readAll read (← json.toItems)

def readName (names : List (String × α)) (name : String) : Decoded α :=
  match names.lookup name with
  | some value => .ok value
  | none => .error (.unknownVariant name (names.map Prod.fst))

def readUnit : Origin → Json → Decoded Unit
  | _, null => .ok ()
  | .setAside, object [] => .ok ()
  | _, other => .error (.wrongType other "unit")

def toChoice (origin : Origin) (names : List (String × α)) : Json → Decoded α
  | string s => readName names s
  | object [(name, content)] => do
    let value ← readName names name
    readUnit origin content
    return value
  | object members => .error (.wrongValue (object members) "map with a single key")
  | other => .error (.wrongType other "string or map")

/-- The name of a choice by itself. One that was set aside may also be given by its position. -/
def toIdentifier (origin : Origin) (names : List (String × α)) (json : Json) : Decoded α :=
  match origin, json with
  | _, string s => readName names s
  | .setAside, number (.natural n) =>
    match names[n.toNat]? with
    | some (_, value) => .ok value
    | none =>
      .error (.wrongValue json ("variant index 0 <= i < " ++ toString names.length))
  | _, _ => .error (.wrongType json "variant identifier")

structure Slot (σ : Type) where
  name : String
  required : Bool
  read : Json → σ → Decoded σ

def Slot.optional (name : String) (read : Json → Decoded α) (put : α → σ → σ) : Slot σ :=
  ⟨name, false, fun json record => (read json).map fun value => put value record⟩

def Slot.mandatory (name : String) (read : Json → Decoded α) (put : α → σ → σ) : Slot σ :=
  ⟨name, true, fun json record => (read json).map fun value => put value record⟩

/-- A record with its fields in order. Where a field is left out the initial record's value stands,
which nobody sees of a required one. -/
structure Record (σ : Type) where
  title : String
  initial : σ
  slots : List (Slot σ)
  closed : Bool := false

namespace Record

def names (r : Record σ) : List String := r.slots.map Slot.name

def slot? (r : Record σ) (name : String) : Option (Slot σ) :=
  r.slots.find? fun slot => slot.name == name

def wanted (r : Record σ) : String := "struct " ++ r.title

def readMembers (r : Record σ) :
    List (String × Json) → List String → σ → Decoded (List String × σ)
  | [], seen, record => .ok (seen, record)
  | (name, json) :: rest, seen, record =>
    match r.slot? name with
    | none =>
      if r.closed then .error (.unknownField name r.names) else r.readMembers rest seen record
    | some slot =>
      if name ∈ seen then .error (.repeated name)
      else do
        let record ← slot.read json record
        r.readMembers rest (name :: seen) record

def readItems : List (Slot σ) → List Json → σ → Decoded σ
  | slot :: slots, json :: rest, record => do
    let record ← slot.read json record
    readItems slots rest record
  | _, _, record => .ok record

def read (r : Record σ) (origin : Origin) : Json → Decoded σ
  | object members => do
    let (seen, record) ← r.readMembers members [] r.initial
    match r.slots.find? fun slot => slot.required && slot.name ∉ seen with
    | some slot => .error (.missing slot.name)
    | none => return record
  | array items => do
    let record ← readItems r.slots items r.initial
    if (r.slots.drop items.length).any Slot.required then
      .error (.tooShort items.length
        (r.wanted ++ " with " ++ toString r.slots.length ++ " elements"))
    else if r.slots.length < items.length then
      .error (origin.tooLong items.length r.slots.length)
    else return record
  | other => .error (.wrongType other r.wanted)

end Record

def optionalMember (name : String) (value : Option Json) : List (String × Json) :=
  match value with
  | some json => [(name, json)]
  | none => []

def nonEmptyMember (name : String) (items : List Json) : List (String × Json) :=
  if items.isEmpty then [] else [(name, array items)]

end QueryShield.Json
