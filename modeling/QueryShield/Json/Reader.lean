import QueryShield.Json.Token

namespace QueryShield.Json

/-- Whether the value is wanted, then with the number of containers that may be open at once, or
only passed over. -/
inductive Purpose where
  | keep (limit : Nat)
  | pass
  deriving Repr

/-- A container that is still open, its contents last first. An object's value is under way when
it has a name. -/
inductive Open where
  | array (reversed : List Json)
  | object (reversed : List (String × Json)) (name : String)

inductive Expecting where
  | value
  | valueOrClose
  | name
  | nameOrClose
  | colon
  | commaOrClose

structure Reading where
  expecting : Expecting
  opened : List Open

inductive Progress where
  | more (reading : Reading)
  | complete (json : Json)

def finish (json : Json) : List Open → Progress
  | [] => .complete json
  | .array reversed :: outer => .more ⟨.commaOrClose, .array (json :: reversed) :: outer⟩
  | .object reversed name :: outer =>
    .more ⟨.commaOrClose, .object ((name, json) :: reversed) name :: outer⟩

def close : List Open → Progress
  | [] => .complete .null
  | .array reversed :: outer => finish (.array reversed.reverse) outer
  | .object reversed _ :: outer => finish (.object reversed.reverse) outer

def mayOpen (purpose : Purpose) (opened : List Open) : Bool :=
  match purpose with
  | .keep limit => opened.length < limit
  | .pass => true

def brokenFault (purpose : Purpose) (kept passed : TextFault) : TextFault :=
  match purpose with
  | .keep _ => kept
  | .pass => passed

/-- A string or number whose form is right but whose value cannot be had. -/
def withoutValue (purpose : Purpose) (opened : List Open) : Except TextFault Progress :=
  match purpose with
  | .keep _ => .error .malformed
  | .pass => .ok (finish .null opened)

def readValueToken (purpose : Purpose) (opened : List Open) : Token → Except TextFault Progress
  | .null => .ok (finish .null opened)
  | .boolean b => .ok (finish (.boolean b) opened)
  | .number n => .ok (finish (.number n) opened)
  | .string s => .ok (finish (.string s) opened)
  | .unpairedString => withoutValue purpose opened
  | .hugeNumber => withoutValue purpose opened
  | .openArray =>
    if mayOpen purpose opened then .ok (.more ⟨.valueOrClose, .array [] :: opened⟩)
    else .error .malformed
  | .openObject =>
    if mayOpen purpose opened then .ok (.more ⟨.nameOrClose, .object [] "" :: opened⟩)
    else .error .malformed
  | .broken kept passed => .error (brokenFault purpose kept passed)
  | .brokenString kept passed => .error (brokenFault purpose kept passed)
  | _ => .error .malformed

def named (name : String) : List Open → List Open
  | .object reversed _ :: outer => .object reversed name :: outer
  | opened => opened

def readNameToken (purpose : Purpose) (opened : List Open) : Token → Except TextFault Progress
  | .string s => .ok (.more ⟨.colon, named s opened⟩)
  | .unpairedString =>
    match purpose with
    | .keep _ => .error .malformed
    | .pass => .ok (.more ⟨.colon, opened⟩)
  | .brokenString kept passed => .error (brokenFault purpose kept passed)
  | _ => .error .malformed

def Reading.advance (purpose : Purpose) (r : Reading) (token : Token) :
    Except TextFault Progress :=
  match r.expecting, token with
  | .valueOrClose, .closeArray => .ok (close r.opened)
  | .valueOrClose, token => readValueToken purpose r.opened token
  | .value, token => readValueToken purpose r.opened token
  | .nameOrClose, .closeObject => .ok (close r.opened)
  | .nameOrClose, token => readNameToken purpose r.opened token
  | .name, token => readNameToken purpose r.opened token
  | .colon, .colon => .ok (.more ⟨.value, r.opened⟩)
  | .colon, _ => .error .malformed
  | .commaOrClose, token =>
    match token, r.opened with
    | .comma, .array _ :: _ => .ok (.more ⟨.value, r.opened⟩)
    | .comma, .object _ _ :: _ => .ok (.more ⟨.name, r.opened⟩)
    | .closeArray, .array _ :: _ => .ok (close r.opened)
    | .closeObject, .object _ _ :: _ => .ok (close r.opened)
    | _, _ => .error .malformed

def Reading.run (purpose : Purpose) (r : Reading) :
    List Token → Except TextFault (Json × List Token)
  | [] => .error .endOfText
  | token :: rest =>
    match r.advance purpose token with
    | .error fault => .error fault
    | .ok (.complete json) => .ok (json, rest)
    | .ok (.more next) => next.run purpose rest

def readValue (purpose : Purpose) (tokens : List Token) : Except TextFault (Json × List Token) :=
  Reading.run purpose ⟨.value, []⟩ tokens

def nestingLimit : Nat := 127

def ofText (text : String) : Except TextFault Json :=
  match readValue (.keep nestingLimit) (tokens text) with
  | .error fault => .error fault
  | .ok (json, []) => .ok json
  | .ok _ => .error .malformed

end QueryShield.Json
