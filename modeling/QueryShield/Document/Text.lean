import QueryShield.Document.Decoding
import QueryShield.Json.Reader

namespace QueryShield

open Json

namespace Shape

inductive Scalar where
  | natural
  | text
  | optionalText
  deriving DecidableEq, Repr

def Scalar.accepts : Scalar → Json → Bool
  | natural, .number (.natural _) => true
  | text, .string _ => true
  | optionalText, .string _ => true
  | optionalText, .null => true
  | _, _ => false

end Shape

inductive Shape where
  | scalar (kind : Shape.Scalar)
  /-- One of some names, alone or as the only name of an object without content. -/
  | choice (names : List String)
  | list (item : Shape)
  /-- Fields in order, each with whether it is required. -/
  | record (fields : List (String × Bool × Shape))
  | anyMembers
  | selection

namespace Shape

def directives : Shape := .list (.scalar .text)

def selectionSet : Shape := .list .selection

def operation : Shape :=
  .record [("kind", false, .choice (OperationKind.names.map Prod.fst)),
    ("name", false, .scalar .optionalText), ("directives", false, directives),
    ("selection_set", false, selectionSet)]

def fragment : Shape :=
  .record [("name", true, .scalar .text), ("type_condition", true, .scalar .text),
    ("directives", false, directives), ("selection_set", false, selectionSet)]

def document : Shape :=
  .record [("source_length", true, .scalar .natural), ("operations", false, .list operation),
    ("fragments", false, .list fragment), ("variables", false, .anyMembers)]

abbrev Reader (α : Type) := List Token → Except TextFault (α × List Token)

def readScalar : Reader Json
  | [] => .error .endOfText
  | .null :: rest => .ok (.null, rest)
  | .boolean b :: rest => .ok (.boolean b, rest)
  | .number n :: rest => .ok (.number n, rest)
  | .string s :: rest => .ok (.string s, rest)
  | .openArray :: _ => .error .misshapen
  | .openObject :: _ => .error .misshapen
  | .broken kept _ :: _ => .error kept
  | .brokenString kept _ :: _ => .error kept
  | _ :: _ => .error .malformed

def readAccepted (accepts : Json → Bool) : Reader Json := fun tokens => do
  let (json, rest) ← readScalar tokens
  if accepts json then return (json, rest) else .error .misshapen

def expect (isWanted : Token → Bool) : Reader Unit
  | [] => .error .endOfText
  | token :: rest => if isWanted token then .ok ((), rest) else .error .malformed

def isColon : Token → Bool
  | .colon => true
  | _ => false

def isCloseObject : Token → Bool
  | .closeObject => true
  | _ => false

def readKey : Reader String
  | [] => .error .endOfText
  | .string s :: rest => .ok (s, rest)
  | .brokenString kept _ :: _ => .error kept
  | _ :: _ => .error .malformed

def readFirstKey : Reader (Option String)
  | .closeObject :: rest => .ok (none, rest)
  | tokens => (readKey tokens).map fun (name, rest) => (some name, rest)

def readNextKey : Reader (Option String)
  | [] => .error .endOfText
  | .closeObject :: rest => .ok (none, rest)
  | .comma :: rest => (readKey rest).map fun (name, rest) => (some name, rest)
  | _ :: _ => .error .malformed

def startsItem : Reader Bool
  | [] => .error .endOfText
  | .closeArray :: rest => .ok (false, rest)
  | tokens => .ok (true, tokens)

def continuesItems : Reader Bool
  | [] => .error .endOfText
  | .closeArray :: rest => .ok (false, rest)
  | .comma :: rest => .ok (true, rest)
  | _ :: _ => .error .malformed

def isSelectionKind (json : Json) : Bool :=
  match toIdentifier .met SelectionKind.names json with
  | .ok _ => true
  | .error _ => false

def decodable (json : Json) : Except TextFault Json :=
  match Selection.ofJson .met json with
  | .ok _ => .ok json
  | .error _ => .error .misshapen

def isNull : Json → Bool
  | .null => true
  | _ => false

/-- A container may open while some are left, and then one less is. -/
def entering (depth : Nat) (read : Nat → Except TextFault α) : Except TextFault α :=
  match depth with
  | 0 => .error .malformed
  | depth + 1 => read depth

def readChoice (names : List String) (depth : Nat) : Reader Json
  | [] => .error .endOfText
  | .openObject :: rest => entering depth fun _ => do
    let (name, rest) ← readKey rest
    if !names.contains name then .error .misshapen
    let ((), rest) ← expect isColon rest
    let (_, rest) ← readAccepted isNull rest
    let ((), rest) ← expect isCloseObject rest
    return (.string name, rest)
  | .string s :: rest => if names.contains s then .ok (.string s, rest) else .error .misshapen
  | .brokenString kept _ :: _ => .error kept
  | _ :: _ => .error .malformed

def readItems (readItem : Reader Json) : Nat → List Json → Bool → Reader (List Json)
  | 0, _, _, _ => .error .malformed
  | _ + 1, items, false, tokens => .ok (items.reverse, tokens)
  | fuel + 1, items, true, tokens => do
    let (json, rest) ← readItem tokens
    let (more, rest) ← continuesItems rest
    readItems readItem fuel (json :: items) more rest

def readArray (readItem : Reader Json) (fuel : Nat) : Reader (List Json) := fun tokens => do
  let (any, rest) ← startsItem tokens
  readItems readItem fuel [] any rest

/-- Fields by position, each with whether it is required. Nothing may follow the last one. -/
def readPositions : List (Bool × Reader Json) → List Json → Bool → Reader (List Json)
  | fields, items, false, tokens =>
    if fields.any Prod.fst then .error .misshapen else .ok (items.reverse, tokens)
  | [], _, true, _ => .error .malformed
  | (_, readField) :: fields, items, true, tokens => do
    let (json, rest) ← readField tokens
    let (more, rest) ← continuesItems rest
    readPositions fields (json :: items) more rest

/-- How the value of a member is read, by its name and the members before it: it is kept, or it is
none. -/
abbrev MemberReader := List (String × Json) → String → Except TextFault (Reader (Option Json))

def kept (readJson : Reader Json) : Reader (Option Json) := fun tokens => do
  let (json, rest) ← readJson tokens
  return (some json, rest)

def passedOver : Reader (Option Json) := fun tokens => do
  let (_, rest) ← readValue .pass tokens
  return (none, rest)

def readMembers (readMember : MemberReader) :
    Nat → List (String × Json) → Option String → Reader (List (String × Json))
  | 0, _, _, _ => .error .malformed
  | _ + 1, members, none, tokens => .ok (members.reverse, tokens)
  | fuel + 1, members, some name, tokens => do
    let readJson ← readMember members name
    let ((), rest) ← expect isColon tokens
    let (json, rest) ← readJson rest
    let (next, rest) ← readNextKey rest
    readMembers readMember fuel ((json.map (name, ·)).toList ++ members) next rest

def readObject (readMember : MemberReader) (fuel : Nat) : Reader (List (String × Json)) :=
  fun tokens => do
    let (first, rest) ← readFirstKey tokens
    readMembers readMember fuel [] first rest

def readAnyMember (depth : Nat) : MemberReader := fun _ _ => .ok (kept (readValue (.keep depth)))

/-- The kind of a selection is looked at as soon as it is read, and is given once at most. -/
def readSelectionMember (depth : Nat) : MemberReader := fun members name =>
  if name == "kind" then
    if members.any (·.1 == "kind") then .error .misshapen
    else .ok (kept (readAccepted isSelectionKind))
  else .ok (kept (readValue (.keep depth)))

/-- A selection, as an object or as an array with its kind in front. -/
def readSelectionShape (fuel depth : Nat) : Reader Json
  | .openObject :: rest => entering depth fun depth => do
    let (members, rest) ← readObject (readSelectionMember depth) fuel rest
    return (← decodable (.object members), rest)
  | .openArray :: rest => entering depth fun depth => do
    let (any, rest) ← startsItem rest
    if !any then .error .misshapen
    let (kind, rest) ← readAccepted isSelectionKind rest
    let (more, rest) ← continuesItems rest
    let (items, rest) ← readItems (readValue (.keep depth)) fuel [] more rest
    return (← decodable (.array (kind :: items)), rest)
  | tokens => readAccepted (fun _ => false) tokens

def readField (readShape : Shape → Reader Json) (fields : List (String × Bool × Shape)) :
    MemberReader := fun members name =>
  match fields.lookup name with
  | none => .ok passedOver
  | some (_, shape) =>
    if members.any (·.1 == name) then .error .misshapen else .ok (kept (readShape shape))

def isComplete (fields : List (String × Bool × Shape)) (members : List (String × Json)) : Bool :=
  fields.all fun (name, required, _) => !required || members.any (·.1 == name)

def read : Nat → Nat → Shape → Reader Json
  | 0, _, _, _ => .error .malformed
  | _ + 1, _, .scalar kind, tokens => readAccepted kind.accepts tokens
  | _ + 1, depth, .choice names, tokens => readChoice names depth tokens
  | fuel + 1, depth, .selection, tokens => readSelectionShape fuel depth tokens
  | fuel + 1, depth, .list item, .openArray :: rest => entering depth fun depth => do
    let (items, rest) ← readArray (read fuel depth item) fuel rest
    return (.array items, rest)
  | fuel + 1, depth, .record fields, .openObject :: rest => entering depth fun depth => do
    let (members, rest) ← readObject (readField (read fuel depth) fields) fuel rest
    if isComplete fields members then return (.object members, rest) else .error .misshapen
  | fuel + 1, depth, .record fields, .openArray :: rest => entering depth fun depth => do
    let (any, rest) ← startsItem rest
    let readers := fields.map fun (_, required, shape) => (required, read fuel depth shape)
    let (items, rest) ← readPositions readers [] any rest
    return (.array items, rest)
  | fuel + 1, depth, .anyMembers, .openObject :: rest => entering depth fun depth => do
    let (members, rest) ← readObject (readAnyMember depth) fuel rest
    return (.object members, rest)
  | _ + 1, _, _, tokens => readAccepted (fun _ => false) tokens

end Shape

def Document.ofText (text : String) : Except TextFault Document := do
  let tokens := Json.tokens text
  let (json, rest) ← Shape.read (2 * tokens.length + 16) nestingLimit .document tokens
  if !rest.isEmpty then .error .malformed
  match ofJson .met json with
  | .ok document => return document
  | .error _ => .error .misshapen

end QueryShield
