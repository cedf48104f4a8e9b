import QueryShield.Json.Basic

namespace QueryShield.Json

def hexDigit (n : Nat) : Char := if n < 10 then Char.ofNat (48 + n) else Char.ofNat (87 + n)

def escapeChar (c : Char) : String :=
  match c.toNat with
  | 0x22 => "\\\""
  | 0x5c => "\\\\"
  | 0x08 => "\\b"
  | 0x09 => "\\t"
  | 0x0a => "\\n"
  | 0x0c => "\\f"
  | 0x0d => "\\r"
  | code =>
    if code < 0x20 then
      ("\\u00".push (hexDigit (code / 16))).push (hexDigit (code % 16))
    else String.singleton c

def quoted (s : String) : String :=
  s.foldl (fun text c => text ++ escapeChar c) "\"" ++ "\""

def opening : String := "\x7b"
def closing : String := "\x7d"

/-- A double that is no number has no text of its own. -/
def numberText : Number → String
  | .real x => if x.isFinite then x.toText else "null"
  | n => n.toText

def scalarText : Json → String
  | null => "null"
  | boolean true => "true"
  | boolean false => "false"
  | number n => numberText n
  | string s => quoted s
  | array _ => "[]"
  | object _ => opening ++ closing

mutual

def write (text : String) : Json → String
  | array items => (writeItems (text ++ "[") true items) ++ "]"
  | object members => (writeMembers (text ++ opening) true members) ++ closing
  | scalar => text ++ scalar.scalarText

def writeItems (text : String) (first : Bool) : List Json → String
  | [] => text
  | item :: rest => writeItems (write (if first then text else text ++ ",") item) false rest

def writeMembers (text : String) (first : Bool) : List (String × Json) → String
  | [] => text
  | (name, value) :: rest =>
    let start := (if first then text else text ++ ",") ++ quoted name ++ ":"
    writeMembers (write start value) false rest

end

def compact (json : Json) : String := json.write ""

def newline (depth : Nat) : String := "\n".pushn ' ' (2 * depth)

mutual

def indentedAt (depth : Nat) : Json → String
  | array (item :: rest) =>
    "[" ++ ",".intercalate (indentedItems (depth + 1) (item :: rest)) ++ newline depth ++ "]"
  | object (member :: rest) =>
    opening ++ ",".intercalate (indentedMembers (depth + 1) (member :: rest)) ++
      newline depth ++ closing
  | scalar => scalar.scalarText

def indentedItems (depth : Nat) : List Json → List String
  | [] => []
  | item :: rest => (newline depth ++ item.indentedAt depth) :: indentedItems depth rest

def indentedMembers (depth : Nat) : List (String × Json) → List String
  | [] => []
  | (name, value) :: rest =>
    (newline depth ++ quoted name ++ ": " ++ value.indentedAt depth) :: indentedMembers depth rest

end

def indented (json : Json) : String := json.indentedAt 0

end QueryShield.Json
