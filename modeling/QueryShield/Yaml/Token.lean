import QueryShield.Yaml.Scalar

namespace QueryShield.Yaml

inductive Collection where
  | sequence
  | mapping
  deriving DecidableEq, Repr

inductive Style where
  | plain
  | quoted
  | literal
  | folded
  deriving DecidableEq, Repr

inductive Token where
  | version (major minor : Nat)
  | handle (name expansion : String)
  | documentStart
  | documentEnd
  | openBlock (collection : Collection)
  | closeBlock
  | openFlow (collection : Collection)
  | closeFlow (collection : Collection)
  | dash
  | comma
  | key
  | colon
  | anchor (name : String)
  | alias (name : String)
  | tag (handle suffix : String)
  | scalar (style : Style) (text : String)
  deriving DecidableEq, Repr

def isNameChar (c : Char) : Bool := c.isAlphanum || c == '_' || c == '-'

def readName (cursor : Cursor) : Option (String × Cursor) :=
  let name := (cursor.rest.drop 1).takeWhile isNameChar
  let next := cursor.skip (name.length + 1)
  if name.isEmpty then none
  else if blankNext next.rest || next.rest.head?.any (fun c => "?:,]\x7d%@`".contains c) then
    some (String.ofList name, next)
  else none

def isTagChar (isWhole : Bool) (c : Char) : Bool :=
  isNameChar c || ";/?:@&=+$.!~*'()".contains c || (isWhole && ",[]".contains c)

def octetsBehind? (octet : Nat) : Option Nat :=
  if octet < 0x80 then some 0
  else if octet < 0xc0 then none
  else if octet < 0xe0 then some 1
  else if octet < 0xf0 then some 2
  else if octet < 0xf8 then some 3
  else none

/-- The text of a tag and its width. Octets may be written as a percent sign and two digits, those
of one character together; each is a character of its own here. -/
def readTagText (isWhole : Bool) : Nat → List Char → Option (List Char × Nat)
  | due, '%' :: a :: b :: rest => do
    let octet := (← Text.hexDigit? a) * 16 + (← Text.hexDigit? b)
    let due ← if due = 0 then octetsBehind? octet
      else if 0x80 ≤ octet && octet < 0xc0 then some (due - 1) else none
    let (text, width) ← readTagText isWhole due rest
    return (Char.ofNat octet :: text, width + 3)
  | 0, c :: rest =>
    if c == '%' then none
    else if isTagChar isWhole c then
      (readTagText isWhole 0 rest).map fun (text, width) => (c :: text, width + 1)
    else some ([], 0)
  | 0, [] => some ([], 0)
  | _ + 1, _ => none

def tagText (octets : List Char) : String := String.ofList (octets.takeWhile (· != '\x00'))

/-- The tag at an exclamation mark and its width: one in angle brackets has no handle, one behind a
name in exclamation marks has that handle, any other one has the handle `!`. -/
def readTag (text : List Char) : Option (Token × Nat) :=
  match text with
  | '!' :: '<' :: rest => do
    let (suffix, width) ← readTagText true 0 rest
    if width = 0 || (rest.drop width).head? != some '>' then none
    return (.tag "" (tagText suffix), width + 3)
  | '!' :: rest =>
    let name := rest.takeWhile isNameChar
    match rest.drop name.length with
    | '!' :: behind => do
      let (suffix, width) ← readTagText false 0 behind
      if width = 0 then none
      return (.tag (String.ofList ('!' :: name ++ ['!'])) (tagText suffix), name.length + width + 2)
    | behind => do
      let (suffix, width) ← readTagText false 0 behind
      let suffix := tagText (name ++ suffix)
      let token : Token := if suffix = "" then .tag "" "!" else .tag "!" suffix
      return (token, name.length + width + 1)
  | _ => none

def readVersionNumber (text : List Char) : Option (Nat × List Char) :=
  let digits := text.takeWhile Char.isDigit
  if digits.isEmpty || 9 < digits.length then none
  else some (digits.foldl (fun n c => n * 10 + (c.toNat - 48)) 0, text.drop digits.length)

def readDirective (name text : List Char) : Option (Token × Nat) :=
  let words := text.dropWhile isSpace
  let widthTo (rest : List Char) : Nat := text.length - rest.length
  if name = ['Y', 'A', 'M', 'L'] then do
    let (major, rest) ← readVersionNumber words
    match rest with
    | '.' :: rest => do
      let (minor, rest) ← readVersionNumber rest
      return (.version major minor, widthTo rest)
    | _ => none
  else if name = ['T', 'A', 'G'] then
    match words with
    | '!' :: rest => do
      let inner := rest.takeWhile isNameChar
      let closing := (rest.drop inner.length).takeWhile (· == '!') |>.take 1
      let behind := rest.drop (inner.length + closing.length)
      if closing.isEmpty && !inner.isEmpty then none
      if !behind.head?.any isSpace then none
      let whole := behind.dropWhile isSpace
      let (expansion, width) ← readTagText true 0 whole
      if width = 0 || !blankNext (whole.drop width) then none
      return (.handle (String.ofList ('!' :: inner ++ closing)) (tagText expansion),
        widthTo (whole.drop width))
    | _ => none
  else none

end QueryShield.Yaml
