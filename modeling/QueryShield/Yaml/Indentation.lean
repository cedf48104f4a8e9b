import QueryShield.Yaml.Token

namespace QueryShield.Yaml

structure KeyStart where
  line : Nat
  column : Nat
  position : Nat
  isRequired : Bool

def keyLimit : Nat := 1024

def KeyStart.reaches (start : KeyStart) (cursor : Cursor) : Bool :=
  start.line == cursor.line && cursor.column ≤ start.column + keyLimit

structure Scan where
  cursor : Cursor
  tokens : List Token := []
  count : Nat := 0
  columns : List Nat := []
  keyStart : Option KeyStart := none
  outerKeyStarts : List (Option KeyStart) := []
  mayBeKey : Bool := true

namespace Scan

def inFlow (scan : Scan) : Bool := !scan.outerKeyStarts.isEmpty

def push (scan : Scan) (token : Token) : Scan :=
  { scan with tokens := token :: scan.tokens, count := scan.count + 1 }

def insert (scan : Scan) (recent : Nat) (token : Token) : Scan :=
  let (after, before) := scan.tokens.splitAt recent
  { scan with tokens := after ++ token :: before, count := scan.count + 1 }

/-- Closes the block collections that are indented more than that column, or all of them. -/
def unindent (scan : Scan) (column : Option Nat) : Scan :=
  if scan.inFlow then scan
  else
    let (closed, columns) := scan.columns.span fun open_ => column.all (· < open_)
    { scan with
      columns
      tokens := List.replicate closed.length .closeBlock ++ scan.tokens
      count := scan.count + closed.length }

/-- Opens a block collection at a column that is indented more, before the last tokens. -/
def indent (scan : Scan) (collection : Collection) (column recent : Nat) : Scan :=
  if !scan.inFlow && scan.columns.head?.all (· < column) then
    { scan with columns := column :: scan.columns }.insert recent (.openBlock collection)
  else scan

def dropKeyStart (scan : Scan) : Option Scan :=
  if scan.keyStart.any KeyStart.isRequired then none else some { scan with keyStart := none }

def markKeyStart (scan : Scan) : Option Scan :=
  if !scan.mayBeKey then some scan
  else
    scan.dropKeyStart.map fun scan =>
      let ⟨_, line, column⟩ := scan.cursor
      let isRequired := !scan.inFlow && scan.columns.head? == some column
      { scan with keyStart := some ⟨line, column, scan.count, isRequired⟩ }

def take (scan : Scan) (token : Token) (next : Cursor) (mayBeKey : Bool) : Scan :=
  { scan.push token with cursor := next, mayBeKey }

def takeMark (scan : Scan) (token : Token) (width : Nat) (mayBeKey : Bool) : Scan :=
  scan.take token (scan.cursor.skip width) mayBeKey

def endDocument (scan : Scan) : Option Scan := (scan.unindent none).dropKeyStart

def takeDirective (scan : Scan) : Option Scan := do
  let scan ← scan.endDocument
  let text := scan.cursor.rest.drop 1
  let name := text.takeWhile isNameChar
  if !blankNext (text.drop name.length) then none
  let (token, width) ← readDirective name ((text.drop name.length).takeWhile (!isBreak ·))
  let next ← (scan.cursor.skip (1 + name.length + width)).endLine?
  return scan.take token next false

def takeOpening (scan : Scan) (collection : Collection) : Option Scan :=
  scan.markKeyStart.map fun scan =>
    { scan.takeMark (.openFlow collection) 1 true with
      keyStart := none, outerKeyStarts := scan.keyStart :: scan.outerKeyStarts }

def takeClosing (scan : Scan) (collection : Collection) : Option Scan :=
  scan.dropKeyStart.bind fun scan =>
    match scan.outerKeyStarts with
    | [] => none
    | keyStart :: outerKeyStarts =>
      some { scan.takeMark (.closeFlow collection) 1 false with keyStart, outerKeyStarts }

def takeComma (scan : Scan) : Option Scan :=
  scan.dropKeyStart.map (·.takeMark .comma 1 true)

def takeIndicator (scan : Scan) (token : Token) (collection : Collection) (mayBeKey : Bool) :
    Option Scan :=
  if !scan.inFlow && !scan.mayBeKey then none
  else
    (scan.indent collection scan.cursor.column 0).dropKeyStart.map (·.takeMark token 1 mayBeKey)

def takeColon (scan : Scan) : Option Scan :=
  match scan.keyStart.filter (·.reaches scan.cursor) with
  | some start =>
    let recent := scan.count - start.position
    let scan := (scan.insert recent .key).indent .mapping start.column (recent + 1)
    some ({ scan with keyStart := none }.takeMark .colon 1 false)
  | none => scan.takeIndicator .colon .mapping (!scan.inFlow)

def takeName (scan : Scan) (token : String → Token) : Option Scan := do
  let scan ← scan.markKeyStart
  let (name, next) ← readName scan.cursor
  return scan.take (token name) next false

def takeTag (scan : Scan) : Option Scan := do
  let scan ← scan.markKeyStart
  let (token, width) ← readTag scan.cursor.rest
  let next := scan.cursor.skip width
  if blankNext next.rest || (scan.inFlow && next.rest.head? == some ',') then
    return scan.take token next false
  else none

def takeBlock (scan : Scan) (style : Style) : Option Scan := do
  if scan.inFlow then none
  let scan ← scan.dropKeyStart
  let (text, next) ← readBlock (style = .literal) scan.columns.head? scan.cursor
  return scan.take (.scalar style text) next true

def takeQuoted (scan : Scan) (quote : Char) : Option Scan := do
  let scan ← scan.markKeyStart
  let (text, next) ← readQuoted quote scan.cursor
  return scan.take (.scalar .quoted text) next false

def takePlain (scan : Scan) : Option Scan := do
  let scan ← scan.markKeyStart
  let indentation := (scan.columns.head?.map (· + 1)).getD 0
  let (text, endsLine, next) ← readPlain scan.inFlow indentation scan.cursor
  return scan.take (.scalar .plain text) next endsLine

def takeToken (scan : Scan) : Option Scan :=
  let cursor := scan.cursor
  match cursor.rest with
  | [] => none
  | c :: rest =>
    let standsAlone := blankNext rest
    if c == '%' && cursor.column == 0 then scan.takeDirective
    else if cursor.atMark '-' then scan.endDocument.map (·.takeMark .documentStart 3 false)
    else if cursor.atMark '.' then scan.endDocument.map (·.takeMark .documentEnd 3 false)
    else if c == '-' && standsAlone then scan.takeIndicator .dash .sequence true
    else if c == '?' && (scan.inFlow || standsAlone) then
      scan.takeIndicator .key .mapping (!scan.inFlow)
    else if c == ':' && (scan.inFlow || standsAlone) then scan.takeColon
    else
      match c with
      | '[' => scan.takeOpening .sequence
      | '\x7b' => scan.takeOpening .mapping
      | ']' => scan.takeClosing .sequence
      | '\x7d' => scan.takeClosing .mapping
      | ',' => scan.takeComma
      | '&' => scan.takeName .anchor
      | '*' => scan.takeName .alias
      | '!' => scan.takeTag
      | '|' => scan.takeBlock .literal
      | '>' => scan.takeBlock .folded
      | '\"' => scan.takeQuoted c
      | '\'' => scan.takeQuoted c
      | _ => if "\t#%@`".contains c then none else scan.takePlain

def run : Nat → Scan → Option Scan
  | 0, _ => none
  | fuel + 1, scan =>
    let (mayBeKey, cursor) := scan.cursor.skipBlanks scan.inFlow scan.mayBeKey
    let scan := { scan with cursor, mayBeKey }
    if cursor.rest.isEmpty then scan.endDocument
    else (scan.unindent (some cursor.column)).takeToken.bind (run fuel)

end Scan

def tokens? (text : String) : Option (List Token) := do
  let cursor ← Cursor.ofText? text
  let scan ← Scan.run (cursor.rest.length + 1) { cursor }
  return scan.tokens.reverse

end QueryShield.Yaml
