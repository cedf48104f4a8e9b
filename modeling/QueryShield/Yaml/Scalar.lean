import QueryShield.Text.Hexadecimal
import QueryShield.Yaml.Cursor

namespace QueryShield.Yaml

open Text (hexDigit?)

structure Gap where
  blanks : List Char := []
  breaks : List Char := []
  isEscaped : Bool := false

def Gap.endsLine (gap : Gap) : Bool := gap.isEscaped || !gap.breaks.isEmpty

def Gap.text (gap : Gap) : List Char :=
  if !gap.endsLine then gap.blanks
  else if gap.isEscaped then gap.breaks
  else if gap.breaks = ['\n'] then [' ']
  else if gap.breaks.getLast? = some '\n' then gap.breaks.dropLast
  else gap.breaks

def readGap (indentation : Nat) (gap : Gap) (cursor : Cursor) : Option (Gap × Cursor) :=
  match _h : cursor.rest with
  | [] => some (gap, cursor)
  | c :: _ =>
    if isBreak c then readGap indentation { gap with breaks := c :: gap.breaks } cursor.skipOne
    else if !isSpace c then some (gap, cursor)
    else if !gap.endsLine then
      readGap indentation { gap with blanks := c :: gap.blanks } cursor.skipOne
    else if c == '\t' && cursor.column < indentation then none
    else readGap indentation gap cursor.skipOne
termination_by cursor.rest.length
decreasing_by all_goals exact Cursor.length_skipOne _h

theorem length_readGap {indentation : Nat} {gap next : Gap} {cursor behind : Cursor}
    (h : readGap indentation gap cursor = some (next, behind)) :
    behind.rest.length ≤ cursor.rest.length := by
  fun_induction readGap indentation gap cursor <;> grind [Cursor.length_skipOne_le]

theorem length_readGap_lt {indentation : Nat} {gap next : Gap} {cursor behind : Cursor} {c : Char}
    {rest : List Char} (hc : cursor.rest = c :: rest) (hb : blankNext [c] = true)
    (h : readGap indentation gap cursor = some (next, behind)) :
    behind.rest.length < cursor.rest.length := by
  have shorter {gap next : Gap} {behind : Cursor}
      (h : readGap indentation gap cursor.skipOne = some (next, behind)) :
      behind.rest.length < cursor.rest.length :=
    Nat.lt_of_le_of_lt (length_readGap h) (Cursor.length_skipOne hc)
  rw [readGap] at h
  split at h
  · simp_all
  · rename_i d _ hd
    obtain rfl : d = c := by simp_all
    split at h
    · exact shorter h
    · split at h
      · simp_all [blankNext]
      · split at h
        · exact shorter h
        · split at h
          · simp at h
          · exact shorter h

/-- The characters of a plain word, up to a blank, a colon that ends a key, or a bracket; not
something that looks like both a colon and a bracket. -/
def readPlainWord (inFlow : Bool) : List Char → List Char → Option (List Char × List Char)
  | word, [] => some (word, [])
  | word, c :: rest =>
    if blankNext [c] then some (word, c :: rest)
    else if c == ':' && inFlow && rest.head?.any (fun d => isFlowMark d || d == '?') then none
    else if c == ':' && blankNext rest then some (word, c :: rest)
    else if inFlow && isFlowMark c then some (word, c :: rest)
    else readPlainWord inFlow (c :: word) rest

/-- Reads words, and tells whether a line ended behind them. Outside brackets a line that is
indented less ends the scalar. -/
def readPlainFrom (inFlow : Bool) (indentation : Nat) (text : List Char) (gap : Gap)
    (cursor : Cursor) : Option (List Char × Bool × Cursor) :=
  if cursor.atDocumentMark || cursor.rest.head? == some '#' ||
      (!inFlow && gap.endsLine && cursor.column < indentation) then
    some (text, gap.endsLine, cursor)
  else
    match _hw : readPlainWord inFlow [] cursor.rest with
    | none => none
    | some ([], _) => some (text, gap.endsLine, cursor)
    | some (c :: word, _) =>
      match _hg : readGap indentation {} (cursor.skip (word.length + 1)) with
      | none => none
      | some (next, behind) =>
        readPlainFrom inFlow indentation (c :: word ++ gap.text ++ text) next behind
termination_by cursor.rest.length
decreasing_by
  refine Nat.lt_of_le_of_lt (length_readGap _hg) (Cursor.length_skip (Nat.succ_pos _) ?_)
  intro h
  simp [h, readPlainWord] at _hw

def readPlain (inFlow : Bool) (indentation : Nat) (cursor : Cursor) :
    Option (String × Bool × Cursor) := do
  let (text, endsLine, behind) ← readPlainFrom inFlow indentation [] {} cursor
  return (String.ofList text.reverse, endsLine, behind)

def readHex (count : Nat) (text : List Char) : Option Char := do
  let digits ← (text.take count).mapM hexDigit?
  if digits.length < count then none
  else
    let code := digits.foldl (fun n digit => n * 16 + digit) 0
    if code.isValidChar then some (Char.ofNat code) else none

def escapedChar? (c : Char) : Option Char :=
  match c with
  | '0' => some '\x00'
  | 'a' => some '\x07'
  | 'b' => some '\x08'
  | 't' => some '\t'
  | '\t' => some '\t'
  | 'n' => some '\n'
  | 'v' => some '\x0b'
  | 'f' => some '\x0c'
  | 'r' => some '\r'
  | 'e' => some '\x1b'
  | ' ' => some ' '
  | '\"' => some '\"'
  | '/' => some '/'
  | '\\' => some '\\'
  | 'N' => some '\u0085'
  | '_' => some '\u00a0'
  | 'L' => some '\u2028'
  | 'P' => some '\u2029'
  | _ => none

def escapeWidth? (c : Char) : Option Nat :=
  match c with
  | 'x' => some 2
  | 'u' => some 4
  | 'U' => some 8
  | _ => none

def readQuotedFrom (quote : Char) (text : List Char) (cursor : Cursor) :
    Option (List Char × Cursor) :=
  if cursor.atDocumentMark then none
  else
    match _h : cursor.rest with
    | [] => none
    | '\'' :: '\'' :: _ =>
      if quote == '\'' then readQuotedFrom quote ('\'' :: text) (cursor.skip 2)
      else readQuotedFrom quote ('\'' :: text) (cursor.skip 1)
    | '\\' :: rest =>
      if quote == '\'' then readQuotedFrom quote ('\\' :: text) (cursor.skip 1)
      else
        match _r : rest with
        | [] => none
        | c :: digits =>
          if isBreak c then
            match _g : readGap 0 { isEscaped := true } (cursor.skip 1).skipOne with
            | none => none
            | some (gap, behind) => readQuotedFrom quote (gap.text ++ text) behind
          else
            match escapedChar? c, escapeWidth? c with
            | some d, _ => readQuotedFrom quote (d :: text) (cursor.skip 2)
            | none, some width =>
              match readHex width digits with
              | some d => readQuotedFrom quote (d :: text) (cursor.skip (2 + width))
              | none => none
            | none, none => none
    | c :: _ =>
      if c == quote then some (text, cursor.skip 1)
      else if _b : blankNext [c] then
        match _g : readGap 0 {} cursor with
        | none => none
        | some (gap, behind) => readQuotedFrom quote (gap.text ++ text) behind
      else readQuotedFrom quote (c :: text) (cursor.skip 1)
termination_by cursor.rest.length
decreasing_by
  all_goals try exact Cursor.length_skip (by omega) (by simp [_h])
  · refine Nat.lt_of_le_of_lt (length_readGap _g) ?_
    exact Nat.lt_trans (Cursor.length_skipOne (by rw [Cursor.rest_skip, _h]; rfl))
      (Cursor.length_skip (by omega) (by simp [_h]))
  · exact length_readGap_lt _h _b _g

def readQuoted (quote : Char) (cursor : Cursor) : Option (String × Cursor) := do
  let (text, behind) ← readQuotedFrom quote [] (cursor.skip 1)
  return (String.ofList text.reverse, behind)

inductive Chomping where
  | strip
  | clip
  | keep

structure BlockHeader where
  isLiteral : Bool
  chomping : Chomping := .clip
  indentation : Option Nat := none

def chomping? (c : Char) : Option Chomping :=
  match c with
  | '-' => some .strip
  | '+' => some .keep
  | _ => none

def readHeader (isLiteral : Bool) (text : List Char) : Option (BlockHeader × Nat) :=
  let digit? (c : Char) : Option Nat := if c.isDigit then some (c.toNat - 48) else none
  let first := text.head?
  let second := text.tail.head?
  match first.bind chomping?, first.bind digit? with
  | some chomping, _ =>
    match second.bind digit? with
    | some 0 => none
    | some n => some ({ isLiteral, chomping, indentation := some n }, 2)
    | none => some ({ isLiteral, chomping }, 1)
  | none, some 0 => none
  | none, some n =>
    match second.bind chomping? with
    | some chomping => some ({ isLiteral, chomping, indentation := some n }, 2)
    | none => some ({ isLiteral, indentation := some n }, 1)
  | none, none => some ({ isLiteral }, 0)

def skipEmptyLines (indentation : Option Nat) (breaks : List Char) (deepest : Nat)
    (cursor : Cursor) : Option (List Char × Nat × Cursor) :=
  let reached := max deepest cursor.column
  let isIndentation := indentation.all (cursor.column < ·)
  match _h : cursor.rest with
  | [] => some (breaks, reached, cursor)
  | c :: _ =>
    if isBreak c then skipEmptyLines indentation (c :: breaks) reached cursor.skipOne
    else if c == ' ' && isIndentation then skipEmptyLines indentation breaks reached cursor.skipOne
    else if c == '\t' && isIndentation then none
    else some (breaks, reached, cursor)
termination_by cursor.rest.length
decreasing_by all_goals exact Cursor.length_skipOne _h

theorem length_skipEmptyLines {indentation : Option Nat} {breaks found : List Char}
    {deepest column : Nat} {cursor behind : Cursor}
    (h : skipEmptyLines indentation breaks deepest cursor = some (found, column, behind)) :
    behind.rest.length ≤ cursor.rest.length := by
  fun_induction skipEmptyLines indentation breaks deepest cursor <;>
    grind [Cursor.length_skipOne_le]

structure BlockText where
  text : List Char := []
  leadingBreak : Option Char := none
  trailingBreaks : List Char := []
  leadingBlank : Bool := false

def BlockText.write (block : BlockText) (isLiteral startsBlank : Bool) (line : List Char) :
    BlockText :=
  let joins := !isLiteral && block.leadingBreak == some '\n' && !block.leadingBlank && !startsBlank
  let first :=
    if !joins then block.leadingBreak.toList
    else if block.trailingBreaks.isEmpty then [' '] else []
  { text := line.reverse ++ block.trailingBreaks ++ first ++ block.text
    leadingBlank := startsBlank }

def readBlockLines (isLiteral : Bool) (indentation : Nat) (block : BlockText) (cursor : Cursor) :
    Option (BlockText × Cursor) :=
  match _h : cursor.rest with
  | [] => some (block, cursor)
  | c :: _ =>
    if cursor.column ≠ indentation then some (block, cursor)
    else
      let line := cursor.rest.takeWhile (!isBreak ·)
      let written := block.write isLiteral (isSpace c) line
      let ended := cursor.skipLine
      match _s : skipEmptyLines (some indentation) [] 0 ended.skipOne with
      | none => none
      | some (breaks, _, next) =>
        readBlockLines isLiteral indentation
          { written with leadingBreak := ended.rest.head?, trailingBreaks := breaks } next
termination_by cursor.rest.length
decreasing_by
  exact Nat.lt_of_le_of_lt (length_skipEmptyLines _s) (Cursor.length_skipOne_skipLine _h)

def BlockText.finish (block : BlockText) (chomping : Chomping) : String :=
  let last := block.leadingBreak.toList
  let tail := match chomping with
    | .strip => []
    | .clip => last
    | .keep => block.trailingBreaks ++ last
  String.ofList (tail ++ block.text).reverse

def readBlock (isLiteral : Bool) (around : Option Nat) (cursor : Cursor) :
    Option (String × Cursor) := do
  let (header, width) ← readHeader isLiteral (cursor.rest.drop 1)
  let cursor ← (cursor.skip (width + 1)).endLine?
  let given := header.indentation.map (· + around.getD 0)
  let (breaks, deepest, cursor) ← skipEmptyLines given [] 0 cursor
  let least := max ((around.map (· + 1)).getD 0) 1
  let indentation := given.getD (max deepest least)
  let (block, cursor) ← readBlockLines isLiteral indentation { trailingBreaks := breaks } cursor
  return (block.finish header.chomping, cursor)

end QueryShield.Yaml
