namespace QueryShield.Yaml

structure Cursor where
  rest : List Char
  line : Nat := 0
  column : Nat := 0

def normalizeBreaks : List Char → List Char
  | '\r' :: '\n' :: rest => '\n' :: normalizeBreaks rest
  | '\r' :: rest => '\n' :: normalizeBreaks rest
  | '\u0085' :: rest => '\n' :: normalizeBreaks rest
  | c :: rest => c :: normalizeBreaks rest
  | [] => []

def isAllowed (c : Char) : Bool :=
  let n := c.toNat
  n == 0x09 || n == 0x0a || n == 0x0d || (0x20 ≤ n && n ≤ 0x7e) || n == 0x85 ||
    (0xa0 ≤ n && n ≤ 0xfffd) || 0x10000 ≤ n

def Cursor.ofText? (text : String) : Option Cursor :=
  if text.toList.all isAllowed then some { rest := normalizeBreaks text.toList } else none

def isSpace (c : Char) : Bool := c == ' ' || c == '\t'

/-- Whether a line ends with the character. The separators of lines and paragraphs end lines too,
and unlike other line ends they keep their identity in a scalar. -/
def isBreak (c : Char) : Bool := c == '\n' || c == '\u2028' || c == '\u2029'

def blankNext : List Char → Bool
  | [] => true
  | c :: _ => isSpace c || isBreak c

def breakNext : List Char → Bool
  | [] => true
  | c :: _ => isBreak c

def isFlowMark (c : Char) : Bool :=
  c == ',' || c == '[' || c == ']' || c == '\x7b' || c == '\x7d'

namespace Cursor

def skipOne (cursor : Cursor) : Cursor :=
  match cursor.rest with
  | [] => cursor
  | c :: rest => if isBreak c then ⟨rest, cursor.line + 1, 0⟩ else
      ⟨rest, cursor.line, cursor.column + 1⟩

def skip (cursor : Cursor) (n : Nat) : Cursor :=
  ⟨cursor.rest.drop n, cursor.line, cursor.column + n⟩

def skipWhile (cursor : Cursor) (test : Char → Bool) : Cursor :=
  cursor.skip (cursor.rest.takeWhile test).length

def skipLine (cursor : Cursor) : Cursor := cursor.skipWhile (!isBreak ·)

def endLine? (cursor : Cursor) : Option Cursor :=
  let cursor := cursor.skipWhile isSpace
  let cursor := if cursor.rest.head? == some '#' then cursor.skipLine else cursor
  if breakNext cursor.rest then some cursor.skipOne else none

def atMark (cursor : Cursor) (c : Char) : Bool :=
  cursor.column == 0 && [c, c, c].isPrefixOf cursor.rest && blankNext (cursor.rest.drop 3)

def atDocumentMark (cursor : Cursor) : Bool := cursor.atMark '-' || cursor.atMark '.'

theorem rest_skip (cursor : Cursor) (n : Nat) : (cursor.skip n).rest = cursor.rest.drop n := rfl

theorem rest_skipOne {cursor : Cursor} {c : Char} {rest : List Char} (h : cursor.rest = c :: rest) :
    cursor.skipOne.rest = rest := by
  unfold skipOne
  rw [h]
  simp only
  split <;> rfl

theorem length_skipOne {cursor : Cursor} {c : Char} {rest : List Char}
    (h : cursor.rest = c :: rest) : cursor.skipOne.rest.length < cursor.rest.length := by
  rw [rest_skipOne h, h]
  simp

theorem length_skip {cursor : Cursor} {n : Nat} (hn : 0 < n) (h : cursor.rest ≠ []) :
    (cursor.skip n).rest.length < cursor.rest.length := by
  have := List.length_pos_iff.mpr h
  rw [rest_skip, List.length_drop]
  omega

theorem length_skipOne_le (cursor : Cursor) : cursor.skipOne.rest.length ≤ cursor.rest.length := by
  match h : cursor.rest with
  | [] => simp [skipOne, h]
  | _ :: _ => exact h ▸ Nat.le_of_lt (length_skipOne h)

theorem length_skipLine {cursor : Cursor} {c : Char} {rest : List Char}
    (h : cursor.rest = c :: rest) (hc : isBreak c = false) :
    cursor.skipLine.rest.length < cursor.rest.length :=
  length_skip (by simp [h, hc]) (by simp [h])

theorem length_skipOne_skipLine {cursor : Cursor} {c : Char} {rest : List Char}
    (h : cursor.rest = c :: rest) :
    cursor.skipLine.skipOne.rest.length < cursor.rest.length := by
  cases hc : isBreak c with
  | true =>
    have same : cursor.skipLine.rest = c :: rest := by
      simp [skipLine, skipWhile, rest_skip, h, hc]
    rw [rest_skipOne same, h]
    simp
  | false => exact Nat.lt_of_le_of_lt (length_skipOne_le _) (length_skipLine h hc)

/-- Past blanks, comments and line ends, and whether a key may begin at the place behind them: it
may where a line does, except inside brackets. Where a key may begin a tab is no blank. A line may
start with a byte order mark. -/
def skipBlanks (inFlow mayBeKey : Bool) (cursor : Cursor) : Bool × Cursor :=
  match _h : cursor.rest with
  | [] => (mayBeKey, cursor)
  | c :: _ =>
    if isBreak c then skipBlanks inFlow (mayBeKey || !inFlow) cursor.skipOne
    else if c == ' ' || (c == '\t' && (inFlow || !mayBeKey)) ||
        (c == '\ufeff' && cursor.column == 0) then skipBlanks inFlow mayBeKey cursor.skipOne
    else if _hc : c = '#' then skipBlanks inFlow mayBeKey cursor.skipLine
    else (mayBeKey, cursor)
termination_by cursor.rest.length
decreasing_by
  · exact length_skipOne _h
  · exact length_skipOne _h
  · exact length_skipLine _h (by subst _hc; rfl)

end Cursor

end QueryShield.Yaml
