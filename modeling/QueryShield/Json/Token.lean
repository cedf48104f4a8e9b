import QueryShield.Json.Basic
import QueryShield.Text.Hexadecimal

namespace QueryShield.Json

open Text (hexDigit?)

inductive TextFault where
  | endOfText
  | malformed
  | misshapen
  deriving DecidableEq, Repr

inductive Token where
  | openArray
  | closeArray
  | openObject
  | closeObject
  | comma
  | colon
  | null
  | boolean (b : Bool)
  | number (n : Number)
  | string (s : String)
  | unpairedString
  | hugeNumber
  /-- No token starts here, or it does not end; a reader that only passes over it may see a
  different fault. -/
  | broken (kept passed : TextFault)
  | brokenString (kept passed : TextFault)
  deriving Repr

def isBlank (c : Char) : Bool := c == ' ' || c == '\n' || c == '\t' || c == '\r'

def scanWord (token : Token) : List Char → List Char → Token × List Char
  | [], text => (token, text)
  | _ :: _, [] => (.broken .endOfText .endOfText, [])
  | c :: word, d :: text =>
    if c = d then scanWord token word text else (.broken .malformed .malformed, [])

def digitValue (c : Char) : Nat := c.toNat - 48

/-- A significand that holds as many leading digits as 64 bits can, and the power of ten by which
it is to be scaled. -/
structure Significand where
  value : Nat := 0
  exponent : Int := 0
  full : Bool := false

def Significand.pushWhole (s : Significand) (c : Char) : Significand :=
  let next := s.value * 10 + digitValue c
  if s.full || UInt64.size ≤ next then { s with exponent := s.exponent + 1, full := true }
  else { s with value := next }

def Significand.pushFraction (s : Significand) (c : Char) : Significand :=
  let next := s.value * 10 + digitValue c
  if s.full || UInt64.size ≤ next then { s with full := true }
  else { s with value := next, exponent := s.exponent - 1 }

def realToken (isNegative : Bool) (s : Significand) (exponent : Int) : Token :=
  match Double.ofDecimal? s.value exponent with
  | none => .hugeNumber
  | some x => .number (.real (if isNegative then x.negate else x))

def exponentLimit : Nat := Nat.pow 2 31 - 1

def exponentToken (isNegative : Bool) (s : Significand) (down : Bool) (digits : List Char) :
    Token :=
  let size := digits.foldl (fun n c => n * 10 + digitValue c) 0
  if exponentLimit < size then
    if s.value ≠ 0 ∧ !down then .hugeNumber
    else .number (.real (if isNegative then (Double.ofNat 0).negate else Double.ofNat 0))
  else realToken isNegative s (if down then s.exponent - size else s.exponent + size)

def scanExponentDigits (isNegative : Bool) (s : Significand) (down : Bool) (text : List Char) :
    Token × List Char :=
  match text with
  | [] => (.broken .endOfText .malformed, [])
  | c :: _ =>
    if c.isDigit then
      (exponentToken isNegative s down (text.takeWhile Char.isDigit), text.dropWhile Char.isDigit)
    else (.broken .malformed .malformed, [])

def scanExponent (isNegative : Bool) (s : Significand) : List Char → Token × List Char
  | '+' :: rest => scanExponentDigits isNegative s false rest
  | '-' :: rest => scanExponentDigits isNegative s true rest
  | text => scanExponentDigits isNegative s false text

def scanEnd (isNegative : Bool) (s : Significand) (plain : Token) :
    List Char → Token × List Char
  | 'e' :: rest => scanExponent isNegative s rest
  | 'E' :: rest => scanExponent isNegative s rest
  | rest => (plain, rest)

def scanFraction (isNegative : Bool) (s : Significand) (text : List Char) : Token × List Char :=
  match text with
  | [] => (.broken .endOfText .malformed, [])
  | c :: _ =>
    if c.isDigit then
      let s := (text.takeWhile Char.isDigit).foldl Significand.pushFraction { s with full := false }
      scanEnd isNegative s (realToken isNegative s s.exponent) (text.dropWhile Char.isDigit)
    else (.broken .malformed .malformed, [])

def wholeToken (isNegative : Bool) (s : Significand) : Token :=
  if s.full then realToken isNegative s s.exponent
  else if !isNegative then .number (.natural (UInt64.ofNat s.value))
  else if 0 < s.value ∧ s.value ≤ Nat.pow 2 63 then .number (.negative (Int64.ofInt (-s.value)))
  else .number (.real (Double.ofNat s.value).negate)

def scanNumber (isNegative : Bool) (text : List Char) : Token × List Char :=
  match text with
  | [] => (.broken .endOfText .malformed, [])
  | c :: _ =>
    let digits := text.takeWhile Char.isDigit
    if !c.isDigit || (c == '0' && 1 < digits.length) then (.broken .malformed .malformed, [])
    else
      let s := digits.foldl Significand.pushWhole {}
      match text.dropWhile Char.isDigit with
      | '.' :: rest => scanFraction isNegative s rest
      | rest => scanEnd isNegative s (wholeToken isNegative s) rest

/-- The four digits of a `\u` escape. When the text ends within four bytes, their form is not
looked at. -/
def readHex (text : List Char) : Except TextFault (Nat × List Char) :=
  match text with
  | a :: b :: c :: d :: rest =>
    match hexDigit? a, hexDigit? b, hexDigit? c, hexDigit? d with
    | some a, some b, some c, some d => .ok (((a * 16 + b) * 16 + c) * 16 + d, rest)
    | _, _, _, _ => .error .malformed
  | short => .error (if (String.ofList short).utf8ByteSize < 4 then .endOfText else .malformed)

def isHighSurrogate (n : Nat) : Bool := 0xd800 ≤ n && n < 0xdc00

def isLowSurrogate (n : Nat) : Bool := 0xdc00 ≤ n && n < 0xe000

def simpleEscape? (c : Char) : Option Char :=
  match c with
  | '\"' => some '\"'
  | '\\' => some '\\'
  | '/' => some '/'
  | 'b' => some '\x08'
  | 'f' => some '\x0c'
  | 'n' => some '\n'
  | 'r' => some '\r'
  | 't' => some '\t'
  | _ => none

structure StringScan where
  reversed : List Char := []
  unpaired : Bool := false

def StringScan.push (s : StringScan) (c : Char) : StringScan :=
  { s with reversed := c :: s.reversed }

def StringScan.token (s : StringScan) : Token :=
  if s.unpaired then .unpairedString else .string (String.ofList s.reversed.reverse)

/-- A string after its opening quote. A reader that wants the value fails at the first unpaired
half, whatever follows it. -/
def scanString : Nat → StringScan → List Char → Token × List Char
  | 0, _, _ => (.brokenString .endOfText .endOfText, [])
  | fuel + 1, s, text =>
    let fault (f : TextFault) : Token × List Char :=
      (.brokenString (if s.unpaired then .malformed else f) f, [])
    match text with
    | [] => fault .endOfText
    | '\"' :: rest => (s.token, rest)
    | ['\\'] => fault .endOfText
    | '\\' :: 'u' :: rest =>
      match readHex rest with
      | .error f => fault f
      | .ok (n, rest) =>
        if isHighSurrogate n then
          match rest with
          | [] => fault .endOfText
          | ['\\'] => fault .endOfText
          | '\\' :: 'u' :: more =>
            match readHex more with
            | .error f => fault f
            | .ok (m, more) =>
              if isLowSurrogate m then
                let c := Char.ofNat (0x10000 + (n - 0xd800) * 0x400 + (m - 0xdc00))
                scanString fuel (s.push c) more
              else scanString fuel { s with unpaired := true } rest
          | _ => scanString fuel { s with unpaired := true } rest
        else if isLowSurrogate n then scanString fuel { s with unpaired := true } rest
        else scanString fuel (s.push (Char.ofNat n)) rest
    | '\\' :: c :: rest =>
      match simpleEscape? c with
      | some d => scanString fuel (s.push d) rest
      | none => fault .malformed
    | c :: rest =>
      if c.toNat < 0x20 then fault .malformed else scanString fuel (s.push c) rest

def scanToken (fuel : Nat) (c : Char) (rest : List Char) : Token × List Char :=
  match c with
  | '[' => (.openArray, rest)
  | ']' => (.closeArray, rest)
  | '\x7b' => (.openObject, rest)
  | '\x7d' => (.closeObject, rest)
  | ',' => (.comma, rest)
  | ':' => (.colon, rest)
  | '\"' => scanString fuel {} rest
  | 'n' => scanWord .null ['u', 'l', 'l'] rest
  | 't' => scanWord (.boolean true) ['r', 'u', 'e'] rest
  | 'f' => scanWord (.boolean false) ['a', 'l', 's', 'e'] rest
  | '-' => scanNumber true rest
  | c => if c.isDigit then scanNumber false (c :: rest) else (.broken .malformed .malformed, [])

def scanFrom : Nat → List Token → List Char → List Token
  | 0, reversed, _ => reversed.reverse
  | _ + 1, reversed, [] => reversed.reverse
  | fuel + 1, reversed, c :: rest =>
    if isBlank c then scanFrom fuel reversed rest
    else
      let (token, rest) := scanToken fuel c rest
      scanFrom fuel (token :: reversed) rest

def tokens (text : String) : List Token :=
  let chars := text.toList
  scanFrom (chars.length + 1) [] chars

end QueryShield.Json
