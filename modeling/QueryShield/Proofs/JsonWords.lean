import Mathlib.Data.List.Basic
import Mathlib.Tactic.Common
import QueryShield.Json.Printer
import QueryShield.Json.Token

namespace QueryShield.Json

/-- The tokens of a text. Scanning finds them with any fuel above the length of the text. -/
inductive Scanned : List Char → List Token → Prop where
  | done : Scanned [] []
  | blank {c : Char} {rest : List Char} {found : List Token} (isBlank : isBlank c)
      (scanned : Scanned rest found) : Scanned (c :: rest) found
  | token {c : Char} {rest left : List Char} {token : Token} {found : List Token}
      (visible : ¬ Json.isBlank c)
      (scans : ∀ fuel, rest.length < fuel → scanToken fuel c rest = (token, left))
      (shorter : left.length ≤ rest.length) (scanned : Scanned left found) :
      Scanned (c :: rest) (token :: found)

theorem Scanned.scanFrom_eq {text : List Char} {found : List Token} (scanned : Scanned text found)
    {fuel : Nat} (enough : text.length < fuel) (reversed : List Token) :
    scanFrom fuel reversed text = reversed.reverse ++ found := by
  induction scanned generalizing fuel reversed with
  | done => cases fuel <;> simp [scanFrom]
  | blank isBlank _ ih =>
    obtain _ | fuel := fuel
    · cases enough
    · rw [scanFrom, if_pos isBlank, ih (Nat.lt_of_succ_lt_succ enough)]
  | token visible scans shorter _ ih =>
    obtain _ | fuel := fuel
    · cases enough
    · have inRest := Nat.lt_of_succ_lt_succ enough
      rw [scanFrom, if_neg visible, scans fuel inRest]
      simp [ih (Nat.lt_of_le_of_lt shorter inRest)]

theorem tokens_of_scanned {text : String} {found : List Token}
    (scanned : Scanned text.toList found) : tokens text = found :=
  scanned.scanFrom_eq (Nat.lt_succ_self _) []

section

variable {rest : List Char} {found : List Token}

theorem Scanned.sign {c : Char} {token : Token} (visible : ¬ Json.isBlank c)
    (scans : ∀ fuel rest, scanToken fuel c rest = (token, rest)) (scanned : Scanned rest found) :
    Scanned (c :: rest) (token :: found) :=
  .token visible (fun fuel _ => scans fuel rest) (Nat.le_refl _) scanned

theorem Scanned.openArray (scanned : Scanned rest found) :
    Scanned ('[' :: rest) (.openArray :: found) := scanned.sign (by decide) fun _ _ => rfl

theorem Scanned.closeArray (scanned : Scanned rest found) :
    Scanned (']' :: rest) (.closeArray :: found) := scanned.sign (by decide) fun _ _ => rfl

theorem Scanned.openObject (scanned : Scanned rest found) :
    Scanned ('\x7b' :: rest) (.openObject :: found) := scanned.sign (by decide) fun _ _ => rfl

theorem Scanned.closeObject (scanned : Scanned rest found) :
    Scanned ('\x7d' :: rest) (.closeObject :: found) := scanned.sign (by decide) fun _ _ => rfl

theorem Scanned.comma (scanned : Scanned rest found) :
    Scanned (',' :: rest) (.comma :: found) := scanned.sign (by decide) fun _ _ => rfl

theorem Scanned.colon (scanned : Scanned rest found) :
    Scanned (':' :: rest) (.colon :: found) := scanned.sign (by decide) fun _ _ => rfl

theorem Scanned.null (scanned : Scanned rest found) :
    Scanned ("null".toList ++ rest) (.null :: found) :=
  .token (by decide) (fun _ _ => rfl) (Nat.le_add_right _ 3) scanned

theorem Scanned.boolean (b : Bool) (scanned : Scanned rest found) :
    Scanned ((scalarText (.boolean b)).toList ++ rest) (.boolean b :: found) := by
  cases b with
  | true => exact .token (by decide) (fun _ _ => rfl) (Nat.le_add_right _ 3) scanned
  | false => exact .token (by decide) (fun _ _ => rfl) (Nat.le_add_right _ 4) scanned

theorem Scanned.blanks {blanks : List Char} (allBlank : ∀ c ∈ blanks, isBlank c)
    (scanned : Scanned rest found) : Scanned (blanks ++ rest) found := by
  induction blanks with
  | nil => exact scanned
  | cons c blanks ih =>
    exact .blank (allBlank c (by simp)) (ih fun c member => allBlank c (by simp [member]))

end

theorem hexDigit?_hexDigit : ∀ n < 16, Text.hexDigit? (hexDigit n) = some n := by decide

theorem readHex_control {code : Nat} (control : code < 0x20) (rest : List Char) :
    readHex ('0' :: '0' :: hexDigit (code / 16) :: hexDigit (code % 16) :: rest) =
      .ok (code, rest) := by
  have zero : Text.hexDigit? '0' = some 0 := rfl
  simp only [readHex, zero, hexDigit?_hexDigit (code / 16) (by omega),
    hexDigit?_hexDigit (code % 16) (by omega)]
  congr 2
  omega

theorem scanString_plain (fuel : Nat) (s : StringScan) {c : Char} (noQuote : c ≠ '\"')
    (noEscape : c ≠ '\\') (shown : ¬ c.toNat < 0x20) (rest : List Char) :
    scanString (fuel + 1) s (c :: rest) = scanString fuel (s.push c) rest := by
  rw [scanString.eq_def]
  split
  · rename_i zero
    cases zero
  · split
    all_goals simp_all [Nat.not_lt_of_le]

theorem scanString_simple (fuel : Nat) (s : StringScan) {c d : Char}
    (escaped : simpleEscape? c = some d) (rest : List Char) :
    scanString (fuel + 1) s ('\\' :: c :: rest) = scanString fuel (s.push d) rest := by
  have plain : c ≠ 'u' := by
    rintro rfl
    cases escaped
  rw [scanString.eq_def]
  split
  · rename_i zero
    cases zero
  · split
    all_goals simp_all

theorem scanString_control (fuel : Nat) (s : StringScan) {code : Nat} (control : code < 0x20)
    (rest : List Char) :
    scanString (fuel + 1) s
        ('\\' :: 'u' :: '0' :: '0' :: hexDigit (code / 16) :: hexDigit (code % 16) :: rest) =
      scanString fuel (s.push (Char.ofNat code)) rest := by
  have high : isHighSurrogate code = false := by simp [isHighSurrogate]; omega
  have low : isLowSurrogate code = false := by simp [isLowSurrogate]; omega
  rw [scanString]
  simp only [readHex_control control, high, low]
  rfl

theorem eq_of_toNat_eq {c d : Char} (same : c.toNat = d.toNat) : c = d := by
  rw [← Char.ofNat_toNat c, same, Char.ofNat_toNat]

theorem scanString_escapeChar (fuel : Nat) (s : StringScan) (c : Char) (rest : List Char) :
    scanString (fuel + 1) s ((escapeChar c).toList ++ rest) = scanString fuel (s.push c) rest := by
  unfold escapeChar
  split
  case h_1 code =>
    obtain rfl : c = '\"' := eq_of_toNat_eq code
    exact scanString_simple fuel s rfl rest
  case h_2 code =>
    obtain rfl : c = '\\' := eq_of_toNat_eq code
    exact scanString_simple fuel s rfl rest
  case h_3 code =>
    obtain rfl : c = '\x08' := eq_of_toNat_eq code
    exact scanString_simple fuel s rfl rest
  case h_4 code =>
    obtain rfl : c = '\t' := eq_of_toNat_eq code
    exact scanString_simple fuel s rfl rest
  case h_5 code =>
    obtain rfl : c = '\n' := eq_of_toNat_eq code
    exact scanString_simple fuel s rfl rest
  case h_6 code =>
    obtain rfl : c = '\x0c' := eq_of_toNat_eq code
    exact scanString_simple fuel s rfl rest
  case h_7 code =>
    obtain rfl : c = '\r' := eq_of_toNat_eq code
    exact scanString_simple fuel s rfl rest
  case h_8 noQuote noEscape _ _ _ _ _ =>
    split
    · rename_i control
      have scans := scanString_control fuel s control rest
      rw [Char.ofNat_toNat] at scans
      simpa using scans
    · rename_i shown
      have scans := scanString_plain fuel s (c := c) (by rintro rfl; exact noQuote rfl)
        (by rintro rfl; exact noEscape rfl) shown rest
      simpa using scans

theorem toList_quoted (s : String) :
    (quoted s).toList = '\"' :: (s.toList.flatMap fun c => (escapeChar c).toList) ++ ['\"'] := by
  have folded : ∀ (chars : List Char) (text : String),
      (chars.foldl (fun text c => text ++ escapeChar c) text).toList =
        text.toList ++ chars.flatMap fun c => (escapeChar c).toList := by
    intro chars
    induction chars with
    | nil => simp
    | cons c chars ih => intro text; simp [ih]
  simp [quoted, String.foldl_eq_foldl_toList, folded]

theorem scanString_escapes (chars : List Char) (rest : List Char) :
    ∀ (fuel : Nat) (s : StringScan), chars.length < fuel →
      scanString fuel s (chars.flatMap (fun c => (escapeChar c).toList) ++ '\"' :: rest) =
        (StringScan.token { s with reversed := chars.reverse ++ s.reversed }, rest) := by
  induction chars with
  | nil =>
    rintro (_ | fuel) s enough
    · cases enough
    · simp [scanString]
  | cons c chars ih =>
    rintro (_ | fuel) s enough
    · cases enough
    · rw [List.flatMap_cons, List.append_assoc, scanString_escapeChar,
        ih fuel _ (Nat.lt_of_succ_lt_succ enough)]
      simp [StringScan.push]

theorem length_le_escapes (chars : List Char) :
    chars.length ≤ (chars.flatMap fun c => (escapeChar c).toList).length := by
  induction chars with
  | nil => simp
  | cons c chars ih =>
    have shown : 1 ≤ (escapeChar c).toList.length := by
      unfold escapeChar
      split <;> try decide
      split <;> simp
    simp only [List.flatMap_cons, List.length_append, List.length_cons]
    omega

theorem Scanned.quoted (s : String) {rest : List Char} {found : List Token}
    (scanned : Scanned rest found) :
    Scanned ((quoted s).toList ++ rest) (.string s :: found) := by
  rw [toList_quoted, List.cons_append, List.cons_append, List.append_assoc,
    List.singleton_append]
  refine .token (by decide) (fun fuel enough => ?_) (by simp; omega) scanned
  have enoughChars : s.toList.length < fuel := by
    have bound := length_le_escapes s.toList
    simp only [List.length_append] at enough
    omega
  have scans := scanString_escapes s.toList rest fuel {} enoughChars
  simpa [scanToken, StringScan.token] using scans

end QueryShield.Json
