import Mathlib.Tactic.Common
import QueryShield.Proofs.JsonWords
import QueryShield.Yaml.Scalar

namespace QueryShield.Yaml

open Json (escapeChar hexDigit)

/-- A character that ends no line and is read as it is. -/
def isOnLine (c : Char) : Bool := isAllowed c && !isBreak c && c != '\r' && c != '\u0085'

/-- A character that quotes keep, as it is or by an escape. -/
def isKept (c : Char) : Bool := c.toNat < 0x20 || isOnLine c

def isKeptText (s : String) : Bool := s.toList.all isKept

theorem isKept_of_mem {s : String} (kept : isKeptText s) {c : Char} (member : c ∈ s.toList) :
    isKept c := List.all_eq_true.1 kept c member

def escapes (chars : List Char) : List Char := chars.flatMap fun c => (escapeChar c).toList

theorem escapes_cons (c : Char) (chars : List Char) :
    escapes (c :: chars) = (escapeChar c).toList ++ escapes chars := List.flatMap_cons

theorem escapes_append (first second : List Char) :
    escapes (first ++ second) = escapes first ++ escapes second := List.flatMap_append

theorem escapes_spaces (count : Nat) :
    escapes (List.replicate count ' ') = List.replicate count ' ' := by
  rw [escapes, List.flatMap_replicate]
  exact List.flatten_replicate_singleton

theorem toList_quoted (s : String) :
    (Json.quoted s).toList = '\"' :: (escapes s.toList ++ ['\"']) := Json.toList_quoted s

section

variable {text rest : List Char} {line column : Nat}

theorem readHex_control {code : Nat} (control : code < 0x20) :
    readHex 4 ('0' :: '0' :: hexDigit (code / 16) :: hexDigit (code % 16) :: rest) =
      some (Char.ofNat code) := by
  have zero : Text.hexDigit? '0' = some 0 := rfl
  have valid : code.isValidChar := .inl (by omega)
  have value : code / 16 * 16 + code % 16 = code := by omega
  simp [readHex, zero, Json.hexDigit?_hexDigit (code / 16) (by omega),
    Json.hexDigit?_hexDigit (code % 16) (by omega), value, valid]

theorem Cursor.atDocumentMark_inside (inside : 0 < column) :
    Cursor.atDocumentMark ⟨rest, line, column⟩ = false := by
  simp [atDocumentMark, atMark, Nat.ne_of_gt inside]

theorem readQuotedFrom_escape {c d : Char} (inside : 0 < column) (escaped : escapedChar? c = some d)
    (inLine : isBreak c = false) :
    readQuotedFrom '\"' text ⟨'\\' :: c :: rest, line, column⟩ =
      readQuotedFrom '\"' (d :: text) ⟨rest, line, column + 2⟩ := by
  rw [readQuotedFrom]
  simp [Cursor.atDocumentMark_inside inside, escaped, inLine, Cursor.skip]

theorem readQuotedFrom_control {code : Nat} (inside : 0 < column) (control : code < 0x20) :
    readQuotedFrom '\"' text
        ⟨'\\' :: 'u' :: '0' :: '0' :: hexDigit (code / 16) :: hexDigit (code % 16) :: rest, line,
          column⟩ =
      readQuotedFrom '\"' (Char.ofNat code :: text) ⟨rest, line, column + 6⟩ := by
  have inLine : isBreak 'u' = false := rfl
  have notNamed : escapedChar? 'u' = none := rfl
  have width : escapeWidth? 'u' = some 4 := rfl
  rw [readQuotedFrom]
  simp [Cursor.atDocumentMark_inside inside, notNamed, inLine, width, readHex_control control,
    Cursor.skip]

theorem readQuotedFrom_shown {c : Char} (inside : 0 < column) (noQuote : c ≠ '\"')
    (noEscape : c ≠ '\\') (shown : blankNext [c] = false) :
    readQuotedFrom '\"' text ⟨c :: rest, line, column⟩ =
      readQuotedFrom '\"' (c :: text) ⟨rest, line, column + 1⟩ := by
  rw [readQuotedFrom.eq_def, if_neg (by simp [Cursor.atDocumentMark_inside inside])]
  simp only
  split
  · rename_i same
    cases same
  · rename_i same
    obtain ⟨rfl, rfl⟩ := List.cons.inj same
    rfl
  · rename_i same
    exact absurd (List.cons.inj same).1 noEscape
  · rename_i same
    obtain ⟨rfl, rfl⟩ := List.cons.inj same
    simp [noQuote, shown, Cursor.skip]

theorem blankNext_kept {c : Char} (kept : isKept c) (shown : ¬ c.toNat < 0x20)
    (noSpace : c ≠ ' ') : blankNext [c] = false := by
  have noTab : c ≠ '\t' := by
    rintro rfl
    exact shown (by decide)
  simp_all [isKept, isOnLine, blankNext, isSpace]

theorem readQuotedFrom_escapeChar {c : Char} (kept : isKept c) (noSpace : c ≠ ' ')
    (inside : 0 < column) :
    readQuotedFrom '\"' text ⟨(escapeChar c).toList ++ rest, line, column⟩ =
      readQuotedFrom '\"' (c :: text) ⟨rest, line, column + (escapeChar c).toList.length⟩ := by
  unfold escapeChar
  split
  case h_1 code =>
    obtain rfl : c = '\"' := Json.eq_of_toNat_eq code
    exact readQuotedFrom_escape inside rfl rfl
  case h_2 code =>
    obtain rfl : c = '\\' := Json.eq_of_toNat_eq code
    exact readQuotedFrom_escape inside rfl rfl
  case h_3 code =>
    obtain rfl : c = '\x08' := Json.eq_of_toNat_eq code
    exact readQuotedFrom_escape inside rfl rfl
  case h_4 code =>
    obtain rfl : c = '\t' := Json.eq_of_toNat_eq code
    exact readQuotedFrom_escape inside rfl rfl
  case h_5 code =>
    obtain rfl : c = '\n' := Json.eq_of_toNat_eq code
    exact readQuotedFrom_escape inside rfl rfl
  case h_6 code =>
    obtain rfl : c = '\x0c' := Json.eq_of_toNat_eq code
    exact readQuotedFrom_escape inside rfl rfl
  case h_7 code =>
    obtain rfl : c = '\r' := Json.eq_of_toNat_eq code
    exact readQuotedFrom_escape inside rfl rfl
  case h_8 noQuote noEscape _ _ _ _ _ =>
    split
    · rename_i control
      have reads := @readQuotedFrom_control text rest line column c.toNat inside control
      rw [Char.ofNat_toNat] at reads
      simpa using reads
    · rename_i shown
      have reads := @readQuotedFrom_shown text rest line column c inside
        (by rintro rfl; exact noQuote rfl) (by rintro rfl; exact noEscape rfl)
        (blankNext_kept kept shown noSpace)
      simpa using reads

theorem readGap_spaces (visible : blankNext rest = false) (count : Nat) :
    ∀ (blanks : List Char) (column : Nat),
      readGap 0 { blanks } ⟨List.replicate count ' ' ++ rest, line, column⟩ =
        some ({ blanks := List.replicate count ' ' ++ blanks }, ⟨rest, line, column + count⟩) := by
  induction count with
  | zero =>
    intro blanks column
    cases rest with
    | nil => cases visible
    | cons c rest =>
      simp only [blankNext, Bool.or_eq_false_iff] at visible
      rw [readGap]
      simp [visible.1, visible.2]
  | succ count ih =>
    intro blanks column
    rw [List.replicate_succ, List.cons_append, readGap]
    have skipped : Cursor.skipOne ⟨' ' :: (List.replicate count ' ' ++ rest), line, column⟩ =
        ⟨List.replicate count ' ' ++ rest, line, column + 1⟩ := rfl
    have noBreak : isBreak ' ' = false := rfl
    have isBlank : isSpace ' ' = true := rfl
    have moved : List.replicate count ' ' ++ ' ' :: blanks =
        ' ' :: (List.replicate count ' ' ++ blanks) := by
      rw [← List.cons_append, ← List.replicate_succ, List.replicate_succ', List.append_assoc]
      rfl
    simp only [noBreak, isBlank, skipped, Gap.endsLine, ih, moved]
    simp [Nat.add_comm, Nat.add_left_comm]

theorem readQuotedFrom_space (inside : 0 < column) :
    readQuotedFrom '\"' text ⟨' ' :: rest, line, column⟩ =
      (readGap 0 {} ⟨' ' :: rest, line, column⟩).bind fun (gap, behind) =>
        readQuotedFrom '\"' (gap.text ++ text) behind := by
  have blank : blankNext [' '] = true := rfl
  have noQuote : (' ' == '\"') = false := rfl
  rw [readQuotedFrom.eq_def, if_neg (by simp [Cursor.atDocumentMark_inside inside])]
  simp only
  split
  · rename_i same
    cases same
  · rename_i same
    exact absurd (List.cons.inj same).1 (by decide)
  · rename_i same
    exact absurd (List.cons.inj same).1 (by decide)
  · rename_i same
    obtain ⟨rfl, rfl⟩ := List.cons.inj same
    rw [if_neg (by simp [noQuote]), dif_pos blank]
    split <;> simp_all

theorem readQuotedFrom_spaces (inside : 0 < column) (visible : blankNext rest = false)
    (count : Nat) :
    readQuotedFrom '\"' text ⟨List.replicate (count + 1) ' ' ++ rest, line, column⟩ =
      readQuotedFrom '\"' (List.replicate (count + 1) ' ' ++ text)
        ⟨rest, line, column + (count + 1)⟩ := by
  have gap : readGap 0 {} ⟨List.replicate (count + 1) ' ' ++ rest, line, column⟩ = _ :=
    readGap_spaces visible (count + 1) [] column
  rw [List.replicate_succ, List.cons_append] at gap ⊢
  rw [readQuotedFrom_space inside, gap]
  simp [Gap.text, Gap.endsLine]

theorem readQuotedFrom_close (inside : 0 < column) :
    readQuotedFrom '\"' text ⟨'\"' :: rest, line, column⟩ =
      some (text, ⟨rest, line, column + 1⟩) := by
  rw [readQuotedFrom]
  simp [Cursor.atDocumentMark_inside inside, Cursor.skip]

theorem blankNext_escapeChar {c : Char} (kept : isKept c) (noSpace : c ≠ ' ') :
    blankNext ((escapeChar c).toList ++ rest) = false := by
  unfold escapeChar
  split
  case h_8 =>
    split
    · have backslash : blankNext ['\\'] = false := rfl
      simpa [blankNext] using backslash
    · rename_i shown
      simpa [blankNext] using blankNext_kept kept shown noSpace
  all_goals rfl

theorem exists_spaces (chars : List Char) : ∃ count others,
    chars = List.replicate count ' ' ++ others ∧ others.head? ≠ some ' ' := by
  induction chars with
  | nil => exact ⟨0, [], rfl, nofun⟩
  | cons c chars ih =>
    by_cases space : c = ' '
    · obtain ⟨count, others, split, visible⟩ := ih
      exact ⟨count + 1, others, by rw [space, split]; rfl, visible⟩
    · exact ⟨0, c :: chars, rfl, fun same => space (Option.some.inj same)⟩

/-- Spaces are read together up to a character that is none, the quote at the latest. -/
theorem readQuotedFrom_escapes : ∀ (chars text : List Char) (column : Nat), 0 < column →
    (∀ c ∈ chars, isKept c) →
    readQuotedFrom '\"' text ⟨escapes chars ++ '\"' :: rest, line, column⟩ =
      some (chars.reverse ++ text, ⟨rest, line, column + (escapes chars).length + 1⟩)
  | [], _, _, inside, _ => readQuotedFrom_close inside
  | c :: chars, text, column, inside, kept => by
    by_cases space : c = ' '
    · subst space
      obtain ⟨count, others, rfl, noSpace⟩ := exists_spaces chars
      have visible : blankNext (escapes others ++ '\"' :: rest) = false := by
        cases others with
        | nil => rfl
        | cons d others =>
          rw [escapes_cons, List.append_assoc]
          exact blankNext_escapeChar (kept d (by simp)) fun same => noSpace (congrArg some same)
      rw [← List.cons_append, ← List.replicate_succ, escapes_append, escapes_spaces,
        List.append_assoc, readQuotedFrom_spaces inside visible,
        readQuotedFrom_escapes others _ _ (by omega) fun d member => kept d (by simp [member])]
      simp [Nat.add_assoc]
    · rw [escapes_cons, List.append_assoc,
        readQuotedFrom_escapeChar (kept c (by simp)) space inside,
        readQuotedFrom_escapes chars _ _ (by omega) fun d member => kept d (by simp [member])]
      simp [Nat.add_assoc]
termination_by chars => chars.length

theorem readQuoted_quoted {s : String} {cursor : Cursor} (kept : isKeptText s)
    (starts : cursor.rest = (Json.quoted s).toList ++ rest) :
    readQuoted '\"' cursor = some (s, cursor.skip (Json.quoted s).toList.length) := by
  obtain ⟨_, line, column⟩ := cursor
  subst starts
  have opened : Cursor.skip ⟨(Json.quoted s).toList ++ rest, line, column⟩ 1 =
      ⟨escapes s.toList ++ '\"' :: rest, line, column + 1⟩ := by
    simp [toList_quoted, Cursor.skip]
  have closed : Cursor.skip ⟨(Json.quoted s).toList ++ rest, line, column⟩
      (Json.quoted s).toList.length = ⟨rest, line, column + (Json.quoted s).toList.length⟩ := by
    rw [Cursor.skip, List.drop_left]
  rw [readQuoted, opened, closed, readQuotedFrom_escapes _ _ _ (Nat.succ_pos _) fun c => isKept_of_mem kept]
  simp [toList_quoted, Nat.add_assoc, Nat.add_comm 1]

end

end QueryShield.Yaml
