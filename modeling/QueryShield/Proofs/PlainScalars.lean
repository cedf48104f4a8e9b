import QueryShield.Proofs.QuotedScalars

namespace QueryShield.Yaml

theorem toNat_alphanum {c : Char} (alphanum : c.isAlphanum) : c.toNat < 0x80 := by
  have ranges : (decide ('A'.val ≤ c.val ∧ c.val ≤ 'Z'.val) ||
      (decide ('a'.val ≤ c.val) && decide (c.val ≤ 'z'.val)) ||
      (decide ('0'.val ≤ c.val) && decide (c.val ≤ '9'.val))) = true := alphanum
  simp only [Bool.or_eq_true, Bool.and_eq_true, decide_eq_true_eq,
    UInt32.le_iff_toNat_le] at ranges
  change c.val.toNat < 0x80
  grind

theorem alphanum_onLine {c : Char} (alphanum : c.isAlphanum) :
    isOnLine c ∧ blankNext [c] = false ∧ isFlowMark c = false ∧ c ≠ ':' ∧ c ≠ '#' ∧ c ≠ '-' ∧
      c ≠ '.' := by
  have each : ∀ n < 0x80, (Char.ofNat n).isAlphanum → isOnLine (Char.ofNat n) ∧
      blankNext [Char.ofNat n] = false ∧ isFlowMark (Char.ofNat n) = false ∧ Char.ofNat n ≠ ':' ∧
      Char.ofNat n ≠ '#' ∧ Char.ofNat n ≠ '-' ∧ Char.ofNat n ≠ '.' := by decide
  have here := each c.toNat (toNat_alphanum alphanum)
  rw [Char.ofNat_toNat] at here
  exact here alphanum

/-- A text that ends a word: inside brackets some mark may follow it. -/
def EndsWord (inFlow : Bool) (rest : List Char) : Prop :=
  ∀ c ∈ rest.head?, inFlow ∧ isFlowMark c

theorem EndsWord.nil (inFlow : Bool) : EndsWord inFlow [] := by
  rintro c ⟨⟩

theorem EndsWord.mark {c : Char} (mark : isFlowMark c) (rest : List Char) :
    EndsWord true (c :: rest) := by
  rintro d ⟨⟩
  exact ⟨rfl, mark⟩

section

variable {inFlow : Bool} {word rest : List Char}

theorem EndsWord.readPlainWord_nil (ends : EndsWord inFlow rest) (taken : List Char) :
    readPlainWord inFlow taken rest = some (taken, rest) := by
  cases rest with
  | nil => rfl
  | cons c rest =>
    obtain ⟨bracketed, mark⟩ := ends c rfl
    have noColon : c ≠ ':' := by
      rintro rfl
      cases mark
    rw [readPlainWord]
    simp [bracketed, mark, noColon]

theorem readPlainWord_word (ends : EndsWord inFlow rest) :
    ∀ (word taken : List Char), (∀ c ∈ word, c.isAlphanum) →
      readPlainWord inFlow taken (word ++ rest) = some (word.reverse ++ taken, rest)
  | [], taken, _ => ends.readPlainWord_nil taken
  | c :: word, taken, alphanum => by
    obtain ⟨-, shown, noMark, noColon, -⟩ := alphanum_onLine (alphanum c (by simp))
    rw [List.cons_append, readPlainWord,
      readPlainWord_word ends word (c :: taken) fun d member => alphanum d (by simp [member])]
    simp [shown, noMark, noColon]

theorem readPlainFrom_none {text taken : List Char} {gap : Gap} {cursor : Cursor}
    (word : readPlainWord inFlow [] cursor.rest = some ([], taken)) :
    readPlainFrom inFlow 0 text gap cursor = some (text, gap.endsLine, cursor) := by
  rw [readPlainFrom]
  split
  · rfl
  · split <;> simp_all

theorem readPlainFrom_some {text word taken : List Char} {c : Char} {gap next : Gap}
    {cursor behind : Cursor}
    (noMark : cursor.atDocumentMark = false) (noComment : cursor.rest.head? ≠ some '#')
    (reads : readPlainWord inFlow [] cursor.rest = some (c :: word, taken))
    (gapped : readGap 0 {} (cursor.skip (word.length + 1)) = some (next, behind)) :
    readPlainFrom inFlow 0 text gap cursor =
      readPlainFrom inFlow 0 (c :: word ++ gap.text ++ text) next behind := by
  rw [readPlainFrom, if_neg (by simp [noMark, noComment])]
  split
  · simp_all
  · simp_all
  · rename_i found
    rw [reads] at found
    cases found
    split <;> simp_all

theorem EndsWord.readGap_eq {cursor : Cursor} (ends : EndsWord inFlow cursor.rest) :
    readGap 0 {} cursor = some ({}, cursor) := by
  obtain ⟨rest, line, column⟩ := cursor
  cases rest with
  | nil => rw [readGap]
  | cons c rest =>
    have mark := (ends c rfl).2
    have shown : isBreak c = false ∧ isSpace c = false := by
      simp only [isFlowMark, Bool.or_eq_true, beq_iff_eq] at mark
      rcases mark with (((rfl | rfl) | rfl) | rfl) | rfl <;> decide
    rw [readGap]
    simp [shown]

theorem readPlain_word {cursor : Cursor} (nonempty : word ≠ [])
    (alphanum : ∀ c ∈ word, c.isAlphanum) (ends : EndsWord inFlow rest)
    (starts : cursor.rest = word ++ rest) :
    readPlain inFlow 0 cursor = some (String.ofList word, false, cursor.skip word.length) := by
  obtain ⟨last, others, same⟩ := List.exists_cons_of_ne_nil (List.reverse_ne_nil_iff.2 nonempty)
  have reads : readPlainWord inFlow [] cursor.rest = some (last :: others, rest) := by
    rw [starts, readPlainWord_word ends word [] alphanum, List.append_nil, same]
  have length : others.length + 1 = word.length := by
    simpa using congrArg List.length same.symm
  obtain ⟨c, tail, rfl⟩ := List.exists_cons_of_ne_nil nonempty
  obtain ⟨-, -, -, -, noComment, noDash, noPoint⟩ := alphanum_onLine (alphanum c (by simp))
  have noMark : cursor.atDocumentMark = false := by
    simp [Cursor.atDocumentMark, Cursor.atMark, starts, noDash.symm, noPoint.symm]
  have left : (cursor.skip (c :: tail).length).rest = rest := by
    rw [Cursor.rest_skip, starts, List.drop_left]
  have gapped : readGap 0 {} (cursor.skip (others.length + 1)) =
      some ({}, cursor.skip (c :: tail).length) := by
    rw [length]
    exact EndsWord.readGap_eq (left.symm ▸ ends)
  have done := (left.symm ▸ ends : EndsWord inFlow _).readPlainWord_nil []
  rw [readPlain, readPlainFrom_some noMark (by simpa [starts] using noComment) reads gapped,
    readPlainFrom_none done]
  simp [Gap.text, Gap.endsLine, ← same]

end

end QueryShield.Yaml
