import Mathlib.Data.List.TakeWhile
import Mathlib.Data.Nat.Digits.Defs
import Mathlib.Tactic.Common
import Mathlib.Tactic.IntervalCases
import QueryShield.Proofs.JsonWords

namespace QueryShield

namespace Json

def Ends (rest : List Char) : Prop :=
  ∀ c ∈ rest.head?, c.isDigit = false ∧ c ≠ '.' ∧ c ≠ 'e' ∧ c ≠ 'E'

theorem Ends.nil : Ends [] := nofun

theorem Ends.cons {c : Char} {rest : List Char}
    (foreign : c.isDigit = false ∧ c ≠ '.' ∧ c ≠ 'e' ∧ c ≠ 'E') : Ends (c :: rest) := by
  rintro d member
  obtain rfl := Option.some.inj member
  exact foreign

section

variable {rest : List Char}

theorem Ends.span_digits (ends : Ends rest) (text : List Char) :
    (text ++ rest).takeWhile Char.isDigit = text.takeWhile Char.isDigit ∧
      (text ++ rest).dropWhile Char.isDigit = text.dropWhile Char.isDigit ++ rest := by
  induction text with
  | nil =>
    cases rest with
    | nil => exact ⟨rfl, rfl⟩
    | cons c rest => simp [(ends c rfl).1]
  | cons c text ih => cases digit : c.isDigit <;> simp [digit, ih]

theorem scanExponentDigits_append {isNegative down : Bool} {s : Significand} {text : List Char}
    {n : Number} (ends : Ends rest)
    (scans : scanExponentDigits isNegative s down text = (.number n, [])) :
    scanExponentDigits isNegative s down (text ++ rest) = (.number n, rest) := by
  obtain _ | ⟨c, text⟩ := text
  · cases scans
  obtain ⟨taken, left⟩ := ends.span_digits (c :: text)
  rw [List.cons_append] at taken left ⊢
  simp only [scanExponentDigits, taken, left] at scans ⊢
  by_cases digit : c.isDigit
  · rw [if_pos digit] at scans ⊢
    obtain ⟨found, nothing⟩ := Prod.mk.inj scans
    rw [found, nothing, List.nil_append]
  · rw [if_neg digit] at scans
    cases scans

theorem scanExponent_append {isNegative : Bool} {s : Significand} {text : List Char} {n : Number}
    (ends : Ends rest) (scans : scanExponent isNegative s text = (.number n, [])) :
    scanExponent isNegative s (text ++ rest) = (.number n, rest) := by
  unfold scanExponent at scans
  split at scans
  · exact scanExponentDigits_append ends scans
  · exact scanExponentDigits_append ends scans
  · rename_i noPlus noMinus
    obtain _ | ⟨c, text⟩ := text
    · cases scans
    · rw [List.cons_append, scanExponent]
      · exact scanExponentDigits_append ends scans
      · rintro rest ⟨⟩
        exact noPlus _ rfl
      · rintro rest ⟨⟩
        exact noMinus _ rfl

theorem scanEnd_append {isNegative : Bool} {s : Significand} {plain : Token} {text : List Char}
    {n : Number} (ends : Ends rest) (scans : scanEnd isNegative s plain text = (.number n, [])) :
    scanEnd isNegative s plain (text ++ rest) = (.number n, rest) := by
  unfold scanEnd at scans
  split at scans
  · exact scanExponent_append ends scans
  · exact scanExponent_append ends scans
  · obtain ⟨rfl, rfl⟩ := Prod.mk.inj scans
    cases rest with
    | nil => rfl
    | cons c rest =>
      obtain ⟨-, -, noSmall, noLarge⟩ := ends c rfl
      rw [List.nil_append, scanEnd]
      · rintro rest ⟨⟩
        exact noSmall rfl
      · rintro rest ⟨⟩
        exact noLarge rfl

theorem scanFraction_append {isNegative : Bool} {s : Significand} {text : List Char} {n : Number}
    (ends : Ends rest) (scans : scanFraction isNegative s text = (.number n, [])) :
    scanFraction isNegative s (text ++ rest) = (.number n, rest) := by
  obtain _ | ⟨c, text⟩ := text
  · cases scans
  obtain ⟨taken, left⟩ := ends.span_digits (c :: text)
  rw [List.cons_append] at taken left ⊢
  simp only [scanFraction, taken, left] at scans ⊢
  by_cases digit : c.isDigit
  · rw [if_pos digit] at scans ⊢
    exact scanEnd_append ends scans
  · rw [if_neg digit] at scans
    cases scans

/-- What follows a number has no part in it. -/
theorem scanNumber_append {isNegative : Bool} {text : List Char} {n : Number}
    (ends : Ends rest) (scans : scanNumber isNegative text = (.number n, [])) :
    scanNumber isNegative (text ++ rest) = (.number n, rest) := by
  obtain _ | ⟨c, text⟩ := text
  · cases scans
  obtain ⟨taken, left⟩ := ends.span_digits (c :: text)
  rw [List.cons_append] at taken left ⊢
  simp only [scanNumber, taken, left] at scans ⊢
  split at scans
  · cases scans
  · rename_i fits
    rw [if_neg fits]
    generalize (c :: text).dropWhile Char.isDigit = tail at scans ⊢
    split at scans
    · exact scanFraction_append ends scans
    · rename_i noPoint
      have ended := scanEnd_append ends scans
      rw [← ended]
      split
      · rename_i fraction same
        obtain _ | ⟨d, tail⟩ := tail
        · exact absurd rfl (ends '.' (by rw [← List.nil_append rest, same]; rfl)).2.1
        · obtain ⟨rfl, -⟩ := List.cons.inj same
          exact (noPoint _ rfl).elim
      · rfl

end

theorem foldl_pushWhole (digits : List Char) :
    ∀ value, Nat.ofDigitChars 10 digits value < UInt64.size →
      digits.foldl Significand.pushWhole { value } =
        { value := Nat.ofDigitChars 10 digits value } := by
  have grows : ∀ (digits : List Char) (value : Nat), value ≤ Nat.ofDigitChars 10 digits value := by
    intro digits
    induction digits with
    | nil => exact fun value => Nat.le_of_eq Nat.ofDigitChars_nil.symm
    | cons c digits ih =>
      intro value
      rw [Nat.ofDigitChars_cons]
      exact Nat.le_trans (by omega) (ih _)
  induction digits with
  | nil => simp
  | cons c digits ih =>
    intro value bound
    rw [Nat.ofDigitChars_cons] at bound ⊢
    have next : value * 10 + digitValue c = 10 * value + (c.toNat - '0'.toNat) := by
      rw [Nat.mul_comm]
      rfl
    have fits := Nat.lt_of_le_of_lt (grows digits _) bound
    have pushed : Significand.pushWhole { value } c =
        { value := 10 * value + (c.toNat - '0'.toNat) } := by
      rw [Significand.pushWhole, next]
      exact if_neg (by simpa using fits)
    rw [List.foldl_cons, pushed]
    exact ih _ bound

theorem head_decimal_ne_zero {n : Nat} (positive : 0 < n) :
    (Nat.toDigits 10 n).head? ≠ some '0' := by
  induction n using Nat.strongRecOn with
  | ind n ih =>
    rw [Nat.toDigits_eq_if (by decide)]
    by_cases small : n < 10
    · rw [if_pos small]
      interval_cases n <;> decide
    · have head := ih (n / 10) (by omega) (by omega)
      rw [if_neg small]
      cases digits : Nat.toDigits 10 (n / 10) with
      | nil => exact absurd digits Nat.toDigits_ne_nil
      | cons c rest => simpa [digits] using head

theorem scanNumber_decimal (isNegative : Bool) {n : Nat} (small : n < UInt64.size) :
    scanNumber isNegative (Nat.toDigits 10 n) = (wholeToken isNegative { value := n }, []) := by
  have allDigits : ∀ c ∈ Nat.toDigits 10 n, c.isDigit := fun c member =>
    Nat.isDigit_of_mem_toDigits (by decide) (by decide) member
  have folded := foldl_pushWhole (Nat.toDigits 10 n) 0
  rw [Nat.ofDigitChars_ten_toDigits] at folded
  cases digits : Nat.toDigits 10 n with
  | nil => exact absurd digits Nat.toDigits_ne_nil
  | cons c more =>
    have noZero : (c == '0' && 1 < (c :: more).length) = false := by
      rcases Nat.eq_zero_or_pos n with rfl | positive
      · obtain ⟨rfl, rfl⟩ := List.cons.inj digits
        rfl
      · have head := head_decimal_ne_zero positive
        rw [digits] at head
        have other : c ≠ '0' := fun same => head (congrArg some same)
        simp [other]
    rw [digits] at allDigits folded
    have taken : (c :: more).takeWhile Char.isDigit = c :: more :=
      List.takeWhile_eq_self_iff.2 allDigits
    have left : (c :: more).dropWhile Char.isDigit = [] := List.dropWhile_eq_nil_iff.2 allDigits
    simp only [scanNumber, taken, left, noZero, allDigits c (by simp), folded small]
    rfl

theorem toList_decimal (n : Nat) : (toString n).toList = Nat.toDigits 10 n := by
  rw [Nat.toString_eq_repr, Nat.toList_repr]

inductive NumberText (n : Number) : List Char → Prop where
  | unsigned {c : Char} {text : List Char} (digit : c.isDigit)
      (scans : scanNumber false (c :: text) = (.number n, [])) : NumberText n (c :: text)
  | signed {text : List Char} (scans : scanNumber true text = (.number n, [])) :
      NumberText n ('-' :: text)

theorem NumberText.unsigned_decimal {n : Nat} (small : n < UInt64.size) :
    NumberText (.natural (UInt64.ofNat n)) (toString n).toList := by
  rw [toList_decimal]
  have scans := scanNumber_decimal false small
  cases digits : Nat.toDigits 10 n with
  | nil => exact absurd digits Nat.toDigits_ne_nil
  | cons c text =>
    have digit : c.isDigit := Nat.isDigit_of_mem_toDigits (n := n) (b := 10) (by decide)
      (by decide) (by simp [digits])
    exact .unsigned digit (digits ▸ scans)

theorem NumberText.natural (n : UInt64) : NumberText (.natural n) (toString n.toNat).toList := by
  simpa using unsigned_decimal n.toNat_lt

theorem NumberText.negative {n : Int64} (below : n < 0) :
    NumberText (.negative n) (toString n.toInt).toList := by
  have least := n.le_toInt
  have sign : n.toInt < 0 := Int64.lt_iff_toInt_lt.1 below
  have back := n.ofInt_toInt
  cases value : n.toInt with
  | ofNat size => exact absurd (value ▸ sign) (by simp)
  | negSucc less =>
    rw [value] at least back
    have bound : less + 1 ≤ 9223372036854775808 := by omega
    have text : (toString (Int.negSucc less)).toList = '-' :: Nat.toDigits 10 (less + 1) := by
      have spelled : toString (Int.negSucc less) = "-" ++ toString (less + 1) := rfl
      rw [spelled, String.toList_append, toList_decimal]
      rfl
    have whole : wholeToken true { value := less + 1 } = .number (.negative n) := by
      have negated : Int64.ofInt (-((less + 1 : Nat) : Int)) = n := back
      have inRange : 0 < less + 1 ∧ less + 1 ≤ Nat.pow 2 63 := ⟨Nat.succ_pos less, bound⟩
      simp only [wholeToken, Bool.false_eq_true, Bool.not_true, if_false, if_pos inRange, negated]
    rw [text]
    exact .signed (whole ▸ scanNumber_decimal true (Nat.lt_of_le_of_lt bound (by decide)))

theorem scanToken_digit {c : Char} (digit : c.isDigit) (fuel : Nat) (rest : List Char) :
    scanToken fuel c rest = scanNumber false (c :: rest) := by
  unfold scanToken
  split
  case h_12 => rw [if_pos digit]
  all_goals cases digit

theorem NumberText.scanned {n : Number} {text rest : List Char} {found : List Token}
    (number : NumberText n text) (ends : Ends rest) (scanned : Scanned rest found) :
    Scanned (text ++ rest) (.number n :: found) := by
  cases number with
  | unsigned digit scans =>
    refine .token ?_ (fun fuel _ => ?_) (by simp) scanned
    · intro blank
      simp only [isBlank, Bool.or_eq_true, beq_iff_eq] at blank
      rcases blank with ((rfl | rfl) | rfl) | rfl <;> cases digit
    · rw [scanToken_digit digit]
      exact scanNumber_append ends scans
  | signed scans =>
    exact .token (by decide) (fun _ _ => scanNumber_append ends scans) (by simp) scanned

end Json

/-- The text of the double is read as the double. -/
def Double.IsReadBack (x : Double) : Prop :=
  x.isFinite ∧ Json.NumberText (.real x) x.toText.toList

end QueryShield
