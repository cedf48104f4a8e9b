import Mathlib.Data.List.Infix
import QueryShield.Suggestion

namespace QueryShield.Suggestion

theorem occursIn_iff {text : List Char} : occursIn text ↔ phrase <:+: text := by
  induction text with
  | nil => decide
  | cons c rest ih =>
    rw [occursIn, Bool.or_eq_true, List.isPrefixOf_iff_prefix, ih, List.infix_cons_iff]

theorem nil_free : ¬ phrase <:+: [] := by decide

/-- The piece before the first suggestion, and those after each. -/
def keptFrom (inside : Bool) : List Char → List Char × List (List Char)
  | [] => ([], [])
  | c :: rest =>
    if inside then keptFrom (c != '?') rest
    else if phrase.isPrefixOf (c :: rest) then
      let later := keptFrom true rest
      ([], later.1 :: later.2)
    else
      let later := keptFrom false rest
      (c :: later.1, later.2)

def kept (text : List Char) : List (List Char) :=
  (keptFrom false text).1 :: (keptFrom false text).2

theorem intercalate_cons_head (mask piece : List Char) (c : Char) (pieces : List (List Char)) :
    mask.intercalate ((c :: piece) :: pieces) = c :: mask.intercalate (piece :: pieces) := by
  cases pieces with
  | nil => simp [List.intercalate]
  | cons next pieces => rw [List.intercalate_cons_cons, List.intercalate_cons_cons]; rfl

theorem replaceFrom_eq_intercalate (mask : List Char) (inside : Bool) (text : List Char) :
    replaceFrom mask inside text =
      mask.intercalate ((keptFrom inside text).1 :: (keptFrom inside text).2) := by
  fun_induction keptFrom inside text with
  | case1 inside => simp [replaceFrom, List.intercalate]
  | case2 c rest ih => rw [replaceFrom, if_pos rfl, ih]
  | case3 inside c rest outside starts later ih =>
    rw [replaceFrom, if_neg outside, if_pos starts, ih, List.intercalate_cons_cons]
    rfl
  | case4 inside c rest outside starts later ih =>
    rw [replaceFrom, if_neg outside, if_neg starts, ih, intercalate_cons_head]

theorem starts_suggestion (rest : List Char) : phrase.isPrefixOf (phrase ++ rest) :=
  List.isPrefixOf_iff_prefix.2 (List.prefix_append _ _)

theorem free_cons {c : Char} {text : List Char} (free : ¬ phrase <:+: c :: text) :
    ¬ phrase.isPrefixOf (c :: text) ∧ ¬ phrase <:+: text := by
  rwa [List.infix_cons_iff, not_or, ← List.isPrefixOf_iff_prefix] at free

theorem keptFrom_suggestion (rest : List Char) : keptFrom false (phrase ++ rest) =
    ([], (keptFrom true rest).1 :: (keptFrom true rest).2) := by
  change keptFrom false ('D' :: ("id you mean".toList ++ rest)) = _
  rw [keptFrom, if_neg Bool.false_ne_true]
  exact (if_pos (starts_suggestion rest)).trans rfl

theorem keptFrom_of_free {text : List Char} (free : ¬ phrase <:+: text) :
    keptFrom false text = (text, []) := by
  induction text with
  | nil => rfl
  | cons c rest ih =>
    obtain ⟨notHere, free⟩ := free_cons free
    rw [keptFrom, if_neg Bool.false_ne_true, if_neg notHere, ih free]

theorem keptFrom_inside {names : List Char} (unended : '?' ∉ names) (rest : List Char) :
    keptFrom true (names ++ rest) = keptFrom true rest := by
  induction names with
  | nil => rfl
  | cons c names ih =>
    rw [List.mem_cons, not_or] at unended
    have going : (c != '?') = true := bne_iff_ne.2 (Ne.symm unended.1)
    rw [List.cons_append, keptFrom, if_pos rfl, going, ih unended.2]

theorem keptFrom_unended {names : List Char} (unended : '?' ∉ names) :
    keptFrom true names = ([], []) := by
  rw [← List.append_nil names, keptFrom_inside unended]
  rfl

theorem keptFrom_ended {names : List Char} (unended : '?' ∉ names) (rest : List Char) :
    keptFrom true (names ++ '?' :: rest) = keptFrom false rest :=
  (keptFrom_inside unended _).trans rfl

theorem replaceFrom_suggestion (mask rest : List Char) :
    replaceFrom mask false (phrase ++ rest) = mask ++ replaceFrom mask true rest := by
  rw [replaceFrom_eq_intercalate, keptFrom_suggestion, List.intercalate_cons_cons,
    ← replaceFrom_eq_intercalate]
  rfl

theorem replaceFrom_free {mask text : List Char} (free : ¬ phrase <:+: text) :
    replaceFrom mask false text = text := by
  rw [replaceFrom_eq_intercalate, keptFrom_of_free free]
  simp [List.intercalate]

theorem masked?_eq_none {mask message : String} :
    masked? mask message = none ↔ ¬ phrase <:+: message.toList := by
  rw [masked?, ← occursIn_iff]
  split <;> simp_all

theorem toList_masked? {mask message masked : String} (some : masked? mask message = some masked) :
    masked.toList = replace mask.toList message.toList := by
  unfold masked? at some
  split at some
  · rw [← Option.some.inj some, String.toList_ofList]
  · cases some

theorem toList_mask (mask message : String) :
    (Suggestion.mask mask message).toList = replace mask.toList message.toList := by
  unfold Suggestion.mask
  cases masked : masked? mask message with
  | some text => exact toList_masked? masked
  | none => exact (replaceFrom_free (masked?_eq_none.1 masked)).symm

theorem prefix_keptFrom (text : List Char) : (keptFrom false text).1 <+: text := by
  induction text with
  | nil => exact List.prefix_refl _
  | cons c rest ih =>
    rw [keptFrom, if_neg Bool.false_ne_true]
    split
    · exact List.nil_prefix
    · exact (List.prefix_cons_inj c).2 ih

theorem keptFrom_free (inside : Bool) (text : List Char) :
    ∀ piece ∈ (keptFrom inside text).1 :: (keptFrom inside text).2, ¬ phrase <:+: piece := by
  fun_induction keptFrom inside text with
  | case1 inside => simpa using nil_free
  | case2 c rest ih => exact ih
  | case3 inside c rest outside starts later ih => exact List.forall_mem_cons.2 ⟨nil_free, ih⟩
  | case4 inside c rest outside starts later ih =>
    obtain ⟨first, others⟩ := List.forall_mem_cons.1 ih
    refine List.forall_mem_cons.2 ⟨fun inPiece => ?_, others⟩
    rcases List.infix_cons_iff.1 inPiece with here | further
    · -- A phrase at the start of the piece would be one at the start of the text.
      have atStart := here.trans ((List.prefix_cons_inj c).2 (prefix_keptFrom rest))
      exact starts (List.isPrefixOf_iff_prefix.2 atStart)
    · exact first further

end QueryShield.Suggestion
