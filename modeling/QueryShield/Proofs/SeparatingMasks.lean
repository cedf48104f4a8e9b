import Mathlib.Data.List.Infix
import QueryShield.Policy.Basic
import QueryShield.Proofs.Masking

namespace QueryShield.Suggestion

/-- Neither the mask alone nor one of its ends can be completed to the phrase. -/
structure Separates (mask : List Char) : Prop where
  notPart : ¬ mask <:+: phrase
  opensApart : ∀ ending ∈ phrase.tails, ending ≠ [] → ¬ ending <+: mask
  closesApart : ∀ opening ∈ phrase.inits, opening ≠ [] → ¬ opening <:+ mask

instance : DecidablePred Separates := fun mask =>
  decidable_of_iff (¬ mask <:+: phrase ∧
      (∀ ending ∈ phrase.tails, ending ≠ [] → ¬ ending <+: mask) ∧
      ∀ opening ∈ phrase.inits, opening ≠ [] → ¬ opening <:+ mask)
    ⟨fun ⟨part, opens, closes⟩ => ⟨part, opens, closes⟩,
      fun separates => ⟨separates.notPart, separates.opensApart, separates.closesApart⟩⟩

section

variable {mask before after : List Char}

theorem Separates.after_free (separates : Separates mask) (maskFree : ¬ phrase <:+: mask)
    (afterFree : ¬ phrase <:+: after) : ¬ phrase <:+: mask ++ after := by
  intro joined
  rcases List.infix_append_iff.1 joined with
    inMask | inAfter | ⟨opening, ending, split, closes, opens⟩
  · exact maskFree inMask
  · exact afterFree inAfter
  · by_cases none : opening = []
    · rw [none, List.nil_append] at split
      exact afterFree (split ▸ opens.isInfix)
    · have member : opening ∈ phrase.inits := (List.mem_inits _ _).2 ⟨ending, split.symm⟩
      exact separates.closesApart opening member none closes

theorem Separates.join_free (separates : Separates mask) (maskFree : ¬ phrase <:+: mask)
    (beforeFree : ¬ phrase <:+: before) (afterFree : ¬ phrase <:+: after) :
    ¬ phrase <:+: before ++ (mask ++ after) := by
  intro joined
  rcases List.infix_append_iff.1 joined with
    inBefore | later | ⟨opening, ending, split, closes, opens⟩
  · exact beforeFree inBefore
  · exact separates.after_free maskFree afterFree later
  by_cases none : ending = []
  · rw [none, List.append_nil] at split
    exact beforeFree (split ▸ closes.isInfix)
  · -- The rest of the phrase ends within the mask or reaches beyond it.
    rcases List.prefix_or_prefix_of_prefix opens (List.prefix_append mask after) with
      within | beyond
    · have member : ending ∈ phrase.tails := (List.mem_tails _ _).2 ⟨opening, split.symm⟩
      exact separates.opensApart ending member none within
    · have part : ending <:+: phrase := ⟨opening, [], by rw [split, List.append_nil]⟩
      exact separates.notPart (beyond.isInfix.trans part)

theorem Separates.intercalate_free (separates : Separates mask) (maskFree : ¬ phrase <:+: mask)
    {pieces : List (List Char)} (free : ∀ piece ∈ pieces, ¬ phrase <:+: piece) :
    ¬ phrase <:+: mask.intercalate pieces := by
  induction pieces with
  | nil => exact nil_free
  | cons piece pieces ih =>
    obtain ⟨first, others⟩ := List.forall_mem_cons.1 free
    cases pieces with
    | nil => simpa [List.intercalate] using first
    | cons next pieces =>
      rw [List.intercalate_cons_cons, List.append_assoc]
      exact separates.join_free maskFree first (ih others)

theorem Separates.masked_free {mask : String} (separates : Separates mask.toList)
    (maskFree : ¬ phrase <:+: mask.toList) (message : String) :
    ¬ phrase <:+: (Suggestion.mask mask message).toList := by
  rw [toList_mask, replace, replaceFrom_eq_intercalate]
  exact separates.intercalate_free maskFree (keptFrom_free false message.toList)

theorem free_of_shorter {text : List Char} (shorter : text.length < phrase.length) :
    ¬ phrase <:+: text := fun inText => absurd inText.length_le (Nat.not_le.2 shorter)

theorem left_free {left right : List Char} (split : left ++ right = phrase) (some : right ≠ []) :
    ¬ phrase <:+: left := by
  have lengths := congrArg List.length split
  have nonempty := List.length_pos_iff.2 some
  rw [List.length_append] at lengths
  exact free_of_shorter (by omega)

theorem right_free {left right : List Char} (split : left ++ right = phrase) (some : left ≠ []) :
    ¬ phrase <:+: right := by
  have lengths := congrArg List.length split
  have nonempty := List.length_pos_iff.2 some
  rw [List.length_append] at lengths
  exact free_of_shorter (by omega)

theorem unbordered : ∀ ending ∈ phrase.tails, ending ≠ [] → ending ≠ phrase →
    ¬ ending <+: phrase := by decide

theorem not_starts_before {c : Char} (free : ¬ phrase <:+: c :: before) (rest : List Char) :
    ¬ phrase.isPrefixOf (c :: (before ++ (phrase ++ rest))) := by
  intro starts
  have starts : phrase <+: (c :: before) ++ (phrase ++ rest) := List.isPrefixOf_iff_prefix.1 starts
  rcases List.prefix_or_prefix_of_prefix starts (List.prefix_append (c :: before) _) with
    inBefore | ⟨ending, split⟩
  · exact free inBefore.isInfix
  · -- What the phrase lacks in the piece it would have to find in the next phrase.
    have lengths := congrArg List.length split
    rw [List.length_append, List.length_cons] at lengths
    have onward : (c :: before) ++ ending <+: (c :: before) ++ (phrase ++ rest) := by
      rwa [split]
    rw [List.prefix_append_right_inj] at onward
    have overlaps : ending <+: phrase :=
      List.prefix_of_prefix_length_le onward (List.prefix_append _ _) (by omega)
    refine unbordered ending ((List.mem_tails _ _).2 ⟨c :: before, split⟩) ?_ ?_ overlaps
    · rintro rfl
      rw [List.append_nil] at split
      exact free (split ▸ List.infix_refl _)
    · rintro rfl
      omega

theorem keptFrom_before (rest : List Char) (free : ¬ phrase <:+: before) :
    keptFrom false (before ++ (phrase ++ rest)) =
      (before, (keptFrom true rest).1 :: (keptFrom true rest).2) := by
  induction before with
  | nil => exact keptFrom_suggestion rest
  | cons c before ih =>
    have notHere := not_starts_before free rest
    rw [List.cons_append, keptFrom, if_neg Bool.false_ne_true, if_neg notHere,
      ih (free_cons free).2]

theorem replaceFrom_before (rest : List Char) (free : ¬ phrase <:+: before) :
    replaceFrom mask false (before ++ (phrase ++ rest)) =
      before ++ (mask ++ replaceFrom mask true rest) := by
  rw [replaceFrom_eq_intercalate, keptFrom_before rest free, List.intercalate_cons_cons,
    ← replaceFrom_eq_intercalate, List.append_assoc]

theorem replace_between (beforeFree : ¬ phrase <:+: before) (afterFree : ¬ phrase <:+: after) :
    replace mask (before ++ (phrase ++ '?' :: after)) = before ++ (mask ++ after) := by
  rw [replace, replaceFrom_before _ beforeFree]
  congr 2
  exact replaceFrom_free afterFree

/-- Around a mask that does not separate, two pieces and the mask make up the phrase. -/
theorem exists_join (joins : ¬ Separates mask) :
    ∃ before after, ¬ phrase <:+: before ∧ ¬ phrase <:+: after ∧
      phrase <:+: before ++ (mask ++ after) := by
  by_cases part : mask <:+: phrase
  · obtain ⟨before, after, split⟩ := part
    by_cases none : mask = []
    · subst none
      exact ⟨"D".toList, "id you mean".toList, by decide, by decide, by decide⟩
    · have afterFree := right_free split (by simp [none])
      rw [List.append_assoc] at split
      have beforeFree := left_free split (by simp [none])
      exact ⟨before, after, beforeFree, afterFree, split ▸ List.infix_refl _⟩
  by_cases opens : ∀ ending ∈ phrase.tails, ending ≠ [] → ¬ ending <+: mask
  · have closes : ∃ opening ∈ phrase.inits, opening ≠ [] ∧ opening <:+ mask := by
      by_contra absent
      push Not at absent
      exact joins ⟨part, opens, absent⟩
    obtain ⟨opening, member, some, before, rfl⟩ := closes
    obtain ⟨after, split⟩ := (List.mem_inits _ _).1 member
    refine ⟨[], after, nil_free, right_free split some, before, [], ?_⟩
    rw [← split]
    simp
  · push Not at opens
    obtain ⟨ending, member, some, after, rfl⟩ := opens
    obtain ⟨before, split⟩ := (List.mem_tails _ _).1 member
    refine ⟨before, [], left_free split some, nil_free, [], after, ?_⟩
    rw [← split]
    simp

end

end QueryShield.Suggestion

namespace QueryShield

theorem SuggestionMask.mask_free {setting : SuggestionMask} (accepted : setting.check = .ok ()) :
    ¬ Suggestion.phrase <:+: setting.mask.toList := by
  unfold check at accepted
  split at accepted
  · cases accepted
  · rename_i absent
    rwa [Suggestion.occursIn_iff] at absent

open Suggestion

/-- A masked message is the pieces of the message outside its suggestions, which are free of the
phrase, with the mask between them. All masked messages are free of it exactly for the masks that
separate the pieces. -/
theorem SuggestionMask.masked_free_iff {setting : SuggestionMask}
    (accepted : setting.check = .ok ()) :
    (∀ message : String, (∀ piece ∈ kept message.toList, ¬ phrase <:+: piece) ∧
      (Suggestion.mask setting.mask message).toList =
        setting.mask.toList.intercalate (kept message.toList)) ∧
    ((∀ message : String, ¬ phrase <:+: (Suggestion.mask setting.mask message).toList) ↔
      Separates setting.mask.toList) := by
  have joined : ∀ message : String, (Suggestion.mask setting.mask message).toList =
      setting.mask.toList.intercalate (kept message.toList) := by
    intro message
    rw [toList_mask, replace, replaceFrom_eq_intercalate, kept]
  refine ⟨fun message => ⟨keptFrom_free false message.toList, joined message⟩, ?_, ?_⟩
  · intro free
    by_contra joins
    obtain ⟨before, after, beforeFree, afterFree, made⟩ := exists_join joins
    apply free (String.ofList (before ++ (phrase ++ '?' :: after)))
    rwa [toList_mask, String.toList_ofList, replace_between beforeFree afterFree]
  · exact fun separates => separates.masked_free (mask_free accepted)

example : Separates "[Suggestion hidden]".toList := by decide

theorem masked_free_sharedLetters :
    ({ mask := "Di you" } : SuggestionMask).check = .ok () ∧
      ¬ phrase <:+: (Suggestion.mask "Di you" "DDid you mean a? mean b?").toList := by
  have accepted : ({ mask := "Di you" } : SuggestionMask).check = .ok () := by decide
  have separates : Separates "Di you".toList := by decide
  obtain ⟨-, free⟩ := SuggestionMask.masked_free_iff accepted
  exact ⟨accepted, free.2 separates "DDid you mean a? mean b?"⟩

/-- The empty mask is accepted, and what stood on both sides of a suggestion comes together. -/
theorem masked_rejoined :
    ({ mask := "" } : SuggestionMask).check = .ok () ∧
      Suggestion.mask "" "Did youDid you mean a? mean b?" = "Did you mean b?" ∧
      phrase <:+: (Suggestion.mask "" "Did youDid you mean a? mean b?").toList := by
  have rejoined : Suggestion.mask "" "Did youDid you mean a? mean b?" = "Did you mean b?" := by
    decide
  refine ⟨by decide, rejoined, ?_⟩
  rw [rejoined]
  decide

end QueryShield
