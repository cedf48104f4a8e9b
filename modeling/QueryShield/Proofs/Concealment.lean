import QueryShield.Proofs.SeparatingMasks

namespace QueryShield.Suggestion

variable {mask : List Char}

theorem prefix_append_iff_of_length_le {part text rest : List Char}
    (fits : part.length ≤ text.length) : part <+: text ++ rest ↔ part <+: text :=
  ⟨fun starts => List.prefix_of_prefix_length_le starts (List.prefix_append text rest) fits,
    List.prefix_append_of_prefix⟩

/-- The first phrase to be found in a text that ends in one does not depend on what follows. -/
theorem isPrefixOf_append_phrase (c : Char) (text rest : List Char) :
    phrase.isPrefixOf (c :: text ++ phrase ++ rest) = phrase.isPrefixOf (c :: text ++ phrase) := by
  have fits : phrase.length ≤ (c :: text ++ phrase).length := by
    rw [List.length_append]
    omega
  rw [Bool.eq_iff_iff, List.isPrefixOf_iff_prefix, List.isPrefixOf_iff_prefix]
  exact prefix_append_iff_of_length_le fits

theorem replaceFrom_append_phrase (inside : Bool) (text rest : List Char) :
    replaceFrom mask inside (text ++ phrase ++ rest) =
      replaceFrom mask inside (text ++ phrase) ++ replaceFrom mask true rest := by
  induction text generalizing inside with
  | nil =>
    cases inside with
    | true => rfl
    | false =>
      have alone : replaceFrom mask false phrase = mask := by
        have unended := replaceFrom_suggestion mask []
        rwa [List.append_nil, replaceFrom, List.append_nil] at unended
      rw [List.nil_append, replaceFrom_suggestion, alone]
  | cons c text ih =>
    have found := isPrefixOf_append_phrase c text rest
    simp only [List.cons_append] at found ⊢
    rw [replaceFrom, replaceFrom, found]
    split
    · exact ih _
    split
    · rw [ih, List.append_assoc]
    · rw [ih, List.cons_append]

theorem replaceFrom_unended {secret : List Char} (unended : '?' ∉ secret) :
    replaceFrom mask true secret = [] := by
  rw [replaceFrom_eq_intercalate, keptFrom_unended unended]
  simp [List.intercalate]

theorem replaceFrom_ended {secret : List Char} (unended : '?' ∉ secret) (rest : List Char) :
    replaceFrom mask true (secret ++ '?' :: rest) = replaceFrom mask false rest := by
  rw [replaceFrom_eq_intercalate, keptFrom_ended unended, ← replaceFrom_eq_intercalate]

end QueryShield.Suggestion

namespace QueryShield

open Suggestion

theorem SuggestionMask.mask_ended (setting : SuggestionMask) (before after : String)
    {secret : String} (unended : '?' ∉ secret.toList) :
    (Suggestion.mask setting.mask (before ++ "Did you mean" ++ secret ++ "?" ++ after)).toList =
      replace setting.mask.toList (before.toList ++ phrase) ++
        replace setting.mask.toList after.toList := by
  have spelled : (before ++ "Did you mean" ++ secret ++ "?" ++ after).toList =
      before.toList ++ phrase ++ (secret.toList ++ '?' :: after.toList) := by
    simp only [String.toList_append, List.append_assoc]
    rfl
  rw [toList_mask, spelled, replace, replaceFrom_append_phrase, replaceFrom_ended unended]
  rfl

theorem SuggestionMask.mask_unended (setting : SuggestionMask) (before : String)
    {secret : String} (unended : '?' ∉ secret.toList) :
    (Suggestion.mask setting.mask (before ++ "Did you mean" ++ secret)).toList =
      replace setting.mask.toList (before.toList ++ phrase) := by
  have spelled : (before ++ "Did you mean" ++ secret).toList =
      before.toList ++ phrase ++ secret.toList := by
    simp only [String.toList_append]
    rfl
  rw [toList_mask, spelled, replace, replaceFrom_append_phrase, replaceFrom_unended unended,
    List.append_nil]
  rfl

/-- What is suggested does not show in the masked message, be it closed by a question mark or by
the end of the message. The text before it may have suggestions of its own, ended or not. -/
theorem SuggestionMask.mask_conceals (setting : SuggestionMask) (before after : String)
    {secret other : String} (unended : '?' ∉ secret.toList) (otherUnended : '?' ∉ other.toList) :
    Suggestion.mask setting.mask (before ++ "Did you mean" ++ secret ++ "?" ++ after) =
        Suggestion.mask setting.mask (before ++ "Did you mean" ++ other ++ "?" ++ after) ∧
      Suggestion.mask setting.mask (before ++ "Did you mean" ++ secret) =
        Suggestion.mask setting.mask (before ++ "Did you mean" ++ other) := by
  constructor
  · apply String.toList_inj.1
    rw [mask_ended setting before after unended, mask_ended setting before after otherUnended]
  · apply String.toList_inj.1
    rw [mask_unended setting before unended, mask_unended setting before otherUnended]

/-- The suggestion before the names has not ended where theirs begins, and one of them holds the
phrase again. -/
theorem mask_conceals_names :
    Suggestion.mask "Did"
          ("Try: Did you mean a or " ++ "Did you mean" ++ " \"secret\"" ++ "?" ++ " mean") =
        Suggestion.mask "Did"
          ("Try: Did you mean a or " ++ "Did you mean" ++ " b, Did you mean c" ++ "?" ++ " mean") ∧
      Suggestion.mask "Did" ("Try: Did you mean a or " ++ "Did you mean" ++ " \"secret\"") =
        Suggestion.mask "Did"
          ("Try: Did you mean a or " ++ "Did you mean" ++ " b, Did you mean c") :=
  SuggestionMask.mask_conceals { mask := "Did" } "Try: Did you mean a or " " mean"
    (by decide) (by decide)

end QueryShield
