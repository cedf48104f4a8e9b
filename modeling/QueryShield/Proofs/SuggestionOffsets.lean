import Mathlib.Data.String.Basic
import QueryShield.Guard.Builtin
import QueryShield.Proofs.SuggestionCuts

namespace QueryShield.Suggestion

namespace Cuts

variable {first text : List Char} {suggestion piece : List Char}
  {later : List (List Char × List Char)}

def byteSize (text : List Char) : Nat := (String.ofList text).utf8ByteSize

theorem byteSize_cons (c : Char) (text : List Char) :
    byteSize (c :: text) = c.utf8Size + byteSize text := by
  simp [byteSize]

theorem byteSize_append (text rest : List Char) :
    byteSize (text ++ rest) = byteSize text + byteSize rest := by
  simp [byteSize]

def borders (start : Nat) : List (List Char × List Char) → List Nat
  | [] => []
  | (suggestion, piece) :: later =>
    let finish := start + byteSize suggestion
    start :: finish :: borders (finish + byteSize piece) later

theorem border_of_mem {first : List Char} {offset : Nat}
    (member : offset ∈ borders (byteSize first) later) :
    ∃ before after, (Cuts.text ⟨first, later⟩) = before ++ after ∧ offset = byteSize before := by
  induction later generalizing first with
  | nil => cases member
  | cons cut later ih =>
    obtain ⟨suggestion, piece⟩ := cut
    rcases List.mem_cons.1 member with rfl | member
    · exact ⟨first, _, rfl, rfl⟩
    rcases List.mem_cons.1 member with rfl | member
    · refine ⟨first ++ suggestion, piece ++ later.flatMap fun cut => cut.1 ++ cut.2, ?_,
        (byteSize_append first suggestion).symm⟩
      simp [Cuts.text]
    · rw [← byteSize_append, ← byteSize_append] at member
      obtain ⟨before, after, split, size⟩ := ih member
      refine ⟨before, after, ?_, size⟩
      rw [← split]
      simp [Cuts.text]

end Cuts

open Cuts

/-- Where the search cuts the text, in bytes: before every phrase, and one byte further than the
question mark or else at the end of the text. -/
def cutOffsets (inside : Bool) (offset : Nat) : List Char → List Nat
  | [] => if inside then [offset] else []
  | c :: rest =>
    if inside then
      if c = '?' then (offset + 1) :: cutOffsets false (offset + 1) rest
      else cutOffsets true (offset + c.utf8Size) rest
    else if phrase.isPrefixOf (c :: rest) then
      offset :: cutOffsets true (offset + c.utf8Size) rest
    else cutOffsets false (offset + c.utf8Size) rest

theorem cutOffsets_of_free {text : List Char} (free : ¬ phrase <:+: text) (offset : Nat) :
    cutOffsets false offset text = [] := by
  induction text generalizing offset with
  | nil => rfl
  | cons c rest ih =>
    obtain ⟨notHere, free⟩ := free_cons free
    rw [cutOffsets, if_neg Bool.false_ne_true, if_neg notHere, ih free]

theorem cutOffsets_inside {names : List Char} (unended : '?' ∉ names) (rest : List Char)
    (offset : Nat) : cutOffsets true offset (names ++ rest) =
      cutOffsets true (offset + byteSize names) rest := by
  induction names generalizing offset with
  | nil => rfl
  | cons c names ih =>
    rw [List.mem_cons, not_or] at unended
    rw [List.cons_append, cutOffsets, if_pos rfl, if_neg (Ne.symm unended.1), ih unended.2,
      byteSize_cons, Nat.add_assoc]

theorem cutOffsets_suggestion (rest : List Char) (offset : Nat) :
    cutOffsets false offset (phrase ++ rest) =
      offset :: cutOffsets true (offset + byteSize phrase) rest := by
  have behind : cutOffsets true (offset + 'D'.utf8Size) ("id you mean".toList ++ rest) =
      cutOffsets true (offset + byteSize phrase) rest := by
    rw [cutOffsets_inside (by decide), Nat.add_assoc, ← byteSize_cons]
    rfl
  change cutOffsets false offset ('D' :: ("id you mean".toList ++ rest)) = _
  rw [cutOffsets, if_neg Bool.false_ne_true, ← behind]
  exact if_pos (starts_suggestion rest)

theorem cutOffsets_before {before : List Char} (free : ¬ phrase <:+: before) (rest : List Char)
    (offset : Nat) : cutOffsets false offset (before ++ (phrase ++ rest)) =
      (offset + byteSize before) ::
        cutOffsets true (offset + byteSize before + byteSize phrase) rest := by
  induction before generalizing offset with
  | nil => exact cutOffsets_suggestion rest offset
  | cons c before ih =>
    have notHere := not_starts_before free rest
    rw [List.cons_append, cutOffsets, if_neg Bool.false_ne_true, if_neg notHere,
      ih (free_cons free).2, byteSize_cons, Nat.add_assoc]

theorem Cuts.Divide.cutOffsets_eq {cuts : Cuts} {text : List Char} (divide : cuts.Divide text) :
    ∀ offset, cutOffsets false offset text =
      borders (offset + byteSize cuts.first) cuts.later := by
  refine Divide.induction ?_ ?_ ?_ divide
  · intro text free offset
    exact cutOffsets_of_free free offset
  · intro first names rest cuts free unended _ ih offset
    have mark : ∀ start, cutOffsets true start ('?' :: rest) =
        (start + byteSize ['?']) :: cutOffsets false (start + byteSize ['?']) rest := fun _ => rfl
    rw [cutOffsets_before free, cutOffsets_inside unended, mark, ih]
    simp only [borders, byteSize_append, Nat.add_assoc]
  · intro first names free unended offset
    have finish : ∀ start, cutOffsets true start [] = [start] := fun _ => rfl
    rw [cutOffsets_before free, ← List.append_nil names, cutOffsets_inside unended, finish]
    simp only [borders, byteSize_append, Nat.add_assoc, List.append_nil]

def slices (message : String) (start : Nat) : List Nat → List String
  | begins :: ends :: offsets =>
    String.Pos.Raw.extract message ⟨start⟩ ⟨begins⟩ :: slices message ends offsets
  | _ => [String.Pos.Raw.extract message ⟨start⟩ message.rawEndPos]

theorem extract_of_split {message : String} {before middle after : List Char}
    (split : message.toList = before ++ (middle ++ after)) :
    String.Pos.Raw.extract message ⟨byteSize before⟩ ⟨byteSize before + byteSize middle⟩ =
      String.ofList middle := by
  rw [← String.ofList_toList (s := message), split, ← List.append_assoc, byteSize, byteSize,
    String.utf8ByteSize_ofList, String.utf8ByteSize_ofList, String.extract_of_valid]

theorem slices_borders {message : String} (before : List Char) {first : List Char}
    {later : List (List Char × List Char)}
    (split : message.toList = before ++ Cuts.text ⟨first, later⟩) :
    slices message (byteSize before) (borders (byteSize before + byteSize first) later) =
      (Cuts.pieces ⟨first, later⟩).map String.ofList := by
  induction later generalizing before first with
  | nil =>
    have finish : message.rawEndPos = ⟨byteSize before + byteSize first⟩ := by
      rw [← String.ofList_toList (s := message), split, String.rawEndPos, ← byteSize]
      simp [byteSize_append, Cuts.text]
    have whole : slices message (byteSize before) [] = [String.ofList first] := by
      rw [slices, finish, extract_of_split split]
      intro begins ends offsets same
      cases same
    exact whole
  | cons cut later ih =>
    obtain ⟨suggestion, piece⟩ := cut
    have further : message.toList = before ++ first ++ suggestion ++ Cuts.text ⟨piece, later⟩ := by
      simp [split, Cuts.text]
    have rest := ih (before ++ first ++ suggestion) further
    rw [byteSize_append, byteSize_append] at rest
    rw [borders, slices, extract_of_split split]
    exact congrArg (List.cons _) rest

theorem Cuts.Divide.slices_eq {cuts : Cuts} {message : String}
    (divide : cuts.Divide message.toList) :
    slices message 0 (cutOffsets false 0 message.toList) = cuts.pieces.map String.ofList := by
  rw [divide.cutOffsets_eq]
  exact slices_borders [] divide.text.symm

/-- Masking keeps the slices that the search leaves, and puts the mask between them. -/
theorem toList_mask_slices (mask message : String) :
    (Suggestion.mask mask message).toList =
      mask.toList.intercalate
        ((slices message 0 (cutOffsets false 0 message.toList)).map String.toList) := by
  obtain ⟨cuts, divide⟩ := exists_divide message.toList
  rw [toList_mask, replace, replaceFrom_eq_intercalate, ← kept, divide.kept_eq, divide.slices_eq,
    List.map_map]
  simp [Function.comp_def]

theorem isValid_of_split {message : String} {before after : List Char}
    (split : message.toList = before ++ after) :
    String.Pos.Raw.IsValid message ⟨byteSize before⟩ := by
  refine String.Pos.Raw.isValid_iff_exists_append.2
    ⟨String.ofList before, String.ofList after, ?_, rfl⟩
  rw [← String.ofList_append, ← split, String.ofList_toList]

end QueryShield.Suggestion

namespace QueryShield

open Suggestion

/-- There is one way to cut a message into suggestions and pieces without the phrase. Masking keeps
the pieces and puts the mask in the place of each suggestion. A message is given back as it is when
there are none, and an error keeps all but its message. The search cuts the message at the borders
of the suggestions, which are between characters and leave the pieces as slices of the message. -/
theorem SuggestionMask.mask_replaces_suggestions (setting : SuggestionMask) (message : String) :
    ∃ cuts : Cuts, cuts.Divide message.toList ∧
      (∀ others : Cuts, others.Divide message.toList → others = cuts) ∧
      (Suggestion.mask setting.mask message).toList =
        setting.mask.toList.intercalate cuts.pieces ∧
      (occursIn message.toList = false ↔ cuts.later = []) ∧
      (masked? setting.mask message = none ↔ cuts.later = []) ∧
      (cuts.later = [] → Suggestion.mask setting.mask message = message) ∧
      phrase.length * cuts.later.length ≤ message.toList.length ∧
      cutOffsets false 0 message.toList = Cuts.borders (Cuts.byteSize cuts.first) cuts.later ∧
      slices message 0 (cutOffsets false 0 message.toList) = cuts.pieces.map String.ofList ∧
      (∀ offset ∈ cutOffsets false 0 message.toList, String.Pos.Raw.IsValid message ⟨offset⟩) ∧
      ∀ error : ResponseError, error.message = message →
        setting.guard.maskError error =
            { error with message := Suggestion.mask setting.mask message } ∧
          (cuts.later = [] → setting.guard.maskError error = error) := by
  obtain ⟨cuts, divide⟩ := Cuts.exists_divide message.toList
  have untouched : occursIn message.toList = false ↔ cuts.later = [] := by
    rw [← divide.free_iff, ← occursIn_iff, Bool.not_eq_true]
  have borrowed : masked? setting.mask message = none ↔ cuts.later = [] :=
    masked?_eq_none.trans divide.free_iff
  have same : cuts.later = [] → Suggestion.mask setting.mask message = message := by
    intro none
    rw [Suggestion.mask, borrowed.2 none, Option.getD_none]
  have offsets : cutOffsets false 0 message.toList =
      Cuts.borders (Cuts.byteSize cuts.first) cuts.later := by
    rw [divide.cutOffsets_eq, Nat.zero_add]
  refine ⟨cuts, divide, fun others divide' => divide.unique divide', ?_, untouched, borrowed, same,
    divide.rounds_le, offsets, divide.slices_eq, ?_, ?_⟩
  · rw [toList_mask, replace, replaceFrom_eq_intercalate, ← divide.kept_eq, kept]
  · intro offset member
    rw [offsets] at member
    obtain ⟨before, after, split, rfl⟩ := Cuts.border_of_mem member
    exact isValid_of_split (divide.text.symm.trans split)
  · rintro error rfl
    refine ⟨setting.maskError_guard error, fun none => ?_⟩
    rw [setting.maskError_guard, same none]

example : cutOffsets false 0 "é: Did you mean ü? ñ".toList = [4, 20] := by decide

end QueryShield
