import QueryShield.Proofs.SeparatingMasks

namespace QueryShield.Suggestion

structure Cuts where
  first : List Char
  later : List (List Char × List Char)

namespace Cuts

def text (cuts : Cuts) : List Char := cuts.first ++ cuts.later.flatMap fun cut => cut.1 ++ cut.2

def pieces (cuts : Cuts) : List (List Char) := cuts.first :: cuts.later.map Prod.snd

/-- A suggestion holds the first question mark behind the phrase and ends there. Only where there is
none does it go to the end of the text. -/
def Ends (suggestion piece : List Char) (later : List (List Char × List Char)) : Prop :=
  ∃ names, '?' ∉ names ∧ (suggestion = phrase ++ names ++ ['?'] ∨
    suggestion = phrase ++ names ∧ piece = [] ∧ later = [])

def AllEnd : List (List Char × List Char) → Prop
  | [] => True
  | (suggestion, piece) :: later => Ends suggestion piece later ∧ AllEnd later

structure Divide (cuts : Cuts) (text : List Char) : Prop where
  text : cuts.text = text
  free : ∀ piece ∈ cuts.pieces, ¬ phrase <:+: piece
  ends : AllEnd cuts.later

variable {first text : List Char} {suggestion piece : List Char}
  {later : List (List Char × List Char)}

theorem divide_nil : Divide ⟨first, []⟩ text ↔ first = text ∧ ¬ phrase <:+: first := by
  constructor
  · intro divide
    exact ⟨(List.append_nil first).symm.trans divide.text, divide.free first List.mem_cons_self⟩
  · rintro ⟨rfl, free⟩
    exact ⟨List.append_nil first, by simpa [pieces] using free, trivial⟩

theorem divide_cons : Divide ⟨first, (suggestion, piece) :: later⟩ text ↔
    ¬ phrase <:+: first ∧ Ends suggestion piece later ∧
      ∃ rest, text = first ++ (suggestion ++ rest) ∧ Divide ⟨piece, later⟩ rest := by
  constructor
  · rintro ⟨rfl, free, ends, others⟩
    obtain ⟨firstFree, free⟩ := List.forall_mem_cons.1 free
    refine ⟨firstFree, ends, _, ?_, rfl, free, others⟩
    simp [Cuts.text]
  · rintro ⟨firstFree, ends, rest, rfl, rfl, free, others⟩
    refine ⟨?_, List.forall_mem_cons.2 ⟨firstFree, free⟩, ends, others⟩
    simp [Cuts.text]

@[elab_as_elim]
theorem Divide.induction {motive : Cuts → List Char → Prop}
    (whole : ∀ {text}, ¬ phrase <:+: text → motive ⟨text, []⟩ text)
    (ended : ∀ {first names rest cuts}, ¬ phrase <:+: first → '?' ∉ names → Divide cuts rest →
      motive cuts rest → motive ⟨first, (phrase ++ names ++ ['?'], cuts.first) :: cuts.later⟩
        (first ++ (phrase ++ (names ++ '?' :: rest))))
    (unended : ∀ {first names}, ¬ phrase <:+: first → '?' ∉ names →
      motive ⟨first, [(phrase ++ names, [])]⟩ (first ++ (phrase ++ names)))
    {cuts : Cuts} {text : List Char} (divide : cuts.Divide text) : motive cuts text := by
  obtain ⟨first, later⟩ := cuts
  induction later generalizing first text with
  | nil =>
    obtain ⟨rfl, free⟩ := divide_nil.1 divide
    exact whole free
  | cons cut later ih =>
    obtain ⟨suggestion, piece⟩ := cut
    obtain ⟨free, ⟨names, marks, shape⟩, rest, rfl, behind⟩ := divide_cons.1 divide
    rcases shape with rfl | ⟨rfl, rfl, rfl⟩
    · have step := ended free marks behind (ih _ behind)
      simpa only [List.append_assoc, List.singleton_append] using step
    · obtain ⟨rfl, -⟩ := divide_nil.1 behind
      rw [List.append_nil]
      exact unended free marks

theorem Divide.whole (free : ¬ phrase <:+: text) : Divide ⟨text, []⟩ text :=
  divide_nil.2 ⟨rfl, free⟩

theorem Divide.ended {names rest : List Char} {cuts : Cuts} (free : ¬ phrase <:+: first)
    (unended : '?' ∉ names) (divide : cuts.Divide rest) :
    Divide ⟨first, (phrase ++ names ++ ['?'], cuts.first) :: cuts.later⟩
      (first ++ (phrase ++ (names ++ '?' :: rest))) :=
  divide_cons.2 ⟨free, ⟨names, unended, .inl rfl⟩, rest, by simp, divide⟩

theorem Divide.unended {names : List Char} (free : ¬ phrase <:+: first) (unended : '?' ∉ names) :
    Divide ⟨first, [(phrase ++ names, [])]⟩ (first ++ (phrase ++ names)) :=
  divide_cons.2 ⟨free, ⟨names, unended, .inr ⟨rfl, rfl, rfl⟩⟩, [], by simp, .whole nil_free⟩

theorem exists_first_phrase {text : List Char} (found : phrase <:+: text) :
    ∃ before rest, ¬ phrase <:+: before ∧ text = before ++ (phrase ++ rest) := by
  induction text with
  | nil => exact absurd found nil_free
  | cons c text ih =>
    by_cases starts : phrase <+: c :: text
    · obtain ⟨rest, split⟩ := starts
      exact ⟨[], rest, nil_free, split.symm⟩
    · have further := (List.infix_cons_iff.1 found).resolve_left starts
      obtain ⟨before, rest, free, rfl⟩ := ih further
      refine ⟨c :: before, rest, fun inPiece => ?_, rfl⟩
      rcases List.infix_cons_iff.1 inPiece with here | further
      · exact starts (here.trans (List.prefix_append (c :: before) (phrase ++ rest)))
      · exact free further

theorem exists_divide (text : List Char) : ∃ cuts : Cuts, cuts.Divide text := by
  -- Each round goes on behind the question mark, with less of the text.
  induction remaining : text.length using Nat.strongRecOn generalizing text with
  | ind length ih =>
    by_cases found : phrase <:+: text
    · obtain ⟨before, rest, free, rfl⟩ := exists_first_phrase found
      by_cases marked : '?' ∈ rest
      · obtain ⟨names, after, rfl, unended⟩ := List.eq_append_cons_of_mem marked
        have shorter : after.length < length := by
          rw [← remaining]
          simp only [List.length_append, List.length_cons]
          omega
        obtain ⟨cuts, divide⟩ := ih after.length shorter after rfl
        exact ⟨_, .ended free unended divide⟩
      · exact ⟨_, .unended free marked⟩
    · exact ⟨_, .whole found⟩

theorem Divide.kept_eq {cuts : Cuts} (divide : cuts.Divide text) : kept text = cuts.pieces := by
  refine Divide.induction ?_ ?_ ?_ divide
  · intro text free
    rw [kept, keptFrom_of_free free, pieces, List.map_nil]
  · intro first names rest cuts free unended _ ih
    rw [kept, keptFrom_before _ free, keptFrom_ended unended]
    exact congrArg (List.cons _) ih
  · intro first names free unended
    rw [kept, keptFrom_before _ free, keptFrom_unended unended]
    rfl

theorem mark_unique {names others rest after : List Char} (unended : '?' ∉ names)
    (unended' : '?' ∉ others) (same : names ++ '?' :: rest = others ++ '?' :: after) :
    names = others ∧ rest = after := by
  rcases List.append_eq_append_iff.1 same with ⟨more, rfl, tail⟩ | ⟨more, rfl, tail⟩
  · cases more with
    | nil => exact ⟨(List.append_nil _).symm, (List.cons.inj tail).2⟩
    | cons c more =>
      obtain ⟨rfl, -⟩ := List.cons.inj tail
      exact absurd (List.mem_append_right _ List.mem_cons_self) unended'
  · cases more with
    | nil => exact ⟨List.append_nil _, (List.cons.inj tail).2.symm⟩
    | cons c more =>
      obtain ⟨rfl, -⟩ := List.cons.inj tail
      exact absurd (List.mem_append_right _ List.mem_cons_self) unended

theorem suggestion_unique {rest after suggestion' piece' : List Char}
    {later' : List (List Char × List Char)} (ends : Ends suggestion piece later)
    (behind : Divide ⟨piece, later⟩ rest) (ends' : Ends suggestion' piece' later')
    (behind' : Divide ⟨piece', later'⟩ after) (same : suggestion ++ rest = suggestion' ++ after) :
    suggestion = suggestion' ∧ rest = after := by
  obtain ⟨names, unended, shape⟩ := ends
  obtain ⟨others, unended', shape'⟩ := ends'
  rcases shape with rfl | ⟨rfl, rfl, rfl⟩ <;> rcases shape' with rfl | ⟨rfl, rfl, rfl⟩
  · simp only [List.append_assoc, List.append_cancel_left_eq] at same
    obtain ⟨rfl, rfl⟩ := mark_unique unended unended' same
    exact ⟨rfl, rfl⟩
  · obtain ⟨rfl, -⟩ := divide_nil.1 behind'
    simp only [List.append_assoc, List.append_cancel_left_eq, List.append_nil] at same
    exact absurd (same ▸ List.mem_append_right _ List.mem_cons_self) unended'
  · obtain ⟨rfl, -⟩ := divide_nil.1 behind
    simp only [List.append_assoc, List.append_cancel_left_eq, List.append_nil] at same
    exact absurd (same ▸ List.mem_append_right _ List.mem_cons_self) unended
  · obtain ⟨rfl, -⟩ := divide_nil.1 behind
    obtain ⟨rfl, -⟩ := divide_nil.1 behind'
    exact ⟨List.append_cancel_right same, rfl⟩

theorem Divide.unique {cuts others : Cuts} (divide : cuts.Divide text)
    (divide' : others.Divide text) : others = cuts := by
  obtain ⟨first, later⟩ := cuts
  obtain ⟨other, later'⟩ := others
  induction later generalizing first other later' text with
  | nil =>
    have pieces : other :: later'.map Prod.snd = [first] :=
      divide'.kept_eq.symm.trans divide.kept_eq
    obtain ⟨rfl, none⟩ := List.cons.inj pieces
    rw [List.map_eq_nil_iff.1 none]
  | cons cut later ih =>
    obtain ⟨suggestion, piece⟩ := cut
    have pieces : other :: later'.map Prod.snd = first :: piece :: later.map Prod.snd :=
      divide'.kept_eq.symm.trans divide.kept_eq
    obtain ⟨rfl, same⟩ := List.cons.inj pieces
    cases later' with
    | nil => cases same
    | cons cut' later' =>
      obtain ⟨suggestion', piece'⟩ := cut'
      obtain ⟨-, ends, rest, rfl, behind⟩ := divide_cons.1 divide
      obtain ⟨-, ends', rest', split, behind'⟩ := divide_cons.1 divide'
      obtain ⟨rfl, rfl⟩ := suggestion_unique ends behind ends' behind'
        (List.append_cancel_left split)
      cases ih piece behind piece' later' behind'
      rfl

theorem infix_middle (before after : List Char) : phrase <:+: before ++ (phrase ++ after) :=
  ⟨before, after, List.append_assoc _ _ _⟩

theorem Divide.free_iff {cuts : Cuts} (divide : cuts.Divide text) :
    ¬ phrase <:+: text ↔ cuts.later = [] := by
  refine Divide.induction ?_ ?_ ?_ divide
  · intro text free
    exact iff_of_true free rfl
  · intro first names rest cuts _ _ _ _
    exact iff_of_false (not_not_intro (infix_middle first _)) (List.cons_ne_nil _ _)
  · intro first names _ _
    exact iff_of_false (not_not_intro (infix_middle first names)) (List.cons_ne_nil _ _)

theorem Divide.rounds_le {cuts : Cuts} (divide : cuts.Divide text) :
    phrase.length * cuts.later.length ≤ text.length := by
  refine Divide.induction ?_ ?_ ?_ divide
  · intro text _
    exact Nat.zero_le _
  · intro first names rest cuts _ _ _ ih
    simp only [List.length_cons, List.length_append, Nat.mul_succ]
    omega
  · intro first names _ _
    simp only [List.length_cons, List.length_append, List.length_nil]
    omega

end Cuts

end QueryShield.Suggestion
