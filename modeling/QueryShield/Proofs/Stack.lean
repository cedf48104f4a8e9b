import Mathlib
import QueryShield.Proofs.StackedFrames

namespace QueryShield

namespace Walk

variable {V : Type} {m : Measure V} {document : Document} {s t : State V} {operation : Operation}

def addToFrame? (m : Measure V) (value : V) : List (Frame V) → Option (List (Frame V))
  | [] => none
  | frame :: outer => some ({ frame with total := m.combine frame.total value } :: outer)

def keep? (name : String) (value : V) (known : Known V) : Option (Known V) :=
  match known.lookup name with
  | some _ => none
  | none => some ((name, value) :: known)

/-- The operation is left only with nothing around it and nothing in progress. -/
def leave? (m : Measure V) (owner : Owner) (total : V) (s : State V) :
    Option (State V ⊕ (V × Known V)) :=
  match owner with
  | .operation operation =>
    if s.frames.isEmpty && s.inProgress.isEmpty then
      some (.inr (m.operation operation total, s.known))
    else none
  | .field field selectionSet => do
    let frames ← addToFrame? m (m.field field selectionSet total) s.frames
    return .inl { s with frames }
  | .inlineFragment fragment selectionSet => do
    let frames ← addToFrame? m (m.inlineFragment fragment selectionSet total) s.frames
    return .inl { s with frames }
  | .fragmentSpread spread definition => do
    let value := m.fragmentDefinition definition total
    let known ← keep? spread.name value s.known
    let frames ← addToFrame? m (m.fragmentSpread spread value) s.frames
    return .inl { frames, inProgress := s.inProgress.erase spread.name, known }

def enter? (m : Measure V) (document : Document) (selection : Selection) (s : State V) :
    Option (State V) :=
  match selection with
  | .field field selectionSet => some (enterFrame m (.field field selectionSet) selectionSet s)
  | .inlineFragment fragment selectionSet =>
    some (enterFrame m (.inlineFragment fragment selectionSet) selectionSet s)
  | .fragmentSpread spread =>
    let pass (value : V) : Option (State V) := do
      let frames ← addToFrame? m (m.fragmentSpread spread value) s.frames
      return { s with frames }
    match s.known.lookup spread.name with
    | some value => pass value
    | none =>
      match document.fragment? spread.name with
      | some definition =>
        if spread.name ∈ s.inProgress then pass m.empty
        else
          some (enterFrame m (.fragmentSpread spread definition) definition.selectionSet
            { s with inProgress := spread.name :: s.inProgress })
      | none => pass m.empty

def step? (m : Measure V) (document : Document) (s : State V) :
    Option (State V ⊕ (V × Known V)) :=
  match s.frames with
  | [] => none
  | ⟨owner, [], total⟩ :: outer => leave? m owner total { s with frames := outer }
  | ⟨owner, selection :: rest, total⟩ :: outer =>
    (enter? m document selection { s with frames := ⟨owner, rest, total⟩ :: outer }).map .inl

theorem addToFrame?_eq {frames : List (Frame V)} (nonempty : frames ≠ [])
    (value : V) : addToFrame? m value frames = some (addToFrame m value frames) := by
  cases frames with
  | nil => exact absurd rfl nonempty
  | cons frame outer => rfl

theorem enter?_eq {frames : List (Frame V)} (nonempty : frames ≠ [])
    (selection : Selection) (inProgress : List String) (known : Known V) :
    enter? m document selection ⟨frames, inProgress, known⟩ =
      some (enter m document selection ⟨frames, inProgress, known⟩) := by
  have around := addToFrame?_eq (m := m) nonempty
  cases selection with
  | field => rfl
  | inlineFragment => rfl
  | fragmentSpread spread =>
    simp only [enter?, enter, around]
    cases known.lookup spread.name with
    | some value => rfl
    | none =>
      cases document.fragment? spread.name with
      | none => rfl
      | some definition =>
        by_cases cyclic : spread.name ∈ inProgress
        · simp only [if_pos cyclic]
          rfl
        · simp only [if_neg cyclic]

theorem step?_eq (sound : s.Sound document operation) :
    step? m document s = some (step m document s) := by
  obtain ⟨frames, inProgress, known⟩ := s
  obtain ⟨nested, -, unknown⟩ := sound
  unfold State.Nested at nested
  cases frames with
  | nil => cases nested
  | cons frame outer =>
    obtain ⟨owner, pending, total⟩ := frame
    cases pending with
    | cons selection rest =>
      exact congrArg (Option.map Sum.inl) (enter?_eq (List.cons_ne_nil _ _) selection _ _)
    | nil =>
      rw [List.map_cons] at nested
      generalize below : outer.map Frame.owner = owners at nested
      cases nested with
      | operation =>
        obtain rfl := List.map_eq_nil_iff.1 below
        rfl
      | field _ _ outside =>
        have around := addToFrame?_eq (m := m) (outside.frames_ne_nil below)
        simp only [step?, leave?, around]
        rfl
      | inlineFragment _ _ outside =>
        have around := addToFrame?_eq (m := m) (outside.frames_ne_nil below)
        simp only [step?, leave?, around]
        rfl
      | fragmentSpread _ _ outside =>
        have around := addToFrame?_eq (m := m) (outside.frames_ne_nil below)
        have look := unknown _ List.mem_cons_self
        simp only [step?, leave?, keep?, around, look]
        rfl

theorem sound_loop {count : Nat} (sound : s.Sound document operation)
    (looped : loop m document count s = .inl t) :
    t.Sound document operation ∧ run m document t = run m document s := by
  induction count generalizing s with
  | zero =>
    obtain rfl := Sum.inl.inj looped
    exact ⟨sound, rfl⟩
  | succ count ih =>
    rw [loop] at looped
    cases stepped : step m document s with
    | inr result =>
      rw [stepped] at looped
      cases looped
    | inl next =>
      rw [stepped] at looped
      rw [run_of_step stepped]
      exact ih (sound_steps sound (steps_of_step stepped)) looped

theorem lookup_run (sound : s.Sound document operation) {name : String} {value : V}
    (look : s.known.lookup name = some value) :
    (run m document s).2.lookup name = some value := by
  induction s using rounds_induction m document with
  | last s result ended =>
    rw [run_of_end ended, (nested_end sound.nested ended).2.1]
    exact look
  | round s t stepped ih =>
    have steps := steps_of_step stepped
    rw [run_of_step stepped]
    exact ih (sound_steps sound steps) (lookup_steps sound steps look)

theorem exists_last (m : Measure V) (document : Document) (s : State V) :
    ∃ count t, loop m document count s = .inl t ∧
      step m document t = .inr (run m document s) := by
  induction s using rounds_induction m document with
  | last s result ended => exact ⟨0, s, rfl, by rw [ended, run_of_end ended]⟩
  | round s t stepped ih =>
    obtain ⟨count, last, looped, ended⟩ := ih
    refine ⟨count + 1, last, ?_, ?_⟩
    · rw [loop, stepped]
      exact looped
    · rw [ended, run_of_step stepped]

end Walk

/-- The frames are in order whenever a round begins, and no round fails; what is known then keeps
its value to the end. There is a last round, which leaves the operation with nothing in progress. -/
theorem Measure.foldOperation_stacked {V : Type} (m : Measure V) (document : Document)
    (known : Known V) (operation : Operation) :
    (∀ count s, Walk.loop m document count (Walk.start m known operation) = .inl s →
      s.Stacked document operation ∧
      Walk.step? m document s = some (Walk.step m document s) ∧
      (∀ name value, s.known.lookup name = some value →
        (m.foldOperation document known operation).2.lookup name = some value) ∧
      ∀ result, Walk.step m document s = .inr result →
        s.inProgress = [] ∧ result = m.foldOperation document known operation) ∧
    ∃ count s, Walk.loop m document count (Walk.start m known operation) = .inl s ∧
      Walk.step m document s = .inr (m.foldOperation document known operation) := by
  constructor
  · intro count s looped
    obtain ⟨sound, same⟩ :=
      Walk.sound_loop (Walk.sound_start m document known operation) looped
    refine ⟨sound.stacked, Walk.step?_eq sound, fun name value look => ?_, fun result ended => ?_⟩
    · rw [foldOperation_eq_run, ← same]
      exact Walk.lookup_run sound look
    · rw [foldOperation_eq_run, ← same, Walk.run_of_end ended]
      exact ⟨(Walk.nested_end sound.nested ended).1, rfl⟩
  · exact Walk.exists_last m document (Walk.start m known operation)

def intoRing : Operation where
  selectionSet := [.fragmentSpread { name := "Inner" }]

/-- Its fragments spread each other, and one of them is defined twice. -/
def ring : Document where
  sourceLength := 120
  operations := [intoRing]
  fragments := [
    { name := "Inner", typeCondition := "T",
      selectionSet := [.fragmentSpread { name := "Outer" }, .field { name := "x" } []] },
    { name := "Inner", typeCondition := "T" },
    { name := "Outer", typeCondition := "T",
      selectionSet := [.fragmentSpread { name := "Inner" }, .fragmentSpread { name := "Missing" },
        .fragmentSpread { name := "Kept" }] }]

theorem foldOperation_ring :
    let m := DepthLimit.measure
    let known : Known UInt64 := [("Kept", 3)]
    (∃ inside, Walk.loop m ring 5 (Walk.start m known intoRing) = .inl inside ∧
      inside.inProgress = ["Outer", "Inner"] ∧ inside.Stacked ring intoRing) ∧
    m.foldOperation ring known intoRing = (3, ("Inner", 3) :: ("Outer", 3) :: known) ∧
    (m.foldOperation ring known intoRing).2.lookup "Kept" = some 3 := by
  intro m known
  have rounds := (m.foldOperation_stacked ring known intoRing).1
  obtain ⟨stacked, -, kept, -⟩ := rounds 5 _ rfl
  obtain ⟨-, -, -, ended⟩ := rounds 9 _ rfl
  exact ⟨⟨_, rfl, rfl, stacked⟩, (ended _ rfl).2.symm, kept "Kept" 3 rfl⟩

end QueryShield
