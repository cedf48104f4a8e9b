import QueryShield.Walk.Measure

namespace QueryShield.Walk

variable {V : Type}

def Owner.field? : Owner → Option Field
  | .field node _ => some node
  | _ => none

def Owner.fragmentName? : Owner → Option String
  | .fragmentSpread spread _ => some spread.name
  | _ => none

def pushed? (m : Measure V) (document : Document) (s : State V) : Option Owner :=
  match step m document s with
  | .inl next =>
    if s.frames.length < next.frames.length then next.frames.head?.map Frame.owner else none
  | .inr _ => none

def popped? (m : Measure V) (document : Document) (s : State V) : Option Owner :=
  match step m document s with
  | .inl next =>
    if next.frames.length < s.frames.length then s.frames.head?.map Frame.owner else none
  | .inr _ => s.frames.head?.map Frame.owner

/-- What a step does, with the owners of the frames that it pushes and pops. -/
inductive Steps (m : Measure V) (document : Document) :
    State V → Option Owner → Option Owner → State V → Prop
  | enterField (field : Field) (selectionSet rest : List Selection) (owner : Owner) (total : V)
      (outer : List (Frame V)) (inProgress : List String) (known : Known V) :
      Steps m document
        ⟨⟨owner, .field field selectionSet :: rest, total⟩ :: outer, inProgress, known⟩
        (some (.field field selectionSet)) none
        ⟨⟨.field field selectionSet, selectionSet, m.empty⟩ :: ⟨owner, rest, total⟩ :: outer,
          inProgress, known⟩
  | enterInlineFragment (fragment : InlineFragment) (selectionSet rest : List Selection)
      (owner : Owner) (total : V) (outer : List (Frame V)) (inProgress : List String)
      (known : Known V) :
      Steps m document
        ⟨⟨owner, .inlineFragment fragment selectionSet :: rest, total⟩ :: outer, inProgress, known⟩
        (some (.inlineFragment fragment selectionSet)) none
        ⟨⟨.inlineFragment fragment selectionSet, selectionSet, m.empty⟩ ::
          ⟨owner, rest, total⟩ :: outer, inProgress, known⟩
  | enterFragment (spread : FragmentSpread) (definition : FragmentDefinition)
      (rest : List Selection) (owner : Owner) (total : V) (outer : List (Frame V))
      (inProgress : List String) (known : Known V) (look : known.lookup spread.name = none)
      (found : document.fragment? spread.name = some definition)
      (fresh : spread.name ∉ inProgress) :
      Steps m document
        ⟨⟨owner, .fragmentSpread spread :: rest, total⟩ :: outer, inProgress, known⟩
        (some (.fragmentSpread spread definition)) none
        ⟨⟨.fragmentSpread spread definition, definition.selectionSet, m.empty⟩ ::
          ⟨owner, rest, total⟩ :: outer, spread.name :: inProgress, known⟩
  | reuse (spread : FragmentSpread) (value : V) (rest : List Selection) (owner : Owner) (total : V)
      (outer : List (Frame V)) (inProgress : List String) (known : Known V)
      (look : known.lookup spread.name = some value) :
      Steps m document
        ⟨⟨owner, .fragmentSpread spread :: rest, total⟩ :: outer, inProgress, known⟩ none none
        ⟨⟨owner, rest, m.combine total (m.fragmentSpread spread value)⟩ :: outer, inProgress, known⟩
  | cut (spread : FragmentSpread) (rest : List Selection) (owner : Owner) (total : V)
      (outer : List (Frame V)) (inProgress : List String) (known : Known V)
      (look : known.lookup spread.name = none)
      (away : document.fragment? spread.name = none ∨ spread.name ∈ inProgress) :
      Steps m document
        ⟨⟨owner, .fragmentSpread spread :: rest, total⟩ :: outer, inProgress, known⟩ none none
        ⟨⟨owner, rest, m.combine total (m.fragmentSpread spread m.empty)⟩ :: outer, inProgress,
          known⟩
  | leaveField (field : Field) (selectionSet : List Selection) (total : V)
      (outer : List (Frame V)) (inProgress : List String) (known : Known V) :
      Steps m document ⟨⟨.field field selectionSet, [], total⟩ :: outer, inProgress, known⟩
        none (some (.field field selectionSet))
        ⟨addToFrame m (m.field field selectionSet total) outer, inProgress, known⟩
  | leaveInlineFragment (fragment : InlineFragment) (selectionSet : List Selection) (total : V)
      (outer : List (Frame V)) (inProgress : List String) (known : Known V) :
      Steps m document
        ⟨⟨.inlineFragment fragment selectionSet, [], total⟩ :: outer, inProgress, known⟩
        none (some (.inlineFragment fragment selectionSet))
        ⟨addToFrame m (m.inlineFragment fragment selectionSet total) outer, inProgress, known⟩
  | leaveFragment (spread : FragmentSpread) (definition : FragmentDefinition) (total : V)
      (outer : List (Frame V)) (inProgress : List String) (known : Known V) :
      Steps m document ⟨⟨.fragmentSpread spread definition, [], total⟩ :: outer, inProgress, known⟩
        none (some (.fragmentSpread spread definition))
        ⟨addToFrame m (m.fragmentSpread spread (m.fragmentDefinition definition total)) outer,
          inProgress.erase spread.name,
          (spread.name, m.fragmentDefinition definition total) :: known⟩

theorem length_addToFrame (m : Measure V) (value : V) (frames : List (Frame V)) :
    (addToFrame m value frames).length = frames.length := by
  cases frames <;> rfl

theorem owners_addToFrame (m : Measure V) (value : V) (frames : List (Frame V)) :
    (addToFrame m value frames).map Frame.owner = frames.map Frame.owner := by
  cases frames <;> rfl

variable {m : Measure V} {document : Document} {s t : State V}

theorem step_pushes {frame : Frame V} {outer : List (Frame V)}
    (stepped : step m document s = .inl t) (shape : t.frames = frame :: outer)
    (same : outer.length = s.frames.length) :
    pushed? m document s = some frame.owner ∧ popped? m document s = none := by
  have longer : t.frames.length = s.frames.length + 1 := by rw [shape, List.length_cons, same]
  rw [pushed?, popped?, stepped]
  exact ⟨(if_pos (by omega)).trans (by rw [shape]; rfl), if_neg (by omega)⟩

theorem step_passes (stepped : step m document s = .inl t)
    (same : t.frames.length = s.frames.length) :
    pushed? m document s = none ∧ popped? m document s = none := by
  rw [pushed?, popped?, stepped]
  exact ⟨if_neg (by omega), if_neg (by omega)⟩

theorem step_pops {frame : Frame V} {outer : List (Frame V)}
    (stepped : step m document s = .inl t) (shape : s.frames = frame :: outer)
    (same : t.frames.length = outer.length) :
    pushed? m document s = none ∧ popped? m document s = some frame.owner := by
  have shorter : s.frames.length = t.frames.length + 1 := by rw [shape, List.length_cons, same]
  rw [pushed?, popped?, stepped]
  exact ⟨if_neg (by omega), (if_pos (by omega)).trans (by rw [shape]; rfl)⟩

theorem steps_of_step (stepped : step m document s = .inl t) :
    Steps m document s (pushed? m document s) (popped? m document s) t := by
  obtain ⟨frames, inProgress, known⟩ := s
  cases frames with
  | nil => cases stepped
  | cons frame outer =>
    obtain ⟨owner, pending, total⟩ := frame
    have result := stepped
    cases pending with
    | nil =>
      cases owner with
      | operation operation => cases stepped
      | field field selectionSet =>
        obtain rfl := Sum.inl.inj result
        obtain ⟨pushed, popped⟩ := step_pops stepped rfl (length_addToFrame _ _ _)
        rw [pushed, popped]
        exact .leaveField ..
      | inlineFragment fragment selectionSet =>
        obtain rfl := Sum.inl.inj result
        obtain ⟨pushed, popped⟩ := step_pops stepped rfl (length_addToFrame _ _ _)
        rw [pushed, popped]
        exact .leaveInlineFragment ..
      | fragmentSpread spread definition =>
        obtain rfl := Sum.inl.inj result
        obtain ⟨pushed, popped⟩ := step_pops stepped rfl (length_addToFrame _ _ _)
        rw [pushed, popped]
        exact .leaveFragment ..
    | cons selection rest =>
      cases selection with
      | field field selectionSet =>
        obtain rfl := Sum.inl.inj result
        obtain ⟨pushed, popped⟩ := step_pushes stepped rfl rfl
        rw [pushed, popped]
        exact .enterField ..
      | inlineFragment fragment selectionSet =>
        obtain rfl := Sum.inl.inj result
        obtain ⟨pushed, popped⟩ := step_pushes stepped rfl rfl
        rw [pushed, popped]
        exact .enterInlineFragment ..
      | fragmentSpread spread =>
        simp only [step, enter] at result
        cases look : known.lookup spread.name with
        | some value =>
          simp only [look, Sum.inl.injEq] at result
          subst result
          obtain ⟨pushed, popped⟩ := step_passes stepped rfl
          rw [pushed, popped]
          exact .reuse _ _ _ _ _ _ _ _ look
        | none =>
          cases found : document.fragment? spread.name with
          | none =>
            simp only [look, found, Sum.inl.injEq] at result
            subst result
            obtain ⟨pushed, popped⟩ := step_passes stepped rfl
            rw [pushed, popped]
            exact .cut _ _ _ _ _ _ _ look (.inl found)
          | some definition =>
            by_cases cyclic : spread.name ∈ inProgress
            · simp only [look, found, cyclic, ↓reduceIte, Sum.inl.injEq] at result
              subst result
              obtain ⟨pushed, popped⟩ := step_passes stepped rfl
              rw [pushed, popped]
              exact .cut _ _ _ _ _ _ _ look (.inr cyclic)
            · simp only [look, found, cyclic, ↓reduceIte, Sum.inl.injEq] at result
              subst result
              obtain ⟨pushed, popped⟩ := step_pushes stepped rfl rfl
              rw [pushed, popped]
              exact .enterFragment _ _ _ _ _ _ _ _ look found cyclic

/-- The owners of the frames, from the innermost outwards, and the names of the fragments among
them. The operation is the last owner, and no fragment is inside itself. -/
inductive Nested (document : Document) : List Owner → List String → Prop
  | operation (operation : Operation) : Nested document [.operation operation] []
  | field {owners : List Owner} {names : List String} (field : Field)
      (selectionSet : List Selection) (nested : Nested document owners names) :
      Nested document (.field field selectionSet :: owners) names
  | inlineFragment {owners : List Owner} {names : List String} (fragment : InlineFragment)
      (selectionSet : List Selection) (nested : Nested document owners names) :
      Nested document (.inlineFragment fragment selectionSet :: owners) names
  | fragmentSpread {owners : List Owner} {names : List String} {spread : FragmentSpread}
      {definition : FragmentDefinition} (found : document.fragment? spread.name = some definition)
      (fresh : spread.name ∉ names) (nested : Nested document owners names) :
      Nested document (.fragmentSpread spread definition :: owners) (spread.name :: names)

def State.Nested (document : Document) (s : State V) : Prop :=
  Walk.Nested document (s.frames.map Frame.owner) s.inProgress

theorem nested_steps {pushed popped : Option Owner} (nested : s.Nested document)
    (steps : Steps m document s pushed popped t) : t.Nested document := by
  unfold State.Nested at nested ⊢
  cases steps with
  | enterField => exact .field _ _ nested
  | enterInlineFragment => exact .inlineFragment _ _ nested
  | enterFragment spread definition rest owner total outer inProgress known look found fresh =>
    exact .fragmentSpread found fresh nested
  | reuse => exact nested
  | cut => exact nested
  | leaveField =>
    rw [owners_addToFrame]
    cases nested with
    | field _ _ outside => exact outside
  | leaveInlineFragment =>
    rw [owners_addToFrame]
    cases nested with
    | inlineFragment _ _ outside => exact outside
  | leaveFragment =>
    rw [owners_addToFrame]
    cases nested with
    | fragmentSpread found fresh outside =>
      rw [List.erase_cons_head]
      exact outside

theorem nested_end {result : V × Known V} (nested : s.Nested document)
    (ended : step m document s = .inr result) :
    s.inProgress = [] ∧ result.2 = s.known ∧
      ∃ operation total, s.frames = [⟨.operation operation, [], total⟩] := by
  obtain ⟨frames, inProgress, known⟩ := s
  unfold State.Nested at nested
  cases frames with
  | nil => cases nested
  | cons frame outer =>
    obtain ⟨owner, pending, total⟩ := frame
    cases pending with
    | cons selection rest => cases ended
    | nil =>
      cases owner with
      | field => cases ended
      | inlineFragment => cases ended
      | fragmentSpread => cases ended
      | operation operation =>
        obtain rfl := Sum.inr.inj ended
        have owners : Walk.Nested document (.operation operation :: outer.map Frame.owner)
            inProgress := nested
        generalize below : outer.map Frame.owner = others at owners
        cases owners
        obtain rfl := List.map_eq_nil_iff.1 below
        exact ⟨rfl, rfl, operation, total, rfl⟩

end QueryShield.Walk
