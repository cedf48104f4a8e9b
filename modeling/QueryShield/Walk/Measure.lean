import QueryShield.Document.Fragments

namespace QueryShield

/-- How a selection tree is turned into a value. -/
structure Measure (V : Type) where
  empty : V
  combine : V → V → V
  field : Field → List Selection → V → V
  inlineFragment : InlineFragment → List Selection → V → V := fun _ _ children => children
  /-- Applied once for a fragment, whatever the number of its spreads. -/
  fragmentDefinition : FragmentDefinition → V → V := fun _ children => children
  fragmentSpread : FragmentSpread → V → V := fun _ fragment => fragment
  operation : Operation → V → V := fun _ children => children

abbrev Known (V : Type) := List (String × V)

namespace Walk

inductive Owner where
  | operation (operation : Operation)
  | field (field : Field) (selectionSet : List Selection)
  | inlineFragment (fragment : InlineFragment) (selectionSet : List Selection)
  | fragmentSpread (spread : FragmentSpread) (definition : FragmentDefinition)

/-- A selection set that has been folded in part. -/
structure Frame (V : Type) where
  owner : Owner
  pending : List Selection
  total : V

/-- The frames from the innermost outwards, the fragments the walk is inside of, and the fragments
that are known. -/
structure State (V : Type) where
  frames : List (Frame V)
  inProgress : List String
  known : Known V

variable {V : Type}

def addToFrame (m : Measure V) (value : V) : List (Frame V) → List (Frame V)
  | [] => []
  | frame :: outer => { frame with total := m.combine frame.total value } :: outer

/-- What a finished selection set leads to. -/
def leave (m : Measure V) (owner : Owner) (total : V) (s : State V) : State V ⊕ (V × Known V) :=
  match owner with
  | .operation operation => .inr (m.operation operation total, s.known)
  | .field field selectionSet =>
    .inl { s with frames := addToFrame m (m.field field selectionSet total) s.frames }
  | .inlineFragment fragment selectionSet =>
    .inl { s with frames := addToFrame m (m.inlineFragment fragment selectionSet total) s.frames }
  | .fragmentSpread spread definition =>
    let value := m.fragmentDefinition definition total
    .inl {
      frames := addToFrame m (m.fragmentSpread spread value) s.frames
      inProgress := s.inProgress.erase spread.name
      known := (spread.name, value) :: s.known }

def enterFrame (m : Measure V) (owner : Owner) (selectionSet : List Selection) (s : State V) :
    State V :=
  { s with frames := ⟨owner, selectionSet, m.empty⟩ :: s.frames }

def enter (m : Measure V) (document : Document) (selection : Selection) (s : State V) : State V :=
  match selection with
  | .field field selectionSet => enterFrame m (.field field selectionSet) selectionSet s
  | .inlineFragment fragment selectionSet =>
    enterFrame m (.inlineFragment fragment selectionSet) selectionSet s
  | .fragmentSpread spread =>
    match s.known.lookup spread.name with
    | some value => { s with frames := addToFrame m (m.fragmentSpread spread value) s.frames }
    | none =>
      match document.fragment? spread.name with
      | some definition =>
        if spread.name ∈ s.inProgress then
          { s with frames := addToFrame m (m.fragmentSpread spread m.empty) s.frames }
        else
          enterFrame m (.fragmentSpread spread definition) definition.selectionSet
            { s with inProgress := spread.name :: s.inProgress }
      | none => { s with frames := addToFrame m (m.fragmentSpread spread m.empty) s.frames }

def step (m : Measure V) (document : Document) (s : State V) : State V ⊕ (V × Known V) :=
  match s.frames with
  | [] => .inr (m.empty, s.known)
  | ⟨owner, [], total⟩ :: outer => leave m owner total { s with frames := outer }
  | ⟨owner, selection :: rest, total⟩ :: outer =>
    .inl (enter m document selection { s with frames := ⟨owner, rest, total⟩ :: outer })

def isResolved (s : State V) (name : String) : Bool :=
  s.inProgress.contains name || (s.known.lookup name).isSome

def unresolvedCount (document : Document) (s : State V) : Nat :=
  document.unmarkedCount (isResolved s)

noncomputable def frameWeight (frame : Frame V) : Nat := sizeOf frame.pending + 1

noncomputable def weight : List (Frame V) → Nat
  | [] => 0
  | frame :: outer => frameWeight frame + weight outer

theorem weight_addToFrame (m : Measure V) (value : V) (frames : List (Frame V)) :
    weight (addToFrame m value frames) = weight frames := by
  cases frames <;> rfl

def Smaller (document : Document) (t s : State V) : Prop :=
  Prod.Lex (· < ·) (· < ·) (unresolvedCount document t, weight t.frames)
    (unresolvedCount document s, weight s.frames)

theorem smaller_of_weight {document : Document} {s t : State V}
    (below : ∀ name, isResolved s name → isResolved t name)
    (lighter : weight t.frames < weight s.frames) : Smaller document t s := by
  rcases Nat.lt_or_eq_of_le (document.unmarkedCount_le below) with fewer | same
  · exact Prod.Lex.left _ _ fewer
  · unfold Smaller unresolvedCount
    rw [same]
    exact Prod.Lex.right _ lighter

theorem smaller_of_resolved {document : Document} {s t : State V} {name : String}
    {definition : FragmentDefinition} (below : ∀ name, isResolved s name → isResolved t name)
    (found : document.fragment? name = some definition) (before : isResolved s name = false)
    (after : isResolved t name = true) : Smaller document t s :=
  Prod.Lex.left _ _ (Document.unmarkedCount_lt below found before after)

theorem isResolved_leave {inProgress : List String} {known : Known V} {frames : List (Frame V)}
    (spread : String) (value : V) (name : String)
    (resolved : isResolved ⟨frames, inProgress, known⟩ name) (others : List (Frame V)) :
    isResolved ⟨others, inProgress.erase spread, (spread, value) :: known⟩ name := by
  by_cases same : name = spread
  · simp [isResolved, same]
  · have erased : name ∈ inProgress.erase spread ↔ name ∈ inProgress :=
      List.mem_erase_of_ne same
    have other : (name == spread) = false := by simp [same]
    simp only [isResolved, List.contains_eq_mem, erased, List.lookup_cons, other] at resolved ⊢
    exact resolved

theorem isResolved_enter {inProgress : List String} {known : Known V} {frames : List (Frame V)}
    (spread name : String) (resolved : isResolved ⟨frames, inProgress, known⟩ name)
    (others : List (Frame V)) : isResolved ⟨others, spread :: inProgress, known⟩ name := by
  simp only [isResolved, List.contains_eq_mem, List.mem_cons, Bool.or_eq_true,
    decide_eq_true_eq] at resolved ⊢
  rcases resolved with resolved | resolved
  · exact .inl (.inr resolved)
  · exact .inr resolved

theorem step_smaller {m : Measure V} {document : Document} {s t : State V}
    (stepped : step m document s = .inl t) : Smaller document t s := by
  obtain ⟨frames, inProgress, known⟩ := s
  cases frames with
  | nil => simp [step] at stepped
  | cons frame outer =>
    obtain ⟨owner, pending, total⟩ := frame
    cases pending with
    | nil =>
      simp only [step] at stepped
      cases owner with
      | operation operation => simp [leave] at stepped
      | field field selectionSet =>
        obtain rfl := Sum.inl.inj stepped
        refine smaller_of_weight (fun _ resolved => resolved) ?_
        simp only [weight_addToFrame]
        simp [weight, frameWeight]
      | inlineFragment fragment selectionSet =>
        obtain rfl := Sum.inl.inj stepped
        refine smaller_of_weight (fun _ resolved => resolved) ?_
        simp only [weight_addToFrame]
        simp [weight, frameWeight]
      | fragmentSpread spread definition =>
        obtain rfl := Sum.inl.inj stepped
        refine smaller_of_weight (fun name resolved =>
          isResolved_leave spread.name _ name resolved _) ?_
        simp only [weight_addToFrame]
        simp [weight, frameWeight]
    | cons selection rest =>
      simp only [step] at stepped
      obtain rfl := Sum.inl.inj stepped
      cases selection with
      | field field selectionSet =>
        refine smaller_of_weight (fun _ resolved => resolved) ?_
        simp only [enter, enterFrame, weight, frameWeight,
          List.cons.sizeOf_spec, Selection.field.sizeOf_spec]
        omega
      | inlineFragment fragment selectionSet =>
        refine smaller_of_weight (fun _ resolved => resolved) ?_
        simp only [enter, enterFrame, weight, frameWeight,
          List.cons.sizeOf_spec, Selection.inlineFragment.sizeOf_spec]
        omega
      | fragmentSpread spread =>
        have lighter : ∀ value : V, weight (addToFrame m value (⟨owner, rest, total⟩ :: outer)) <
            weight (⟨owner, .fragmentSpread spread :: rest, total⟩ :: outer) := fun value => by
          rw [weight_addToFrame]
          simp only [weight, frameWeight, List.cons.sizeOf_spec,
            Selection.fragmentSpread.sizeOf_spec]
          omega
        simp only [enter]
        cases look : known.lookup spread.name with
        | some value => exact smaller_of_weight (fun _ resolved => resolved) (lighter _)
        | none =>
          cases found : document.fragment? spread.name with
          | none => exact smaller_of_weight (fun _ resolved => resolved) (lighter _)
          | some definition =>
            by_cases cyclic : spread.name ∈ inProgress
            · simp only [cyclic, ↓reduceIte]
              exact smaller_of_weight (fun _ resolved => resolved) (lighter _)
            · simp only [cyclic, ↓reduceIte]
              refine smaller_of_resolved (fun other resolved =>
                isResolved_enter spread.name other resolved _) found ?_ ?_
              · simp [isResolved, cyclic, look]
              · simp [isResolved, enterFrame]

def run (m : Measure V) (document : Document) (s : State V) : V × Known V :=
  match _stepped : step m document s with
  | .inr result => result
  | .inl next => run m document next
termination_by (unresolvedCount document s, weight s.frames)
decreasing_by exact step_smaller _stepped

end Walk

namespace Measure

variable {V : Type}

def foldOperation (m : Measure V) (document : Document) (known : Known V) (operation : Operation) :
    V × Known V :=
  Walk.run m document
    { frames := [⟨.operation operation, operation.selectionSet, m.empty⟩]
      inProgress := []
      known }

def foldOperations (m : Measure V) (document : Document) :
    Known V → List Operation → List V
  | _, [] => []
  | known, operation :: rest =>
    let (value, known) := m.foldOperation document known operation
    value :: m.foldOperations document known rest

def largest [Max V] (m : Measure V) (document : Document) (isExempt : Operation → Bool) : V :=
  (m.foldOperations document [] (document.operations.filter fun o => !isExempt o)).foldl max m.empty

end Measure

end QueryShield
