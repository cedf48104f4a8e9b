import Mathlib
import QueryShield.Guard.Measures
import QueryShield.Proofs.Rounds

namespace QueryShield

namespace Walk

variable {V : Type} {m : Measure V} {document : Document} {s t : State V} {operation : Operation}

def Owner.isOperation : Owner → Bool
  | .operation _ => true
  | _ => false

structure State.Stacked (document : Document) (operation : Operation) (s : State V) : Prop where
  bottom : (s.frames.map Frame.owner).getLast? = some (.operation operation)
  noOther : ∀ owner ∈ (s.frames.map Frame.owner).dropLast, owner.isOperation = false
  inProgress : (s.frames.map Frame.owner).filterMap Owner.fragmentName? = s.inProgress
  distinct : s.inProgress.Nodup
  unknown : ∀ name ∈ s.inProgress, s.known.lookup name = none
  first : ∀ spread definition, .fragmentSpread spread definition ∈ s.frames.map Frame.owner →
    document.fragment? spread.name = some definition

section

variable {owners : List Owner} {names : List String}

theorem Nested.ne_nil (nested : Nested document owners names) : owners ≠ [] := by
  cases nested <;> exact List.cons_ne_nil _ _

theorem Nested.frames_ne_nil {frames : List (Frame V)} (nested : Nested document owners names)
    (below : frames.map Frame.owner = owners) : frames ≠ [] := by
  rintro rfl
  exact nested.ne_nil below.symm

theorem Nested.filterMap_fragmentName? (nested : Nested document owners names) :
    owners.filterMap Owner.fragmentName? = names := by
  induction nested with
  | operation => rfl
  | field _ _ _ ih => exact ih
  | inlineFragment _ _ _ ih => exact ih
  | fragmentSpread _ _ _ ih => exact congrArg (List.cons _) ih

theorem Nested.nodup (nested : Nested document owners names) : names.Nodup := by
  induction nested with
  | operation => exact List.nodup_nil
  | field _ _ _ ih => exact ih
  | inlineFragment _ _ _ ih => exact ih
  | fragmentSpread _ fresh _ ih => exact List.nodup_cons.2 ⟨fresh, ih⟩

theorem Nested.fragment?_eq (nested : Nested document owners names) {spread : FragmentSpread}
    {definition : FragmentDefinition} (member : .fragmentSpread spread definition ∈ owners) :
    document.fragment? spread.name = some definition := by
  induction nested with
  | operation => cases List.mem_singleton.1 member
  | field _ _ _ ih => exact ih ((List.mem_cons.1 member).resolve_left nofun)
  | inlineFragment _ _ _ ih => exact ih ((List.mem_cons.1 member).resolve_left nofun)
  | fragmentSpread found _ _ ih =>
    rcases List.mem_cons.1 member with same | later
    · cases same
      exact found
    · exact ih later

theorem isOperation_dropLast_cons {owner : Owner} (nonempty : owners ≠ [])
    (here : owner.isOperation = false)
    (later : ∀ other ∈ owners.dropLast, other.isOperation = false) :
    ∀ other ∈ (owner :: owners).dropLast, other.isOperation = false := by
  rw [List.dropLast_cons_of_ne_nil nonempty]
  exact List.forall_mem_cons.2 ⟨here, later⟩

theorem Nested.isOperation_dropLast (nested : Nested document owners names) :
    ∀ owner ∈ owners.dropLast, owner.isOperation = false := by
  induction nested with
  | operation => exact fun _ member => absurd member List.not_mem_nil
  | field _ _ outside ih => exact isOperation_dropLast_cons outside.ne_nil rfl ih
  | inlineFragment _ _ outside ih => exact isOperation_dropLast_cons outside.ne_nil rfl ih
  | fragmentSpread _ _ outside ih => exact isOperation_dropLast_cons outside.ne_nil rfl ih

end

/-- What a round needs to keep for the next one to find the frames in order. -/
structure State.Sound (document : Document) (operation : Operation) (s : State V) : Prop where
  nested : s.Nested document
  bottom : (s.frames.map Frame.owner).getLast? = some (.operation operation)
  unknown : ∀ name ∈ s.inProgress, s.known.lookup name = none

theorem State.Sound.stacked (sound : s.Sound document operation) :
    s.Stacked document operation where
  bottom := sound.bottom
  noOther := sound.nested.isOperation_dropLast
  inProgress := sound.nested.filterMap_fragmentName?
  distinct := sound.nested.nodup
  unknown := sound.unknown
  first _ _ := sound.nested.fragment?_eq

theorem sound_start (m : Measure V) (document : Document) (known : Known V)
    (operation : Operation) : (start m known operation).Sound document operation where
  nested := .operation operation
  bottom := rfl
  unknown _ member := absurd member List.not_mem_nil

theorem bottom_steps {pushed popped : Option Owner} (nested : s.Nested document)
    (steps : Steps m document s pushed popped t) :
    (t.frames.map Frame.owner).getLast? = (s.frames.map Frame.owner).getLast? := by
  unfold State.Nested at nested
  cases steps with
  | enterField => exact List.getLast?_cons_cons
  | enterInlineFragment => exact List.getLast?_cons_cons
  | enterFragment => exact List.getLast?_cons_cons
  | reuse => rfl
  | cut => rfl
  | leaveField =>
    rw [owners_addToFrame]
    cases nested with
    | field _ _ outside => exact (List.getLast?_cons_of_ne_nil outside.ne_nil).symm
  | leaveInlineFragment =>
    rw [owners_addToFrame]
    cases nested with
    | inlineFragment _ _ outside => exact (List.getLast?_cons_of_ne_nil outside.ne_nil).symm
  | leaveFragment =>
    rw [owners_addToFrame]
    cases nested with
    | fragmentSpread _ _ outside => exact (List.getLast?_cons_of_ne_nil outside.ne_nil).symm

theorem unknown_steps {pushed popped : Option Owner} (nested : s.Nested document)
    (unknown : ∀ name ∈ s.inProgress, s.known.lookup name = none)
    (steps : Steps m document s pushed popped t) :
    ∀ name ∈ t.inProgress, t.known.lookup name = none := by
  unfold State.Nested at nested
  cases steps with
  | enterField => exact unknown
  | enterInlineFragment => exact unknown
  | reuse => exact unknown
  | cut => exact unknown
  | leaveField => exact unknown
  | leaveInlineFragment => exact unknown
  | enterFragment _ _ _ _ _ _ _ _ look => exact List.forall_mem_cons.2 ⟨look, unknown⟩
  | leaveFragment =>
    cases nested with
    | fragmentSpread _ fresh outside =>
      -- The fragment that becomes known is the one that is in progress no more.
      rw [List.erase_cons_head]
      intro name member
      rw [lookup_cons_of_ne (ne_of_mem_of_not_mem member fresh)]
      exact unknown name (List.mem_cons_of_mem _ member)

theorem sound_steps {pushed popped : Option Owner} (sound : s.Sound document operation)
    (steps : Steps m document s pushed popped t) : t.Sound document operation where
  nested := nested_steps sound.nested steps
  bottom := (bottom_steps sound.nested steps).trans sound.bottom
  unknown := unknown_steps sound.nested sound.unknown steps

theorem lookup_steps {pushed popped : Option Owner} (sound : s.Sound document operation)
    (steps : Steps m document s pushed popped t) {name : String} {value : V}
    (look : s.known.lookup name = some value) : t.known.lookup name = some value := by
  obtain ⟨nested, -, unknown⟩ := sound
  unfold State.Nested at nested
  cases steps with
  | enterField => exact look
  | enterInlineFragment => exact look
  | enterFragment => exact look
  | reuse => exact look
  | cut => exact look
  | leaveField => exact look
  | leaveInlineFragment => exact look
  | leaveFragment spread =>
    cases nested with
    | fragmentSpread =>
      have other : name ≠ spread.name := by
        rintro rfl
        cases (unknown _ List.mem_cons_self).symm.trans look
      rw [lookup_cons_of_ne other]
      exact look

end Walk

end QueryShield
