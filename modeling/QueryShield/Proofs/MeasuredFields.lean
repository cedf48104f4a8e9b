import Mathlib
import QueryShield.Proofs.Rounds
import QueryShield.Proofs.WrittenFields

namespace QueryShield

namespace Walk

variable {V : Type} {m : Measure V} {document : Document} {s t : State V}

def measuredField? (m : Measure V) (document : Document) (s : State V) : Option Field :=
  (popped? m document s).bind Owner.field?

/-- What the next step applies the measure of fields to. -/
def fieldCall? (s : State V) : Option (Field × List Selection × V) :=
  match s.frames with
  | ⟨.field field selectionSet, [], total⟩ :: _ => some (field, selectionSet, total)
  | _ => none

theorem measuredField?_eq (m : Measure V) (document : Document) (s : State V) :
    measuredField? m document s = (fieldCall? s).map Prod.fst := by
  cases stepped : step m document s with
  | inl t =>
    have steps := steps_of_step stepped
    unfold measuredField?
    generalize pushed? m document s = pushed, popped? m document s = popped at steps ⊢
    cases steps <;> simp [fieldCall?, Owner.field?]
  | inr result =>
    rw [measuredField?, popped?, stepped]
    obtain ⟨_ | ⟨⟨owner, _ | ⟨selection, rest⟩, total⟩, outer⟩, inProgress, known⟩ := s
    · rfl
    · cases owner <;> rfl
    · cases stepped

/-- Only the step that leaves a field depends on how fields are measured, and this step measures
that field once. -/
theorem step_field (m : Measure V) (document : Document) (s : State V)
    (measure : Field → List Selection → V → V) :
    step { m with field := measure } document s =
      match s.frames with
      | ⟨.field field selectionSet, [], total⟩ :: outer =>
        .inl { s with frames := addToFrame m (measure field selectionSet total) outer }
      | _ => step m document s := by
  obtain ⟨_ | ⟨⟨owner, _ | ⟨selection, rest⟩, total⟩, outer⟩, inProgress, known⟩ := s
  · rfl
  · cases owner <;> rfl
  · cases owner <;> rfl

theorem step_congr_field (document : Document) {measure : Field → List Selection → V → V}
    (same : ∀ field selectionSet total, fieldCall? s = some (field, selectionSet, total) →
      measure field selectionSet total = m.field field selectionSet total) :
    step { m with field := measure } document s = step m document s := by
  rw [step_field]
  split
  next field selectionSet total outer left =>
    rw [same field selectionSet total (by rw [fieldCall?, left])]
    rw [step, left]
    rfl
  · rfl

theorem run_congr_field {measure : Field → List Selection → V → V}
    (same : ∀ t ∈ rounds m document s, ∀ field selectionSet total,
      fieldCall? t = some (field, selectionSet, total) →
        measure field selectionSet total = m.field field selectionSet total) :
    run { m with field := measure } document s = run m document s := by
  induction s using rounds_induction m document with
  | last s result ended =>
    have here := step_congr_field document (same s (by simp [rounds_of_end ended]))
    rw [run_of_end ended, run_of_end (here.trans ended)]
  | round s t stepped ih =>
    rw [rounds_of_step stepped, List.forall_mem_cons] at same
    rw [run_of_step stepped, run_of_step ((step_congr_field document same.1).trans stepped), ih same.2]

def fieldsLeft : List (Frame V) → Nat
  | [] => 0
  | frame :: outer =>
    frame.owner.field?.toList.length + Selection.fieldCountIn frame.pending + fieldsLeft outer

theorem fieldsLeft_addToFrame (m : Measure V) (value : V) (frames : List (Frame V)) :
    fieldsLeft (addToFrame m value frames) = fieldsLeft frames := by
  cases frames <;> rfl

/-- What a step measures and leaves to be measured, it found there or entered. -/
theorem fieldsLeft_steps {pushed popped : Option Owner}
    (steps : Steps m document s pushed popped t) :
    (popped.bind Owner.field?).toList.length + fieldsLeft t.frames =
      fieldsLeft s.frames +
        ((pushed.bind Owner.fragmentName?).toList.map document.bodyFieldCount).sum := by
  cases steps with
  | enterFragment spread definition rest owner total outer inProgress known look found fresh =>
    have body : document.bodyFieldCount spread.name =
        Selection.fieldCountIn definition.selectionSet := by
      rw [Document.bodyFieldCount, found]
    simp only [fieldsLeft, Selection.fieldCountIn, Selection.fieldCount, Owner.field?,
      Owner.fragmentName?, Option.bind_none, Option.bind_some, Option.toList_none,
      Option.toList_some, List.length_nil, List.map_cons, List.map_nil, List.sum_cons, List.sum_nil,
      body]
    omega
  | enterField =>
    simp only [fieldsLeft, Selection.fieldCountIn, Selection.fieldCount, Owner.field?,
      Owner.fragmentName?, Option.bind_none, Option.bind_some, Option.toList_none,
      Option.toList_some, List.length_nil, List.length_cons, List.map_nil, List.sum_nil]
    omega
  | enterInlineFragment =>
    simp only [fieldsLeft, Selection.fieldCountIn, Selection.fieldCount, Owner.field?,
      Owner.fragmentName?, Option.bind_none, Option.bind_some, Option.toList_none, List.length_nil,
      List.map_nil, List.sum_nil]
    omega
  | reuse => simp [fieldsLeft, Selection.fieldCountIn, Selection.fieldCount]
  | cut => simp [fieldsLeft, Selection.fieldCountIn, Selection.fieldCount]
  | leaveField =>
    simp [fieldsLeft, fieldsLeft_addToFrame, Selection.fieldCountIn, Owner.field?]
  | leaveInlineFragment =>
    simp [fieldsLeft, fieldsLeft_addToFrame, Selection.fieldCountIn, Owner.field?]
  | leaveFragment =>
    simp [fieldsLeft, fieldsLeft_addToFrame, Selection.fieldCountIn, Owner.field?]

def measuredFields (m : Measure V) (document : Document) (states : List (State V)) : List Field :=
  states.filterMap (measuredField? m document)

theorem measuredFields_cons (s : State V) (states : List (State V)) :
    measuredFields m document (s :: states) =
      (measuredField? m document s).toList ++ measuredFields m document states := by
  rw [measuredFields, List.filterMap_cons]
  cases measuredField? m document s <;> rfl

theorem length_measuredFields_rounds (m : Measure V) {s : State V} (nested : s.Nested document) :
    (measuredFields m document (rounds m document s)).length = fieldsLeft s.frames +
      ((enteredFragments m document (rounds m document s)).map document.bodyFieldCount).sum := by
  induction s using rounds_induction m document with
  | last s result ended =>
    obtain ⟨-, -, operation, total, frames⟩ := nested_end nested ended
    have measured : measuredField? m document s = none := by
      rw [measuredField?, popped?, ended]
      simp only [frames]
      rfl
    rw [rounds_of_end ended, measuredFields_cons, enteredFragments_cons, measured,
      enteredFragment?_of_end ended, frames]
    rfl
  | round s t stepped ih =>
    have steps := steps_of_step stepped
    have balance := fieldsLeft_steps steps
    have later := ih (nested_steps nested steps)
    rw [rounds_of_step stepped, measuredFields_cons, enteredFragments_cons, List.length_append,
      List.map_append, List.sum_append, later]
    unfold measuredField? enteredFragment?
    omega

theorem measuredFields_eq_calls (states : List (State V)) :
    measuredFields m document states = (states.filterMap fieldCall?).map Prod.fst := by
  rw [List.map_filterMap]
  exact List.filterMap_congr fun s _ => measuredField?_eq m document s

end Walk

namespace Measure

variable {V : Type}

def rounds (m : Measure V) (document : Document) : Known V → List Operation → List (Walk.State V)
  | _, [] => []
  | known, operation :: rest =>
    Walk.rounds m document (Walk.start m known operation) ++
      m.rounds document (m.foldOperation document known operation).2 rest

variable {m : Measure V} {document : Document}

theorem start_nested (m : Measure V) (document : Document) (known : Known V)
    (operation : Operation) :
    (Walk.start m known operation).Nested document := .operation operation

theorem start_within (m : Measure V) (document : Document) (known : Known V)
    (operation : Operation) :
    (Walk.start m known operation).Within document (document.Reaches operation.selectionSet) := by
  intro pending member
  obtain rfl := List.mem_singleton.1 member
  exact fun name reached => reached

theorem isResolved_start {known : Known V} {operation : Operation} {name : String} :
    Walk.isResolved (Walk.start m known operation) name = (known.lookup name).isSome := by
  rw [Walk.isResolved, Walk.start, List.contains_nil, Bool.false_or]

theorem enteredFragments_rounds (m : Measure V) (document : Document) (known : Known V)
    (operations : List Operation) :
    (Walk.enteredFragments m document (m.rounds document known operations)).Nodup ∧
      ∀ name ∈ Walk.enteredFragments m document (m.rounds document known operations),
        known.lookup name = none ∧ (document.fragment? name).isSome ∧
          ∃ operation ∈ operations, document.Reaches operation.selectionSet name := by
  induction operations generalizing known with
  | nil => exact ⟨List.nodup_nil, fun name member => absurd member List.not_mem_nil⟩
  | cons operation rest ih =>
    obtain ⟨nodup, fresh, kept⟩ := Walk.enteredFragments_rounds
      (start_nested m document known operation) (start_within m document known operation)
    obtain ⟨laterNodup, laterFresh⟩ := ih (m.foldOperation document known operation).2
    have apart : ∀ name ∈ Walk.enteredFragments m document
          (m.rounds document (m.foldOperation document known operation).2 rest),
        ¬ (Walk.isResolved (Walk.start m known operation) name ∨
          name ∈ Walk.enteredFragments m document
            (Walk.rounds m document (Walk.start m known operation))) := by
      intro name member before
      have found := kept name before
      rw [← foldOperation_eq_run, (laterFresh name member).1] at found
      cases found
    rw [rounds, Walk.enteredFragments_append]
    constructor
    · refine List.nodup_append.2 ⟨nodup, laterNodup, ?_⟩
      rintro name first _ later rfl
      exact apart name later (.inr first)
    · intro name member
      rcases List.mem_append.1 member with first | later
      · obtain ⟨unresolved, defined, reached⟩ := fresh name first
        rw [isResolved_start, Option.isSome_eq_false_iff, Option.isNone_iff_eq_none] at unresolved
        exact ⟨unresolved, defined, operation, List.mem_cons_self, reached⟩
      · obtain ⟨-, defined, other, member, reached⟩ := laterFresh name later
        refine ⟨?_, defined, other, List.mem_cons_of_mem _ member, reached⟩
        have unresolved := (not_or.1 (apart name later)).1
        rwa [isResolved_start, Option.not_isSome_iff_eq_none] at unresolved

theorem length_measuredFields_rounds (m : Measure V) (document : Document) (known : Known V)
    (operations : List Operation) :
    (Walk.measuredFields m document (m.rounds document known operations)).length =
      (operations.map fun operation => Selection.fieldCountIn operation.selectionSet).sum +
        ((Walk.enteredFragments m document (m.rounds document known operations)).map
          document.bodyFieldCount).sum := by
  induction operations generalizing known with
  | nil => rfl
  | cons operation rest ih =>
    have first := Walk.length_measuredFields_rounds m (start_nested m document known operation)
    have left : Walk.fieldsLeft (Walk.start m known operation).frames =
        Selection.fieldCountIn operation.selectionSet := by
      simp [Walk.start, Walk.fieldsLeft, Walk.Owner.field?]
    rw [left] at first
    rw [rounds, Walk.measuredFields, Walk.enteredFragments, List.filterMap_append,
      List.filterMap_append, List.length_append, List.map_append, List.sum_append, List.map_cons,
      List.sum_cons]
    have later := ih (m.foldOperation document known operation).2
    unfold Walk.measuredFields Walk.enteredFragments at first later
    omega

theorem foldOperations_congr_field {measure : Field → List Selection → V → V}
    (known : Known V) (operations : List Operation)
    (same : ∀ s ∈ m.rounds document known operations, ∀ field selectionSet total,
      Walk.fieldCall? s = some (field, selectionSet, total) →
        measure field selectionSet total = m.field field selectionSet total) :
    { m with field := measure }.foldOperations document known operations =
      m.foldOperations document known operations := by
  induction operations generalizing known with
  | nil => rfl
  | cons operation rest ih =>
    rw [rounds, List.forall_mem_append] at same
    have first : { m with field := measure }.foldOperation document known operation =
        m.foldOperation document known operation := Walk.run_congr_field same.1
    simp only [foldOperations, first, ih _ same.2]

/-- The loop ends for every operation, whatever operations came before it. Over all operations no
fragment is entered twice, and so the fields of a fragment are measured once at most, however often
it is spread. -/
theorem rounds_bounded (m : Measure V) (document : Document) (known : Known V)
    (operations : List Operation) :
    (∀ earlier operation, ∃ count, Walk.loop m document count
        (Walk.start m (m.knownAfter document known earlier) operation) =
      .inr (m.foldOperation document (m.knownAfter document known earlier) operation)) ∧
    (Walk.enteredFragments m document (m.rounds document known operations)).Nodup ∧
    (Walk.measuredFields m document (m.rounds document known operations)).length ≤
      (operations.map fun operation => Selection.fieldCountIn operation.selectionSet).sum +
        ∑ name ∈ document.reachedNames operations, document.bodyFieldCount name := by
  obtain ⟨nodup, entered⟩ := enteredFragments_rounds m document known operations
  refine ⟨fun earlier operation => ⟨_, Walk.loop_rounds _⟩, nodup, ?_⟩
  have bodies := Document.sum_reachedNames_le nodup fun name member => (entered name member).2
  rw [length_measuredFields_rounds]
  exact Nat.add_le_add_left bodies _

end Measure

end QueryShield
