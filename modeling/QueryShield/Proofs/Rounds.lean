import Mathlib.Tactic.Common
import QueryShield.Proofs.Frames
import QueryShield.Proofs.Traversal

namespace QueryShield.Walk

variable {V : Type}

def start (m : Measure V) (known : Known V) (operation : Operation) : State V where
  frames := [⟨.operation operation, operation.selectionSet, m.empty⟩]
  inProgress := []
  known := known

def loop (m : Measure V) (document : Document) : Nat → State V → State V ⊕ (V × Known V)
  | 0, s => .inl s
  | count + 1, s =>
    match step m document s with
    | .inl next => loop m document count next
    | .inr result => .inr result

/-- The states in which the rounds begin, up to the round that leaves the operation. -/
def rounds (m : Measure V) (document : Document) (s : State V) : List (State V) :=
  match _stepped : step m document s with
  | .inr _ => [s]
  | .inl next => s :: rounds m document next
termination_by (unresolvedCount document s, weight s.frames)
decreasing_by exact step_smaller _stepped

def enteredFragment? (m : Measure V) (document : Document) (s : State V) : Option String :=
  (pushed? m document s).bind Owner.fragmentName?

variable {m : Measure V} {document : Document} {s t : State V}

theorem rounds_of_step (stepped : step m document s = .inl t) :
    rounds m document s = s :: rounds m document t := by
  rw [rounds]
  split
  · rename_i result ended
    rw [stepped] at ended
    cases ended
  · rename_i next continued
    rw [stepped] at continued
    cases continued
    rfl

theorem rounds_of_end {result : V × Known V} (ended : step m document s = .inr result) :
    rounds m document s = [s] := by
  rw [rounds]
  split
  · rfl
  · rename_i next continued
    rw [ended] at continued
    cases continued

@[elab_as_elim]
theorem rounds_induction (m : Measure V) (document : Document) {motive : State V → Prop}
    (last : ∀ s result, step m document s = .inr result → motive s)
    (round : ∀ s t, step m document s = .inl t → motive t → motive s) (s : State V) : motive s := by
  fun_induction rounds m document s with
  | case1 s result ended => exact last s result ended
  | case2 s next stepped ih => exact round s next stepped ih

theorem loop_rounds (s : State V) :
    loop m document (rounds m document s).length s = .inr (run m document s) := by
  induction s using rounds_induction m document with
  | last s result ended =>
    rw [rounds_of_end ended, run_of_end ended, List.length_singleton, loop, ended]
  | round s t stepped ih =>
    rw [rounds_of_step stepped, run_of_step stepped, List.length_cons, loop, stepped]
    exact ih

theorem isResolved_steps {pushed popped : Option Owner} (steps : Steps m document s pushed popped t)
    {name : String} (resolved : isResolved s name) : isResolved t name := by
  cases steps with
  | enterFragment spread => exact isResolved_enter spread.name name resolved _
  | leaveFragment spread => exact isResolved_leave spread.name _ name resolved _
  | enterField => exact resolved
  | enterInlineFragment => exact resolved
  | reuse => exact resolved
  | cut => exact resolved
  | leaveField => exact resolved
  | leaveInlineFragment => exact resolved

def State.Within (document : Document) (allowed : String → Prop) (s : State V) : Prop :=
  ∀ pending ∈ s.frames.map Frame.pending, ∀ name, document.Reaches pending name → allowed name

theorem pending_addToFrame (m : Measure V) (value : V) (frames : List (Frame V)) :
    (addToFrame m value frames).map Frame.pending = frames.map Frame.pending := by
  cases frames <;> rfl

theorem within_steps {pushed popped : Option Owner} {allowed : String → Prop}
    (within : s.Within document allowed) (steps : Steps m document s pushed popped t) :
    t.Within document allowed := by
  unfold State.Within at within ⊢
  cases steps with
  | enterField =>
    obtain ⟨here, outer⟩ := List.forall_mem_cons.1 within
    exact List.forall_mem_cons.2 ⟨fun name reached => here name reached.inField,
      List.forall_mem_cons.2 ⟨fun name reached => here name reached.later, outer⟩⟩
  | enterInlineFragment =>
    obtain ⟨here, outer⟩ := List.forall_mem_cons.1 within
    exact List.forall_mem_cons.2 ⟨fun name reached => here name reached.inInlineFragment,
      List.forall_mem_cons.2 ⟨fun name reached => here name reached.later, outer⟩⟩
  | enterFragment spread definition rest owner total outer inProgress known look found =>
    obtain ⟨here, outer⟩ := List.forall_mem_cons.1 within
    exact List.forall_mem_cons.2 ⟨fun name reached => here name (reached.inSpread found),
      List.forall_mem_cons.2 ⟨fun name reached => here name reached.later, outer⟩⟩
  | reuse =>
    obtain ⟨here, outer⟩ := List.forall_mem_cons.1 within
    exact List.forall_mem_cons.2 ⟨fun name reached => here name reached.later, outer⟩
  | cut =>
    obtain ⟨here, outer⟩ := List.forall_mem_cons.1 within
    exact List.forall_mem_cons.2 ⟨fun name reached => here name reached.later, outer⟩
  | leaveField =>
    rw [pending_addToFrame]
    exact (List.forall_mem_cons.1 within).2
  | leaveInlineFragment =>
    rw [pending_addToFrame]
    exact (List.forall_mem_cons.1 within).2
  | leaveFragment =>
    rw [pending_addToFrame]
    exact (List.forall_mem_cons.1 within).2

theorem entered_steps {pushed popped : Option Owner} {allowed : String → Prop} {name : String}
    (within : s.Within document allowed) (steps : Steps m document s pushed popped t)
    (entered : pushed.bind Owner.fragmentName? = some name) :
    isResolved s name = false ∧ isResolved t name ∧ (document.fragment? name).isSome ∧
      allowed name := by
  cases steps with
  | enterFragment spread definition rest owner total outer inProgress known look found fresh =>
    obtain rfl := Option.some.inj entered
    refine ⟨?_, ?_, ?_, ?_⟩
    · simp [isResolved, fresh, look]
    · simp [isResolved]
    · rw [found]
      rfl
    · exact within _ List.mem_cons_self _ Document.reaches_spread
  | enterField => cases entered
  | enterInlineFragment => cases entered
  | reuse => cases entered
  | cut => cases entered
  | leaveField => cases entered
  | leaveInlineFragment => cases entered
  | leaveFragment => cases entered

def enteredFragments (m : Measure V) (document : Document) (states : List (State V)) :
    List String :=
  states.filterMap (enteredFragment? m document)

theorem enteredFragments_cons (s : State V) (states : List (State V)) :
    enteredFragments m document (s :: states) =
      (enteredFragment? m document s).toList ++ enteredFragments m document states := by
  rw [enteredFragments, List.filterMap_cons]
  cases enteredFragment? m document s <;> rfl

theorem enteredFragments_append (first second : List (State V)) :
    enteredFragments m document (first ++ second) =
      enteredFragments m document first ++ enteredFragments m document second :=
  List.filterMap_append

theorem enteredFragment?_of_end {result : V × Known V} (ended : step m document s = .inr result) :
    enteredFragment? m document s = none := by
  rw [enteredFragment?, pushed?, ended]
  rfl

/-- No fragment is entered twice before the operation ends, none is entered that was known or in
progress, and all of them are known in the end. -/
theorem enteredFragments_rounds {allowed : String → Prop} (nested : s.Nested document)
    (within : s.Within document allowed) :
    (enteredFragments m document (rounds m document s)).Nodup ∧
      (∀ name ∈ enteredFragments m document (rounds m document s),
        isResolved s name = false ∧ (document.fragment? name).isSome ∧ allowed name) ∧
      ∀ name, isResolved s name ∨ name ∈ enteredFragments m document (rounds m document s) →
        ((run m document s).2.lookup name).isSome := by
  induction s using rounds_induction m document with
  | last s result ended =>
    obtain ⟨nothing, known, -⟩ := nested_end nested ended
    rw [rounds_of_end ended, run_of_end ended, enteredFragments_cons, enteredFragment?_of_end ended,
      known]
    refine ⟨List.nodup_nil, fun name member => absurd member List.not_mem_nil, ?_⟩
    rintro name (resolved | member)
    · rw [isResolved, nothing] at resolved
      exact resolved
    · exact absurd member List.not_mem_nil
  | round s t stepped ih =>
    have steps := steps_of_step stepped
    obtain ⟨nodup, fresh, known⟩ := ih (nested_steps nested steps) (within_steps within steps)
    -- What a later round enters is not resolved by then, and nothing that was resolved is given up.
    have earlier : ∀ name ∈ enteredFragments m document (rounds m document t),
        isResolved s name = false ∧ (document.fragment? name).isSome ∧ allowed name := by
      intro name member
      obtain ⟨unresolved, further⟩ := fresh name member
      refine ⟨?_, further⟩
      by_contra resolved
      rw [Bool.not_eq_false] at resolved
      rw [isResolved_steps steps resolved] at unresolved
      cases unresolved
    rw [rounds_of_step stepped, run_of_step stepped, enteredFragments_cons]
    cases entered : enteredFragment? m document s with
    | none =>
      refine ⟨nodup, earlier, fun name either => known name ?_⟩
      exact either.imp_left (isResolved_steps steps)
    | some name =>
      obtain ⟨before, after, defined, permitted⟩ := entered_steps within steps entered
      refine ⟨List.nodup_cons.2 ⟨fun member => ?_, nodup⟩,
        List.forall_mem_cons.2 ⟨⟨before, defined, permitted⟩, earlier⟩, fun other either => ?_⟩
      · rw [(fresh name member).1] at after
        cases after
      · apply known other
        rcases either with resolved | member
        · exact .inl (isResolved_steps steps resolved)
        · rcases List.mem_cons.1 member with rfl | member
          · exact .inl after
          · exact .inr member

end QueryShield.Walk

namespace QueryShield.Measure

theorem foldOperation_eq_run {V : Type} {m : Measure V} {document : Document} (known : Known V)
    (operation : Operation) :
    m.foldOperation document known operation =
      Walk.run m document (Walk.start m known operation) := rfl

end QueryShield.Measure
