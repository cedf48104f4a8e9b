import Mathlib.Tactic.Common
import QueryShield.Document.Builder

namespace QueryShield

namespace Builder

def State.run (state : State) : List Step → Except Fault State
  | [] => .ok state
  | step :: rest =>
    match state.apply step with
    | .ok next => next.run rest
    | .error fault => .error fault

namespace State

theorem run_append {state next : State} {first : List Step} (runs : state.run first = .ok next)
    (second : List Step) : state.run (first ++ second) = next.run second := by
  induction first generalizing state with
  | nil =>
    cases runs
    rfl
  | cons step first ih =>
    rw [run] at runs
    rw [List.cons_append, run]
    split at runs
    · exact ih runs
    · cases runs

def above (state : State) (below : List Node) : State :=
  { state with stack := state.stack ++ below }

/-- A step that can be done leaves alone what is below the nodes it works on. -/
theorem apply_above {state next : State} {step : Step} (done : state.apply step = .ok next)
    (below : List Node) : (state.above below).apply step = .ok (next.above below) := by
  rcases state with ⟨stack, document⟩
  cases step with
  | push node =>
    cases done
    rfl
  | setVariable name value =>
    cases done
    rfl
  | change change =>
    rcases stack with _ | ⟨top, rest⟩
    · cases done
    · simp only [above, List.cons_append, apply] at done ⊢
      split at done
      · cases done
        simp_all
      · cases done
  | select =>
    rcases stack with _ | ⟨child, _ | ⟨parent, rest⟩⟩
    · cases done
    · cases done
    · simp only [above, List.cons_append, apply] at done ⊢
      split at done
      · cases done
        simp_all
      · cases done
  | add =>
    rcases stack with _ | ⟨top, rest⟩
    · cases done
    · cases top <;> cases done <;> rfl

theorem run_above {state next : State} {script : List Step} (done : state.run script = .ok next)
    (below : List Node) : (state.above below).run script = .ok (next.above below) := by
  induction script generalizing state with
  | nil =>
    cases done
    rfl
  | cons step script ih =>
    rw [run] at done ⊢
    split at done
    next next applied =>
      rw [apply_above applied below]
      exact ih done
    next => cases done

theorem run_flatMap {α : Type} {stepsOf : α → List Step} (built : List α → State)
    (grows : ∀ before item, (built before).run (stepsOf item) = .ok (built (before ++ [item])))
    (items : List α) : (built []).run (items.flatMap stepsOf) = .ok (built items) := by
  suffices after : ∀ before,
      (built before).run (items.flatMap stepsOf) = .ok (built (before ++ items)) from after []
  induction items with
  | nil =>
    intro before
    rw [List.append_nil]
    rfl
  | cons item items ih =>
    intro before
    rw [List.flatMap_cons, run_append (grows before item), ih, List.append_assoc]
    rfl

theorem run_map {α : Type} (stepOf : α → Step) (built : List α → State)
    (grows : ∀ before item, (built before).apply (stepOf item) = .ok (built (before ++ [item])))
    (items : List α) : (built []).run (items.map stepOf) = .ok (built items) := by
  rw [List.map_eq_flatMap]
  refine run_flatMap built (fun before item => ?_) items
  rw [run, grows]
  rfl

end State

def directiveSteps (directives : List String) : List Step :=
  directives.map fun name => .change (.addDirective name)

def fieldSteps (field : Field) : List Step :=
  .push (.field { name := field.name } []) ::
    ((field.aliasName.map fun key => Step.change (.setAlias key)).toList ++
      ((field.arguments.map fun argument => .change (.addArgument argument)) ++
        (directiveSteps field.directives ++ if field.isList then [.change .markList] else [])))

mutual

def selectionSteps : Selection → List Step
  | .field field selectionSet => fieldSteps field ++ selectionSetSteps selectionSet
  | .inlineFragment fragment selectionSet =>
    .push (.inlineFragment { typeCondition := fragment.typeCondition } []) ::
      (directiveSteps fragment.directives ++ selectionSetSteps selectionSet)
  | .fragmentSpread spread =>
    .push (.fragmentSpread { name := spread.name }) :: directiveSteps spread.directives

def selectionSetSteps : List Selection → List Step
  | [] => []
  | selection :: rest => selectionSteps selection ++ (.select :: selectionSetSteps rest)

end

def operationSteps (operation : Operation) : List Step :=
  .push (.operation { kind := operation.kind }) ::
    ((operation.name.map fun name => Step.change (.setName name)).toList ++
      (directiveSteps operation.directives ++ (selectionSetSteps operation.selectionSet ++ [.add])))

def fragmentSteps (fragment : FragmentDefinition) : List Step :=
  .push (.fragment { fragment with selectionSet := [] }) ::
    (selectionSetSteps fragment.selectionSet ++ [.add])

def documentSteps (document : Document) : List Step :=
  document.operations.flatMap operationSteps ++ (document.fragments.flatMap fragmentSteps ++
    document.variableValues.map fun (name, value) => .setVariable name value)

def nodeOf : Selection → Node
  | .field head selectionSet => .field head selectionSet
  | .inlineFragment head selectionSet => .inlineFragment head selectionSet
  | .fragmentSpread head => .fragmentSpread head

theorem selection?_nodeOf (selection : Selection) :
    (nodeOf selection).selection? = some selection := by
  cases selection <;> rfl

theorem run_directiveSteps (build : List String → Node) (document : Document)
    (grows : ∀ before name,
      (build before).change? (.addDirective name) = some (build (before ++ [name])))
    (directives : List String) :
    State.run ⟨[build []], document⟩ (directiveSteps directives) =
      .ok ⟨[build directives], document⟩ := by
  refine State.run_map _ (fun directives => ⟨[build directives], document⟩) ?_ directives
  intro before name
  simp only [State.apply, grows]

theorem run_fieldSteps (field : Field) (document : Document) :
    State.run ⟨[], document⟩ (fieldSteps field) = .ok ⟨[.field field []], document⟩ := by
  obtain ⟨name, aliasName, arguments, directives, isList⟩ := field
  have named : State.run ⟨[.field { name } []], document⟩
      (aliasName.map fun key => Step.change (.setAlias key)).toList =
        .ok ⟨[.field { name, aliasName } []], document⟩ := by
    cases aliasName <;> rfl
  have argued := State.run_map (fun argument => .change (.addArgument argument))
    (fun arguments => ⟨[.field { name, aliasName, arguments } []], document⟩)
    (fun _ _ => rfl) arguments
  have directed := run_directiveSteps
    (fun directives => .field { name, aliasName, arguments, directives } []) document
    (fun _ _ => rfl) directives
  rw [fieldSteps, State.run]
  simp only [State.apply]
  rw [State.run_append named, State.run_append argued, State.run_append directed]
  cases isList <;> rfl

mutual

theorem run_selectionSteps (document : Document) : ∀ selection : Selection,
    State.run ⟨[], document⟩ (selectionSteps selection) = .ok ⟨[nodeOf selection], document⟩
  | .field head selectionSet => by
    rw [selectionSteps, State.run_append (run_fieldSteps head document)]
    exact run_selectionSetSteps document (.field head) (fun _ _ => rfl) selectionSet []
  | .inlineFragment head selectionSet => by
    have directed := run_directiveSteps
      (fun directives => .inlineFragment { head with directives } []) document
      (fun _ _ => rfl) head.directives
    rw [selectionSteps, State.run]
    simp only [State.apply]
    rw [State.run_append directed]
    exact run_selectionSetSteps document (.inlineFragment head) (fun _ _ => rfl) selectionSet []
  | .fragmentSpread head => by
    rw [selectionSteps, State.run]
    exact run_directiveSteps (fun directives => .fragmentSpread { head with directives }) document
      (fun _ _ => rfl) head.directives

theorem run_selectionSetSteps (document : Document) (build : List Selection → Node)
    (grows : ∀ before selection,
      (build before).addSelection? selection = some (build (before ++ [selection]))) :
    ∀ selections before : List Selection,
      State.run ⟨[build before], document⟩ (selectionSetSteps selections) =
        .ok ⟨[build (before ++ selections)], document⟩
  | [], before => by
    rw [List.append_nil]
    rfl
  | selection :: rest, before => by
    have pushed : State.run ⟨[build before], document⟩ (selectionSteps selection) =
        .ok ⟨[nodeOf selection, build before], document⟩ :=
      State.run_above (run_selectionSteps document selection) [build before]
    have selected : State.apply ⟨[nodeOf selection, build before], document⟩ .select =
        .ok ⟨[build (before ++ [selection])], document⟩ := by
      simp [State.apply, selection?_nodeOf, grows]
    rw [selectionSetSteps, State.run_append pushed, State.run, selected]
    simpa using run_selectionSetSteps document build grows rest (before ++ [selection])

end

theorem run_operationSteps (operation : Operation) (document : Document) :
    State.run ⟨[], document⟩ (operationSteps operation) =
      .ok ⟨[], document.addOperation operation⟩ := by
  obtain ⟨kind, name, directives, selectionSet⟩ := operation
  have named : State.run ⟨[.operation { kind }], document⟩
      (name.map fun name => Step.change (.setName name)).toList =
        .ok ⟨[.operation { kind, name }], document⟩ := by
    cases name <;> rfl
  have directed := run_directiveSteps (fun directives => .operation { kind, name, directives })
    document (fun _ _ => rfl) directives
  have selected := run_selectionSetSteps document
    (fun selectionSet => .operation { kind, name, directives, selectionSet })
    (fun _ _ => rfl) selectionSet []
  rw [operationSteps, State.run]
  simp only [State.apply]
  rw [State.run_append named, State.run_append directed, State.run_append selected]
  rfl

theorem run_fragmentSteps (fragment : FragmentDefinition) (document : Document) :
    State.run ⟨[], document⟩ (fragmentSteps fragment) =
      .ok ⟨[], document.addFragment fragment⟩ := by
  have selected := run_selectionSetSteps document
    (fun selectionSet => .fragment { fragment with selectionSet }) (fun _ _ => rfl)
    fragment.selectionSet []
  rw [fragmentSteps, State.run]
  simp only [State.apply]
  rw [State.run_append selected]
  rfl

/-- Every document can be put together step by step. -/
theorem run_documentSteps (document : Document) :
    State.run ⟨[], { sourceLength := document.sourceLength }⟩ (documentSteps document) =
      .ok ⟨[], document⟩ := by
  obtain ⟨sourceLength, operations, fragments, variableValues⟩ := document
  have first := State.run_flatMap (fun operations => ⟨[], { sourceLength, operations }⟩)
    (fun _ operation => run_operationSteps operation _) operations
  have second := State.run_flatMap
    (fun fragments => ⟨[], { sourceLength, operations, fragments }⟩)
    (fun _ fragment => run_fragmentSteps fragment _) fragments
  rw [documentSteps, State.run_append first, State.run_append second]
  exact State.run_map (fun (name, value) => .setVariable name value)
    (fun variableValues => ⟨[], { sourceLength, operations, fragments, variableValues }⟩)
    (fun _ _ => rfl) variableValues

end Builder

end QueryShield
