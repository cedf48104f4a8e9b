import Mathlib
import QueryShield.Proofs.Expansion
import QueryShield.Proofs.LargestValues
import QueryShield.Proofs.Matching

namespace QueryShield

/-- What holds of a name when it holds of all that its fragment spreads. -/
theorem Document.CycleFree.spread_induction {document : Document} {motive : String → Prop}
    (missing : ∀ {name}, document.fragment? name = none → motive name)
    (found : ∀ {name definition}, document.fragment? name = some definition →
      document.CycleFree definition.selectionSet →
      (∀ inner ∈ Selection.spreadNamesIn definition.selectionSet, motive inner) → motive name)
    {selections : List Selection} (free : document.CycleFree selections) :
    ∀ name ∈ Selection.spreadNamesIn selections, motive name := by
  induction selections, free using Document.expand.induct with
  | case1 =>
    intro name spread
    simp [Selection.spreadNamesIn] at spread
  | case2 field selectionSet rest free _ ofInner ofRest =>
    intro name spread
    rcases List.mem_append.1 spread with spread | spread
    · exact ofInner name spread
    · exact ofRest name spread
  | case3 fragment selectionSet rest free _ ofInner ofRest =>
    intro name spread
    rcases List.mem_append.1 spread with spread | spread
    · exact ofInner name spread
    · exact ofRest name spread
  | case4 spread rest free definition first _ ofBody ofRest =>
    intro name member
    rcases List.mem_cons.1 member with rfl | member
    · exact found first (free.inSpread first) ofBody
    · exact ofRest name member
  | case5 spread rest free absent _ ofRest =>
    intro name member
    rcases List.mem_cons.1 member with rfl | member
    · exact missing absent
    · exact ofRest name member

namespace Measure

variable {V : Type}

mutual

def valueWith (m : Measure V) (fragments : String → V) : Selection → V
  | .field node selectionSet =>
    m.field node selectionSet (m.setValueWith fragments m.empty selectionSet)
  | .inlineFragment node selectionSet =>
    m.inlineFragment node selectionSet (m.setValueWith fragments m.empty selectionSet)
  | .fragmentSpread spread => m.fragmentSpread spread (fragments spread.name)

def setValueWith (m : Measure V) (fragments : String → V) (total : V) : List Selection → V
  | [] => total
  | selection :: rest =>
    m.setValueWith fragments (m.combine total (m.valueWith fragments selection)) rest

end

variable {m : Measure V} {document : Document} {selections : List Selection}

theorem setValueWith_eq_foldl (m : Measure V) (fragments : String → V) (total : V)
    (selections : List Selection) : m.setValueWith fragments total selections =
      (selections.map (m.valueWith fragments)).foldl m.combine total := by
  induction selections generalizing total with
  | nil => rw [setValueWith, List.map_nil, List.foldl_nil]
  | cons selection rest ih => rw [setValueWith, ih, List.map_cons, List.foldl_cons]

theorem freshValue_missing {name : String} (missing : document.fragment? name = none) :
    m.freshValue document name = m.empty := by
  rw [freshValue, missing]

theorem freshValue_expansion {name : String} {definition : FragmentDefinition}
    (found : document.fragment? name = some definition)
    (free : document.CycleFree definition.selectionSet) :
    m.freshValue document name = m.fragmentDefinition definition
      (m.setValue m.empty (document.expand definition.selectionSet free)) := by
  -- The fragment is in progress while its body is folded, and spreads all that is to come there.
  have inside : ∀ outer ∈ [name], ∀ inner, document.Reaches definition.selectionSet inner →
      Relation.TransGen document.Spreads outer inner := by
    intro outer member inner reached
    obtain rfl := List.mem_singleton.1 member
    exact reached.inside found
  obtain ⟨folded, -⟩ :=
    traverse_expansion (m := m) [name] definition.selectionSet free inside [] .nil m.empty
  rw [freshValue, found]
  exact congrArg (m.fragmentDefinition definition) folded

theorem setValue_expand (free : document.CycleFree selections) :
    ∀ total, m.setValue total (document.expand selections free) =
      m.setValueWith (m.freshValue document) total selections := by
  induction selections, free using Document.expand.induct with
  | case1 =>
    intro total
    rw [Document.expand, setValue, setValueWith]
  | case2 field selectionSet rest free _ ofInner ofRest =>
    intro total
    rw [Document.expand, setValue, value, setValueWith, valueWith, ofInner, ofRest]
  | case3 fragment selectionSet rest free _ ofInner ofRest =>
    intro total
    rw [Document.expand, setValue, value, setValueWith, valueWith, ofInner, ofRest]
  | case4 spread rest free definition found _ _ ofRest =>
    intro total
    have fragment : m.freshValue document spread.name = _ :=
      freshValue_expansion found (free.inSpread found)
    rw [Document.expand_spread free found, setValue, value, setValueWith, valueWith, fragment,
      ofRest]
  | case5 spread rest free missing _ ofRest =>
    intro total
    have fragment : m.freshValue document spread.name = m.empty := freshValue_missing missing
    rw [Document.expand_undefinedSpread free missing, setValue, value, setValueWith, valueWith,
      fragment, ofRest]

theorem freshValue_eq {name : String} {definition : FragmentDefinition}
    (found : document.fragment? name = some definition)
    (free : document.CycleFree definition.selectionSet) :
    m.freshValue document name = m.fragmentDefinition definition
      (m.setValueWith (m.freshValue document) m.empty definition.selectionSet) := by
  rw [freshValue_expansion found free, setValue_expand]

theorem foldOperation_eq_setValueWith {operation : Operation}
    (free : document.CycleFree operation.selectionSet) :
    (m.foldOperation document [] operation).1 = m.operation operation
      (m.setValueWith (m.freshValue document) m.empty operation.selectionSet) := by
  obtain ⟨folded, -⟩ := foldOperation_expansion (m := m) .nil free
  rw [folded, expandedValue, setValue_expand]

end Measure

end QueryShield
