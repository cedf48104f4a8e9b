import Mathlib.Logic.Relation
import QueryShield.Walk.Measure

namespace QueryShield

open Relation

mutual

def Selection.spreadNames : Selection → List String
  | .field _ selectionSet => Selection.spreadNamesIn selectionSet
  | .inlineFragment _ selectionSet => Selection.spreadNamesIn selectionSet
  | .fragmentSpread spread => [spread.name]

def Selection.spreadNamesIn : List Selection → List String
  | [] => []
  | selection :: rest => selection.spreadNames ++ Selection.spreadNamesIn rest

end

namespace Selection

variable {selections : List Selection}

theorem mem_spreadNamesIn {name : String} : name ∈ spreadNamesIn selections ↔
    ∃ selection ∈ selections, name ∈ selection.spreadNames := by
  induction selections with
  | nil => simp [spreadNamesIn]
  | cons selection rest ih => simp [spreadNamesIn, ih]

theorem spreadNamesIn_subset {selection : Selection} (member : selection ∈ selections) :
    selection.spreadNames ⊆ spreadNamesIn selections :=
  fun _ spread => mem_spreadNamesIn.2 ⟨selection, member, spread⟩

end Selection

namespace Document

def Spreads (document : Document) (outer inner : String) : Prop :=
  ∃ definition, document.fragment? outer = some definition ∧
    inner ∈ Selection.spreadNamesIn definition.selectionSet

def Reaches (document : Document) (selections : List Selection) (name : String) : Prop :=
  ∃ first ∈ Selection.spreadNamesIn selections, ReflTransGen document.Spreads first name

def OnCycle (document : Document) (name : String) : Prop := TransGen document.Spreads name name

/-- No fragment that the selections come to is spread inside itself. -/
def CycleFree (document : Document) (selections : List Selection) : Prop :=
  ∀ name, document.Reaches selections name → ¬ document.OnCycle name

def SpreadAcyclic (document : Document) : Prop :=
  ∀ operation ∈ document.operations, document.CycleFree operation.selectionSet

variable {document : Document} {name : String} {rest : List Selection}

theorem reaches_append {first second : List Selection} :
    document.Reaches (first ++ second) name ↔
      document.Reaches first name ∨ document.Reaches second name := by
  simp only [Reaches, Selection.mem_spreadNamesIn, List.mem_append, or_and_right, exists_or]

theorem reaches_cons {selection : Selection} :
    document.Reaches (selection :: rest) name ↔
      document.Reaches [selection] name ∨ document.Reaches rest name :=
  @reaches_append document name [selection] rest

theorem Reaches.later {selection : Selection} (reached : document.Reaches rest name) :
    document.Reaches (selection :: rest) name := reaches_cons.2 (.inr reached)

theorem Reaches.inField {field : Field} {selectionSet : List Selection}
    (reached : document.Reaches selectionSet name) :
    document.Reaches (.field field selectionSet :: rest) name :=
  reaches_cons.2 (.inl (by
    simpa [Reaches, Selection.spreadNamesIn, Selection.spreadNames] using reached))

theorem Reaches.inInlineFragment {fragment : InlineFragment} {selectionSet : List Selection}
    (reached : document.Reaches selectionSet name) :
    document.Reaches (.inlineFragment fragment selectionSet :: rest) name :=
  reaches_cons.2 (.inl (by
    simpa [Reaches, Selection.spreadNamesIn, Selection.spreadNames] using reached))

theorem reaches_spread {spread : FragmentSpread} :
    document.Reaches (.fragmentSpread spread :: rest) spread.name :=
  ⟨spread.name, by simp [Selection.spreadNamesIn, Selection.spreadNames], .refl⟩

theorem Reaches.trans {selections : List Selection} {first : String}
    (reached : document.Reaches selections first)
    (further : ReflTransGen document.Spreads first name) : document.Reaches selections name := by
  obtain ⟨start, member, path⟩ := reached
  exact ⟨start, member, path.trans further⟩

theorem Reaches.inside {outer : String} {definition : FragmentDefinition}
    (reached : document.Reaches definition.selectionSet name)
    (found : document.fragment? outer = some definition) :
    TransGen document.Spreads outer name := by
  obtain ⟨first, member, path⟩ := reached
  exact .head' ⟨definition, found, member⟩ path

theorem Reaches.inSpread {spread : FragmentSpread} {definition : FragmentDefinition}
    (reached : document.Reaches definition.selectionSet name)
    (found : document.fragment? spread.name = some definition) :
    document.Reaches (.fragmentSpread spread :: rest) name :=
  reaches_spread.trans (reached.inside found).to_reflTransGen

theorem CycleFree.later {selection : Selection} (free : document.CycleFree (selection :: rest)) :
    document.CycleFree rest := fun name reached => free name reached.later

theorem CycleFree.inField {field : Field} {selectionSet : List Selection}
    (free : document.CycleFree (.field field selectionSet :: rest)) :
    document.CycleFree selectionSet := fun name reached => free name reached.inField

theorem CycleFree.inInlineFragment {fragment : InlineFragment} {selectionSet : List Selection}
    (free : document.CycleFree (.inlineFragment fragment selectionSet :: rest)) :
    document.CycleFree selectionSet := fun name reached => free name reached.inInlineFragment

theorem CycleFree.inSpread {spread : FragmentSpread} {definition : FragmentDefinition}
    (free : document.CycleFree (.fragmentSpread spread :: rest))
    (found : document.fragment? spread.name = some definition) :
    document.CycleFree definition.selectionSet :=
  fun name reached => free name (reached.inSpread found)

theorem CycleFree.of_fewer {other : Document} {selections others : List Selection}
    (free : other.CycleFree others) (spreads : document.Spreads ≤ other.Spreads)
    (names : Selection.spreadNamesIn selections ⊆ Selection.spreadNamesIn others) :
    document.CycleFree selections := by
  intro name reached cycle
  obtain ⟨first, spread, path⟩ := reached
  have reached' : other.Reaches others name :=
    ⟨first, names spread, ReflTransGen.mono spreads _ _ path⟩
  exact free name reached' (TransGen.mono spreads _ _ cycle)

theorem not_onCycle_of_rank (rank : String → Nat)
    (down : ∀ outer inner, document.Spreads outer inner → rank inner < rank outer) :
    ¬ document.OnCycle name := by
  have below : ∀ {inner}, TransGen document.Spreads name inner → rank inner < rank name := by
    intro inner path
    induction path with
    | single spread => exact down _ _ spread
    | tail _ spread ih => exact Nat.lt_trans (down _ _ spread) ih
  exact fun cycle => Nat.lt_irrefl _ (below cycle)

theorem spreadAcyclic_of_rank (rank : String → Nat)
    (down : ∀ definition ∈ document.fragments,
      ∀ inner ∈ Selection.spreadNamesIn definition.selectionSet,
        rank inner < rank definition.name) : document.SpreadAcyclic := by
  intro _ _ name _
  refine not_onCycle_of_rank rank ?_
  rintro outer inner ⟨definition, found, spread⟩
  obtain ⟨member, rfl⟩ := fragment?_mem found
  exact down definition member inner spread

end Document

end QueryShield
