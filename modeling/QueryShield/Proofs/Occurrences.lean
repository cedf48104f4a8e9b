import Mathlib
import QueryShield.Proofs.TopLevel

namespace QueryShield

namespace Document

/-- A field occurs among the selections. A way to it gives the position of a selection, then the
position of one inside that selection, and so on; a spread has inside it the first definition of its
name. The level is the number of fields on the way, the one that occurs included. -/
inductive Occurs (document : Document) : List Selection → List Nat → Field → Nat → Prop where
  | here {selections selectionSet : List Selection} {position : Nat} {field : Field}
    (stands : selections[position]? = some (.field field selectionSet)) :
    Occurs document selections [position] field 1
  | inField {selections selectionSet : List Selection} {position level : Nat} {outer field : Field}
    {way : List Nat} (stands : selections[position]? = some (.field outer selectionSet))
    (inner : Occurs document selectionSet way field level) :
    Occurs document selections (position :: way) field (level + 1)
  | inInlineFragment {selections selectionSet : List Selection} {position level : Nat}
    {fragment : InlineFragment} {field : Field} {way : List Nat}
    (stands : selections[position]? = some (.inlineFragment fragment selectionSet))
    (inner : Occurs document selectionSet way field level) :
    Occurs document selections (position :: way) field level
  | inSpread {selections : List Selection} {position level : Nat} {spread : FragmentSpread}
    {definition : FragmentDefinition} {field : Field} {way : List Nat}
    (stands : selections[position]? = some (.fragmentSpread spread))
    (found : document.fragment? spread.name = some definition)
    (inner : Occurs document definition.selectionSet way field level) :
    Occurs document selections (position :: way) field level

def wayBehind : List Nat → List Nat
  | [] => []
  | position :: way => (position + 1) :: way

theorem wayBehind_injective : Function.Injective wayBehind := by
  intro way other same
  cases way <;> cases other <;> simp_all [wayBehind]

variable {document : Document} {selections rest : List Selection} {selection : Selection}
  {way : List Nat} {field : Field} {level : Nat}

theorem not_occurs_nil : ¬ document.Occurs [] way field level := by
  intro occurs
  cases occurs <;> simp_all

theorem Occurs.move {others : List Selection} {position target : Nat}
    (occurs : document.Occurs selections (position :: way) field level)
    (same : others[target]? = selections[position]?) :
    document.Occurs others (target :: way) field level := by
  cases occurs with
  | here stands => exact .here (same.trans stands)
  | inField stands inner => exact .inField (same.trans stands) inner
  | inInlineFragment stands inner => exact .inInlineFragment (same.trans stands) inner
  | inSpread stands found inner => exact .inSpread (same.trans stands) found inner

theorem Occurs.position {position : Nat}
    (occurs : document.Occurs selections (position :: way) field level) :
    position < selections.length := by
  cases occurs with
  | here stands => exact (List.getElem?_eq_some_iff.1 stands).1
  | inField stands _ => exact (List.getElem?_eq_some_iff.1 stands).1
  | inInlineFragment stands _ => exact (List.getElem?_eq_some_iff.1 stands).1
  | inSpread stands _ _ => exact (List.getElem?_eq_some_iff.1 stands).1

theorem Occurs.way_eq (occurs : document.Occurs selections way field level) :
    ∃ position inner, way = position :: inner := by
  cases occurs <;> exact ⟨_, _, rfl⟩

theorem Occurs.single (occurs : document.Occurs [selection] way field level) :
    ∃ inner, way = 0 :: inner := by
  obtain ⟨position, inner, rfl⟩ := occurs.way_eq
  obtain rfl : position = 0 := Nat.lt_one_iff.1 occurs.position
  exact ⟨inner, rfl⟩

theorem occurs_cons : document.Occurs (selection :: rest) way field level ↔
    document.Occurs [selection] way field level ∨
      ∃ other, wayBehind other = way ∧ document.Occurs rest other field level := by
  constructor
  · intro occurs
    obtain ⟨position, inner, rfl⟩ := occurs.way_eq
    cases position with
    | zero => exact .inl (occurs.move rfl)
    | succ position => exact .inr ⟨position :: inner, rfl, occurs.move rfl⟩
  · rintro (occurs | ⟨other, rfl, occurs⟩)
    · obtain ⟨inner, rfl⟩ := occurs.single
      exact occurs.move rfl
    · obtain ⟨position, inner, rfl⟩ := occurs.way_eq
      exact occurs.move rfl

theorem occurs_field {outer : Field} {selectionSet : List Selection} :
    document.Occurs [.field outer selectionSet] way field level ↔
      ((field, way) = (outer, [0]) ∧ level = 1) ∨
        ∃ inner below, 0 :: inner = way ∧ level = below + 1 ∧
          document.Occurs selectionSet inner field below := by
  constructor
  · intro occurs
    obtain ⟨inner, rfl⟩ := occurs.single
    cases occurs with
    | here stands => cases stands; exact .inl ⟨rfl, rfl⟩
    | inField stands inside => cases stands; exact .inr ⟨_, _, rfl, rfl, inside⟩
    | inInlineFragment stands _ => cases stands
    | inSpread stands _ _ => cases stands
  · rintro (⟨same, rfl⟩ | ⟨inner, below, rfl, rfl, occurs⟩)
    · cases same
      exact .here rfl
    · exact .inField rfl occurs

theorem occurs_inlineFragment {fragment : InlineFragment} {selectionSet : List Selection} :
    document.Occurs [.inlineFragment fragment selectionSet] way field level ↔
      ∃ inner, 0 :: inner = way ∧ document.Occurs selectionSet inner field level := by
  constructor
  · intro occurs
    obtain ⟨inner, rfl⟩ := occurs.single
    cases occurs with
    | here stands => cases stands
    | inField stands _ => cases stands
    | inInlineFragment stands inside => cases stands; exact ⟨_, rfl, inside⟩
    | inSpread stands _ _ => cases stands
  · rintro ⟨inner, rfl, occurs⟩
    exact .inInlineFragment rfl occurs

theorem occurs_spread {spread : FragmentSpread} :
    document.Occurs [.fragmentSpread spread] way field level ↔ ∃ inner, 0 :: inner = way ∧
      document.Occurs (document.spreadSelections spread.name) inner field level := by
  constructor
  · intro occurs
    obtain ⟨inner, rfl⟩ := occurs.single
    cases occurs with
    | here stands => cases stands
    | inField stands _ => cases stands
    | inInlineFragment stands _ => cases stands
    | inSpread stands found inside =>
      cases stands
      refine ⟨_, rfl, ?_⟩
      rwa [spreadSelections, found]
  · rintro ⟨inner, rfl, occurs⟩
    cases found : document.fragment? spread.name with
    | none =>
      rw [spreadSelections, found] at occurs
      exact absurd occurs not_occurs_nil
    | some definition =>
      rw [spreadSelections, found] at occurs
      exact .inSpread rfl found occurs

end Document

end QueryShield
