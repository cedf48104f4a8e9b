import Mathlib.Data.Finset.Basic
import Mathlib.Data.Finset.Dedup
import QueryShield.Proofs.Traversal

namespace QueryShield

structure Memory (V : Type) where
  known : Known V
  inProgress : Finset String

namespace Memory

variable {V : Type}

def enter (memory : Memory V) (name : String) : Memory V :=
  { memory with inProgress := insert name memory.inProgress }

def leave (memory : Memory V) (name : String) (value : V) : Memory V where
  known := (name, value) :: memory.known
  inProgress := memory.inProgress.erase name

end Memory

namespace Measure

variable {V : Type}

/-- The selections take a total that has been reached to a result. A spread stands for the known
value of its fragment. If there is none, the first definition is folded while its name is in
progress; without a definition, or with the name in progress already, it stands for nothing. -/
inductive Folds (m : Measure V) (document : Document) :
    Memory V → V → List Selection → V → Memory V → Prop
  | nil {memory : Memory V} {total : V} : Folds m document memory total [] total memory
  | field {before inner after : Memory V} {total children result : V} {field : Field}
      {selectionSet rest : List Selection}
      (inside : Folds m document before m.empty selectionSet children inner)
      (onward : Folds m document inner (m.combine total (m.field field selectionSet children)) rest
        result after) :
      Folds m document before total (.field field selectionSet :: rest) result after
  | inlineFragment {before inner after : Memory V} {total children result : V}
      {fragment : InlineFragment} {selectionSet rest : List Selection}
      (inside : Folds m document before m.empty selectionSet children inner)
      (onward : Folds m document inner
        (m.combine total (m.inlineFragment fragment selectionSet children)) rest result after) :
      Folds m document before total (.inlineFragment fragment selectionSet :: rest) result after
  | knownSpread {before after : Memory V} {total value result : V} {spread : FragmentSpread}
      {rest : List Selection} (look : before.known.lookup spread.name = some value)
      (onward : Folds m document before (m.combine total (m.fragmentSpread spread value)) rest
        result after) :
      Folds m document before total (.fragmentSpread spread :: rest) result after
  | enteredSpread {before inner after : Memory V} {total children result : V}
      {spread : FragmentSpread} {definition : FragmentDefinition} {rest : List Selection}
      (look : before.known.lookup spread.name = none)
      (found : document.fragment? spread.name = some definition)
      (fresh : spread.name ∉ before.inProgress)
      (inside : Folds m document (before.enter spread.name) m.empty definition.selectionSet children
        inner)
      (onward : Folds m document
        (inner.leave spread.name (m.fragmentDefinition definition children))
        (m.combine total (m.fragmentSpread spread (m.fragmentDefinition definition children))) rest
        result after) :
      Folds m document before total (.fragmentSpread spread :: rest) result after
  | cutSpread {before after : Memory V} {total result : V} {spread : FragmentSpread}
      {rest : List Selection} (look : before.known.lookup spread.name = none)
      (cut : document.fragment? spread.name = none ∨ spread.name ∈ before.inProgress)
      (onward : Folds m document before (m.combine total (m.fragmentSpread spread m.empty)) rest
        result after) :
      Folds m document before total (.fragmentSpread spread :: rest) result after

variable {m : Measure V} {document : Document}

theorem erase_toFinset_cons {name : String} {inProgress : List String} (fresh : name ∉ inProgress) :
    (name :: inProgress).toFinset.erase name = inProgress.toFinset := by
  have away : name ∉ inProgress.toFinset := by rwa [List.mem_toFinset]
  rw [List.toFinset_cons, Finset.erase_insert away]

theorem folds_traverse (inProgress : List String) (known : Known V) (total : V)
    (selections : List Selection) :
    m.Folds document ⟨known, inProgress.toFinset⟩ total selections
      (Walk.traverse m document inProgress known total selections).1
      ⟨(Walk.traverse m document inProgress known total selections).2, inProgress.toFinset⟩ := by
  fun_induction Walk.traverse m document inProgress known total selections with
  | case1 => exact .nil
  | case2 inProgress known total field selectionSet rest inner ihInner ihRest =>
    exact .field ihInner ihRest
  | case3 inProgress known total fragment selectionSet rest inner ihInner ihRest =>
    exact .inlineFragment ihInner ihRest
  | case4 inProgress known total spread rest value look ih => exact .knownSpread look ih
  | case5 inProgress known total spread rest look definition found cyclic ih =>
    exact .cutSpread look (.inr (List.mem_toFinset.2 cyclic)) ih
  | case6 inProgress known total spread rest look definition found fresh inner value ihInner
      ihRest =>
    have away : spread.name ∉ inProgress.toFinset := by rwa [List.mem_toFinset]
    rw [List.toFinset_cons] at ihInner
    refine .enteredSpread look found away ihInner ?_
    rw [Memory.leave, ← List.toFinset_cons, erase_toFinset_cons fresh]
    exact ihRest
  | case7 inProgress known total spread rest look missing ih =>
    exact .cutSpread look (.inl missing) ih

theorem Folds.eq_traverse {before after : Memory V} {total result : V} {selections : List Selection}
    (folds : m.Folds document before total selections result after) (inProgress : List String)
    (same : before.inProgress = inProgress.toFinset) :
    Walk.traverse m document inProgress before.known total selections = (result, after.known) ∧
      after.inProgress = inProgress.toFinset := by
  induction folds generalizing inProgress with
  | nil => exact ⟨by rw [Walk.traverse], same⟩
  | field inside onward ihInside ihOnward =>
    obtain ⟨value, same⟩ := ihInside inProgress same
    obtain ⟨result, same⟩ := ihOnward inProgress same
    rw [Walk.traverse, value]
    exact ⟨result, same⟩
  | inlineFragment inside onward ihInside ihOnward =>
    obtain ⟨value, same⟩ := ihInside inProgress same
    obtain ⟨result, same⟩ := ihOnward inProgress same
    rw [Walk.traverse, value]
    exact ⟨result, same⟩
  | knownSpread look onward ih =>
    rw [Walk.traverse_known look]
    exact ih inProgress same
  | @enteredSpread before inner after total children result spread definition rest look found fresh
      inside onward ihInside ihOnward =>
    rw [same, List.mem_toFinset] at fresh
    have entered : (before.enter spread.name).inProgress =
        (spread.name :: inProgress).toFinset := by
      rw [Memory.enter, same, List.toFinset_cons]
    obtain ⟨folded, inside_same⟩ := ihInside (spread.name :: inProgress) entered
    have left : (inner.leave spread.name (m.fragmentDefinition definition children)).inProgress =
        inProgress.toFinset := by
      rw [Memory.leave, inside_same, erase_toFinset_cons fresh]
    rw [Walk.traverse_entered look found fresh]
    rw [Memory.enter] at folded
    rw [folded]
    exact ihOnward inProgress left
  | cutSpread look cut onward ih =>
    rcases cut with missing | cyclic
    · rw [Walk.traverse_missing look missing]
      exact ih inProgress same
    · rw [same, List.mem_toFinset] at cyclic
      rw [Walk.traverse_cyclic look cyclic]
      exact ih inProgress same

/-- Going step by step over frames and folding by the rules give every operation the same value and
leave the same fragments known, whatever was known before. -/
theorem foldOperation_eq_iff_folds (m : Measure V) (document : Document) (known after : Known V)
    (operation : Operation) (value : V) :
    m.foldOperation document known operation = (value, after) ↔
      ∃ total, m.Folds document ⟨known, ∅⟩ m.empty operation.selectionSet total ⟨after, ∅⟩ ∧
        value = m.operation operation total := by
  rw [foldOperation_eq_traverse, Prod.mk.injEq]
  constructor
  · rintro ⟨rfl, rfl⟩
    exact ⟨_, folds_traverse [] known m.empty operation.selectionSet, rfl⟩
  · rintro ⟨total, folds, rfl⟩
    obtain ⟨folded, -⟩ := folds.eq_traverse [] rfl
    rw [folded]
    exact ⟨rfl, rfl⟩

end Measure

end QueryShield
