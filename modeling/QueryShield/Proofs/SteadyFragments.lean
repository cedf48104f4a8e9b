import Mathlib
import QueryShield.Proofs.Traversal

namespace QueryShield

open Relation

namespace Document

def OnOwnCycleOnly (document : Document) (name : String) : Prop :=
  ∀ other, TransGen document.Spreads name other → TransGen document.Spreads other name →
    other = name

/-- Neither the fragment nor one that it comes to is on a cycle with others. -/
def Steady (document : Document) (name : String) : Prop :=
  ∀ inner, ReflTransGen document.Spreads name inner → document.OnOwnCycleOnly inner

theorem onOwnCycleOnly_of_rank {document : Document} (rank : String → Nat)
    (down : ∀ outer inner, document.Spreads outer inner → inner = outer ∨ rank inner < rank outer)
    (name : String) : document.OnOwnCycleOnly name := by
  have below : ∀ {outer inner}, TransGen document.Spreads outer inner →
      inner = outer ∨ rank inner < rank outer := by
    intro outer inner path
    induction path with
    | single spread => exact down _ _ spread
    | tail _ spread ih =>
      rcases down _ _ spread with rfl | lower
      · exact ih
      · rcases ih with rfl | ih
        · exact .inr lower
        · exact .inr (Nat.lt_trans lower ih)
  intro other outward inward
  rcases below outward with same | lower
  · exact same
  · rcases below inward with same | higher
    · exact same.symm
    · omega

theorem Steady.inside {document : Document} {name inner : String} (steady : document.Steady name)
    (path : ReflTransGen document.Spreads name inner) : document.Steady inner :=
  fun _ further => steady _ (path.trans further)

end Document

variable {V : Type} {m : Measure V} {document : Document}

namespace Measure

def freshValue (m : Measure V) (document : Document) (name : String) : V :=
  match document.fragment? name with
  | some definition => m.fragmentDefinition definition
      (Walk.traverse m document [name] [] m.empty definition.selectionSet).1
  | none => m.empty

def Settled (m : Measure V) (document : Document) (known : Known V) : Prop :=
  ∀ name value, document.Steady name → known.lookup name = some value →
    value = m.freshValue document name

theorem Settled.nil : m.Settled document [] := by
  intro name value _ look
  simp at look

theorem Settled.cons {known : Known V} {name : String} {value : V}
    (settled : m.Settled document known)
    (exact : document.Steady name → value = m.freshValue document name) :
    m.Settled document ((name, value) :: known) := by
  intro other kept steady look
  by_cases same : other = name
  · subst other
    rw [List.lookup_cons_self] at look
    exact Option.some.inj look ▸ exact steady
  · rw [Walk.lookup_cons_of_ne same] at look
    exact settled other kept steady look

end Measure

namespace Walk

/-- What holds when a walk comes to selections: they are spread inside every fragment in progress,
and none of these is known yet. -/
structure Entry (m : Measure V) (document : Document) (inProgress : List String)
    (known : Known V) (selections : List Selection) : Prop where
  within : ∀ outer ∈ inProgress, ∀ name, document.Reaches selections name →
    TransGen document.Spreads outer name
  unknown : ∀ outer ∈ inProgress, known.lookup outer = none
  settled : m.Settled document known

variable {inProgress : List String} {known after : Known V} {total : V} {spread : FragmentSpread}
  {definition : FragmentDefinition} {selections rest : List Selection}

theorem Entry.start (settled : m.Settled document known) :
    Entry m document [] known selections where
  within := fun _ member => absurd member List.not_mem_nil
  unknown := fun _ member => absurd member List.not_mem_nil
  settled := settled

theorem Entry.part {others : List Selection} (entry : Entry m document inProgress known selections)
    (fewer : ∀ name, document.Reaches others name → document.Reaches selections name) :
    Entry m document inProgress known others :=
  { entry with
    within := fun outer member name reached => entry.within outer member name (fewer name reached) }

theorem Entry.body (entry : Entry m document inProgress known (.fragmentSpread spread :: rest))
    (look : known.lookup spread.name = none)
    (found : document.fragment? spread.name = some definition) :
    Entry m document (spread.name :: inProgress) known definition.selectionSet where
  within := by
    intro outer member name reached
    rcases List.mem_cons.1 member with rfl | member
    · exact reached.inside found
    · exact entry.within outer member name (reached.inSpread found)
  unknown := by
    intro outer member
    rcases List.mem_cons.1 member with rfl | member
    · exact look
    · exact entry.unknown outer member
  settled := entry.settled

theorem Entry.onward (entry : Entry m document inProgress known selections)
    (settled : m.Settled document after)
    (kept : ∀ outer ∈ inProgress, after.lookup outer = known.lookup outer)
    {others : List Selection}
    (fewer : ∀ name, document.Reaches others name → document.Reaches selections name) :
    Entry m document inProgress after others where
  within := (entry.part fewer).within
  unknown := fun outer member => (kept outer member).trans (entry.unknown outer member)
  settled := settled

theorem Entry.mem_progress
    (entry : Entry m document inProgress known (.fragmentSpread spread :: rest))
    (steady : document.Steady spread.name)
    (found : document.fragment? spread.name = some definition) {name : String}
    (reached : document.Reaches definition.selectionSet name) :
    name ∈ spread.name :: inProgress ↔ name = spread.name := by
  constructor
  · intro member
    rcases List.mem_cons.1 member with same | member
    · exact same
    · exact steady spread.name .refl name (reached.inside found)
        (entry.within name member spread.name Document.reaches_spread)
  · rintro rfl
    exact List.mem_cons_self

theorem kept_entered {inProgress : List String} {name : String} (known : Known V) (value total : V)
    (selections : List Selection) (fresh : name ∉ inProgress) :
    ∀ outer ∈ inProgress, List.lookup outer ((name, value) :: (traverse m document
      (name :: inProgress) known total selections).2) = known.lookup outer := by
  intro outer member
  have other : outer ≠ name := fun same => fresh (same ▸ member)
  rw [lookup_cons_of_ne other]
  exact lookup_traverse_inProgress _ _ _ _ (List.mem_cons_of_mem _ member)

/-- A spread of a steady fragment that is not in progress has the value of the fragment on its own.
It settles steady fragments only. -/
theorem traverse_steadySpread
    (entry : Entry m document inProgress known (.fragmentSpread spread :: rest))
    (fresh : spread.name ∉ inProgress) (steady : document.Steady spread.name)
    (body : ∀ definition, document.fragment? spread.name = some definition →
      known.lookup spread.name = none →
      (traverse m document (spread.name :: inProgress) known m.empty definition.selectionSet).1 =
          (traverse m document [spread.name] [] m.empty definition.selectionSet).1 ∧
        m.Settled document (traverse m document (spread.name :: inProgress) known m.empty
          definition.selectionSet).2) :
    ∃ after, (∀ total, traverse m document inProgress known total (.fragmentSpread spread :: rest) =
        traverse m document inProgress after (m.combine total
          (m.fragmentSpread spread (m.freshValue document spread.name))) rest) ∧
      m.Settled document after ∧
      (∀ outer ∈ inProgress, after.lookup outer = known.lookup outer) ∧
      ∀ name, ¬ document.Steady name → after.lookup name = known.lookup name := by
  cases look : known.lookup spread.name with
  | some value =>
    obtain rfl := entry.settled spread.name value steady look
    exact ⟨known, fun total => traverse_known look, entry.settled, fun _ _ => rfl, fun _ _ => rfl⟩
  | none =>
    cases found : document.fragment? spread.name with
    | none =>
      refine ⟨known, fun total => ?_, entry.settled, fun _ _ => rfl, fun _ _ => rfl⟩
      rw [traverse_missing look found, Measure.freshValue, found]
    | some definition =>
      obtain ⟨value, settled⟩ := body definition found look
      have own : document.Steady spread.name →
          m.freshValue document spread.name = m.freshValue document spread.name := fun _ => rfl
      refine ⟨_, fun total => ?_, settled.cons own, ?_, ?_⟩
      · rw [traverse_entered look found fresh, value, Measure.freshValue, found]
      · exact kept_entered known _ m.empty definition.selectionSet fresh
      · intro name unsteady
        have other : name ≠ spread.name := fun same => unsteady (same ▸ steady)
        rw [lookup_cons_of_ne other]
        exact lookup_traverse_of_not_reached _ _ _ _ fun reached =>
          unsteady (steady.inside (reached.inside found).to_reflTransGen)

end Walk

end QueryShield
