import Mathlib
import QueryShield.Proofs.ParallelWalks
import QueryShield.Proofs.SharedCycles
import QueryShield.Proofs.Verdict

namespace QueryShield

variable {V : Type} {m : Measure V} {document : Document}

namespace Document

/-- No two fragments that operations of both lists come to are on one cycle. -/
def CyclesApart (document : Document) (first second : List Operation) : Prop :=
  ∀ before ∈ first, ∀ after ∈ second, ∀ name, document.Reaches before.selectionSet name →
    document.Reaches after.selectionSet name → document.OnOwnCycleOnly name

theorem CyclesApart.steady {first second : List Operation}
    (apart : document.CyclesApart first second) {before after : Operation}
    (earlier : before ∈ first) (later : after ∈ second) {name : String}
    (reached : document.Reaches before.selectionSet name)
    (reached' : document.Reaches after.selectionSet name) : document.Steady name :=
  fun inner path =>
    apart before earlier after later inner (reached.trans path) (reached'.trans path)

theorem CyclesApart.sublists {first second fewer others : List Operation}
    (apart : document.CyclesApart first second) (left : fewer ⊆ first) (right : others ⊆ second) :
    document.CyclesApart fewer others :=
  fun before earlier after later => apart before (left earlier) after (right later)

theorem CyclesApart.symm {first second : List Operation}
    (apart : document.CyclesApart first second) : document.CyclesApart second first :=
  fun before earlier after later name reached reached' =>
    apart after later before earlier name reached' reached

theorem SpreadAcyclic.cyclesApart {first second : List Operation}
    (acyclic : document.SpreadAcyclic) (left : first ⊆ document.operations) :
    document.CyclesApart first second :=
  fun before earlier _ _ name reached _ _ outward inward =>
    absurd (outward.trans inward) (acyclic before (left earlier) name reached)

end Document

namespace Measure

theorem foldOperations_agree (inside : String → Prop) (operations : List Operation)
    (within : ∀ operation ∈ operations, ∀ name, document.Reaches operation.selectionSet name →
      inside name) {known others : Known V} (settled : m.Settled document known)
    (settled' : m.Settled document others)
    (agree : ∀ name, inside name → ¬ document.Steady name →
      known.lookup name = others.lookup name) :
    m.foldOperations document known operations = m.foldOperations document others operations ∧
      m.Settled document (m.knownAfter document known operations) := by
  induction operations generalizing known others with
  | nil => exact ⟨rfl, settled⟩
  | cons operation rest ih =>
    have walks : Walk.Alongside m document inside [] [] known others operation.selectionSet :=
      ⟨within operation List.mem_cons_self, fun _ _ => .rfl, .start settled, .start settled', agree⟩
    have agreed := Walk.traverse_agree [] operation.selectionSet walks m.empty
    simp only [foldOperations, knownAfter, foldOperation_eq_traverse, agreed.value]
    obtain ⟨values, later⟩ := ih (fun other member => within other (List.mem_cons_of_mem _ member))
      agreed.alike.settled agreed.alike.settled' agreed.alike.agree
    exact ⟨congrArg _ values, later⟩

theorem lookup_knownAfter_of_not_reached {known : Known V} {name : String}
    (operations : List Operation)
    (away : ∀ operation ∈ operations, ¬ document.Reaches operation.selectionSet name) :
    (m.knownAfter document known operations).lookup name = known.lookup name := by
  induction operations generalizing known with
  | nil => rfl
  | cons operation rest ih =>
    rw [knownAfter, ih (fun other member => away other (List.mem_cons_of_mem _ member)),
      foldOperation_eq_traverse]
    exact Walk.lookup_traverse_of_not_reached _ _ _ _ (away operation List.mem_cons_self)

theorem foldOperations_knownAfter {first second : List Operation}
    (apart : document.CyclesApart first second) :
    m.foldOperations document (m.knownAfter document [] first) second =
      m.foldOperations document [] second := by
  have settled : m.Settled document (m.knownAfter document [] first) :=
    (foldOperations_agree (fun _ => True) first (fun _ _ _ _ => trivial) .nil .nil
      (fun _ _ _ => rfl)).2
  refine (foldOperations_agree
    (fun name => ∃ after ∈ second, document.Reaches after.selectionSet name) second
    (fun after later name reached => ⟨after, later, reached⟩) settled .nil ?_).1
  rintro name ⟨after, later, reached⟩ unsteady
  exact lookup_knownAfter_of_not_reached first fun before earlier reached' =>
    unsteady (apart.steady earlier later reached' reached)

theorem foldOperations_apart {first second : List Operation}
    (apart : document.CyclesApart first second) :
    m.foldOperations document [] (first ++ second) =
      m.foldOperations document [] first ++ m.foldOperations document [] second := by
  rw [foldOperations_append, foldOperations_knownAfter apart]

theorem foldOperations_pairwise {operations : List Operation}
    (apart : operations.Pairwise fun before after => document.CyclesApart [before] [after]) :
    m.foldOperations document [] operations =
      operations.map fun operation => (m.foldOperation document [] operation).1 := by
  induction operations with
  | nil => rfl
  | cons operation rest ih =>
    obtain ⟨others, apart⟩ := List.pairwise_cons.1 apart
    have head : document.CyclesApart [operation] rest := fun before earlier after later =>
      others after later before earlier after List.mem_cons_self
    rw [List.map_cons, ← ih apart]
    exact foldOperations_apart head

theorem foldOperations_acyclic (acyclic : document.SpreadAcyclic) {operations : List Operation}
    (own : operations ⊆ document.operations) :
    m.foldOperations document [] operations =
      operations.map fun operation => (m.foldOperation document [] operation).1 := by
  apply foldOperations_pairwise
  rw [List.pairwise_iff_forall_sublist]
  intro before after both
  have earlier : before ∈ document.operations := own (both.subset List.mem_cons_self)
  exact acyclic.cyclesApart (List.cons_subset.2 ⟨earlier, List.nil_subset _⟩)

/-- Fragments that spread each other are all that makes operations depend on those before. -/
theorem foldOperations_append_iff (document : Document) :
    (∀ (V : Type) (m : Measure V) (first second : List Operation),
      m.foldOperations document [] (first ++ second) =
        m.foldOperations document [] first ++ m.foldOperations document [] second) ↔
      ∀ name, document.OnOwnCycleOnly name := by
  constructor
  · intro independent one other inward outward
    by_contra different
    have values := independent Bool (comesThrough one) [spreading one] [spreading other]
    simp only [foldOperations, List.cons_append, List.nil_append, List.cons.injEq, and_true,
      true_and] at values
    have alone := foldOperation_spreading_alone outward inward
    rw [← values, foldOperation_spreading_later different outward inward] at alone
    cases alone
  · intro apart V m first second
    exact foldOperations_apart fun _ _ _ _ name _ _ => apart name

end Measure

end QueryShield
