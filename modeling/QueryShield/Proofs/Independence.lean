import Mathlib
import QueryShield.Proofs.LargestValues

namespace QueryShield

/-- What is measured of a document is the larger of what is measured of two parts of its operations
unless both parts come to fragments on a common cycle. So the order does not matter where no two
operations do. In any case operations that follow do not lower the measure. Without cycles of
several fragments all this holds for any operations, and with one it fails for some measure. -/
theorem Policy.measured_operations (policy : Policy) (document : Document) :
    (∀ measured ∈ policy.treeMeasures,
      (∀ first second, document.operations = first ++ second →
        document.CyclesApart first second → measured document =
          max (measured (document.withOperations first))
            (measured (document.withOperations second))) ∧
      (∀ others, document.operations.Perm others →
        (document.operations.Pairwise fun before after =>
          document.CyclesApart [before] [after]) →
        measured (document.withOperations others) = measured document) ∧
      ∀ first second, document.operations = first ++ second →
        measured (document.withOperations first) ≤ measured document) ∧
    ((∀ (V : Type) (m : Measure V) (first second : List Operation),
      m.foldOperations document [] (first ++ second) =
        m.foldOperations document [] first ++ m.foldOperations document [] second) ↔
      ∀ name, document.OnOwnCycleOnly name) := by
  refine ⟨?_, Measure.foldOperations_append_iff document⟩
  intro measured member
  obtain ⟨m, ignored, zero, largest⟩ := policy.treeMeasures_largest measured member
  have whole : document = document.withOperations document.operations := rfl
  refine ⟨fun first second split apart => ?_, fun others reordered apart => ?_,
    fun first second split => ?_⟩
  · rw [whole, split]
    simp only [largest]
    exact Measure.largest_append (zero _) apart
  · rw [largest, largest]
    exact Measure.largest_perm reordered apart
  · rw [whole, split]
    simp only [largest]
    exact Measure.largest_le_append (zero _) first second

def selfSpread : FragmentDefinition where
  name := "Loop"
  typeCondition := "Query"
  selectionSet := [.field { name := "loop", aliasName := some "key" }
    [.fragmentSpread { name := "Loop" }, .fragmentSpread { name := "Leaf" }]]

def leaf : FragmentDefinition where
  name := "Leaf"
  typeCondition := "Query"
  selectionSet := [.field { name := "leaf", aliasName := some "other" } []]

def loopOperation : Operation where
  selectionSet := [.fragmentSpread { name := "Loop" }]

def leafOperation : Operation where
  selectionSet := [.fragmentSpread { name := "Leaf" }, .fragmentSpread { name := "Loop" }]

def selfSpreading : Document where
  sourceLength := 0
  operations := [loopOperation, leafOperation]
  fragments := [selfSpread, leaf]

theorem selfSpreading_apart (first second : List Operation) :
    selfSpreading.CyclesApart first second := by
  intro _ _ _ _ name _ _
  refine Document.onOwnCycleOnly_of_rank (fun name => if name = "Loop" then 1 else 0) ?_ name
  rintro outer inner ⟨definition, found, spread⟩
  obtain ⟨member, rfl⟩ := Document.fragment?_mem found
  simp only [selfSpreading, List.mem_cons, List.not_mem_nil, or_false] at member
  rcases member with rfl | rfl
  · have either : inner = "Loop" ∨ inner = "Leaf" := by
      simpa [selfSpread, Selection.spreadNamesIn, Selection.spreadNames] using spread
    rcases either with rfl | rfl <;> decide
  · simp [leaf, Selection.spreadNamesIn, Selection.spreadNames] at spread

def defaultCost : Document → UInt64 := ({} : Policy).cost.cost

theorem measured_selfSpreading :
    defaultCost selfSpreading = max (defaultCost (selfSpreading.withOperations [loopOperation]))
      (defaultCost (selfSpreading.withOperations [leafOperation])) ∧
    defaultCost (selfSpreading.withOperations [leafOperation, loopOperation]) =
      defaultCost selfSpreading ∧
    defaultCost (selfSpreading.withOperations [loopOperation]) ≤ defaultCost selfSpreading := by
  have member : defaultCost ∈ ({} : Policy).treeMeasures := List.mem_cons_self
  obtain ⟨largest, reordered, kept⟩ :=
    (Policy.measured_operations {} selfSpreading).1 defaultCost member
  have apart := selfSpreading_apart
  refine ⟨largest [loopOperation] [leafOperation] rfl (apart _ _), ?_,
    kept [loopOperation] [leafOperation] rfl⟩
  exact reordered [leafOperation, loopOperation] (.swap _ _ _) (List.pairwise_pair.2 (apart _ _))

def mutualSpread (name other : String) : FragmentDefinition where
  name := name
  typeCondition := "Query"
  selectionSet := [.field
    { name := name.toLower, aliasName := some "key", directives := ["include"] }
    [.fragmentSpread { name := other }]]

def entersAtA : Operation where
  selectionSet := [.fragmentSpread { name := "A" }]

def entersAtB : Operation where
  selectionSet := [.field { name := "c" }
    [.fragmentSpread { name := "B" }, .fragmentSpread { name := "B" }]]

def twoWayCycle : Document where
  sourceLength := 0
  operations := [entersAtA, entersAtB]
  fragments := [mutualSpread "A" "B", mutualSpread "B" "A"]

/-- Folding the first operation keeps a value of the fragment B in which its spread of A has no
content, and the second operation uses it. -/
theorem measured_twoWayCycle :
    ({} : Policy).treeMeasures.map (fun measured => (measured twoWayCycle,
      max (measured (twoWayCycle.withOperations [entersAtA]))
        (measured (twoWayCycle.withOperations [entersAtB])),
      measured (twoWayCycle.withOperations [entersAtB, entersAtA]))) =
    [(6, 10, 10), (2, 4, 4), (2, 4, 4), (2, 3, 3)] := by
  cbv

end QueryShield
