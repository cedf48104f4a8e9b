import Mathlib
import QueryShield.Proofs.ReorderedMeasures
import QueryShield.Proofs.Verdict

namespace QueryShield

theorem Policy.treeMeasures_reordered (policy : Policy) {document other : Document}
    (reordered : document.Reordered other) (same : document.SameFragments other)
    (acyclic : document.SpreadAcyclic) :
    ∀ measured ∈ policy.treeMeasures, measured document = measured other := by
  intro measured member
  simp only [treeMeasures, List.mem_cons, List.not_mem_nil, or_false] at member
  rcases member with rfl | rfl | rfl | rfl
  · have unordered := policy.cost.measure_unordered other.variableValues
    rw [CostLimit.cost, CostLimit.cost, reordered.variableValues]
    exact Measure.largest_reordered rfl unordered reordered same acyclic _
  · exact Measure.largest_reordered rfl AliasLimit.measure_unordered reordered same acyclic _
  · exact Measure.largest_reordered rfl policy.directives.measure_unordered reordered same acyclic _
  · exact Measure.largest_reordered rfl DepthLimit.measure_unordered reordered same acyclic _

/-- Every accepted policy finds the same wrong with a document in whatever order it is written. -/
theorem Policy.validate_reordered {policy : Policy} {protection : Protection}
    (accepted : policy.protection = .ok protection) {document other : Document}
    (acyclic : document.SpreadAcyclic)
    (distinct : (document.fragments.map FragmentDefinition.name).Nodup)
    (reordered : document.Reordered other) :
    protection.validate document = protection.validate other := by
  have same := reordered.sameFragments distinct
  apply Policy.validate_congr accepted reordered.sourceLength
  exact policy.treeMeasures_reordered reordered same acyclic

def userName : FragmentDefinition where
  name := "Name"
  typeCondition := "User"
  selectionSet := [.field { name := "name", aliasName := some "label" } []]

def pageSize : Argument where
  name := "first"
  value := .int 3

def pageStart : Argument where
  name := "after"
  value := .string "c2"

def userPage : FragmentDefinition where
  name := "Users"
  typeCondition := "Query"
  directives := ["cached", "live"]
  selectionSet := [.field { name := "users", arguments := [pageSize, pageStart], isList := true }
    [.fragmentSpread { name := "Name", directives := ["include", "skip"] },
      .field { name := "id", aliasName := some "key" } []]]

def shuffledPage : FragmentDefinition where
  name := "Users"
  typeCondition := "Query"
  directives := ["live", "cached"]
  selectionSet := [.field { name := "users", arguments := [pageStart, pageSize], isList := true }
    [.field { name := "id", aliasName := some "key" } [],
      .fragmentSpread { name := "Name", directives := ["skip", "include"] }]]

def listUsers : Operation where
  name := some "List"
  selectionSet := [.fragmentSpread { name := "Users" },
    .field { name := "viewer", aliasName := some "me" } [.fragmentSpread { name := "Name" }]]

def shuffledUsers : Operation where
  name := some "List"
  selectionSet := [
    .field { name := "viewer", aliasName := some "me" } [.fragmentSpread { name := "Name" }],
    .fragmentSpread { name := "Users" }]

def typeQuery : Operation where
  selectionSet := [.field { name := "__typename" } []]

def userList : Document where
  sourceLength := 180
  operations := [listUsers, typeQuery]
  fragments := [userPage, userName]

def shuffledList : Document where
  sourceLength := 180
  operations := [typeQuery, shuffledUsers]
  fragments := [userName, shuffledPage]

theorem userList_acyclic : userList.SpreadAcyclic :=
  Document.spreadAcyclic_of_rank (fun name => if name = "Users" then 1 else 0) (by decide)

theorem rel_swap {α : Type} {related : α → α → Prop} {a b c d : α} (first : related a c)
    (second : related b d) : Multiset.Rel related ↑[a, b] ↑[d, c] := by
  have swapped : (↑[d, c] : Multiset α) = ↑[c, d] := Multiset.coe_eq_coe.2 (.swap c d [])
  rw [swapped]
  exact .cons first (.cons second .zero)

theorem userPage_reordered : userPage.Reordered shuffledPage where
  name := rfl
  typeCondition := rfl
  directives := .swap "live" "cached" []
  selectionSet := by
    have node : Selection.SetReordered
        [.fragmentSpread { name := "Name", directives := ["include", "skip"] },
          .field { name := "id", aliasName := some "key" } []]
        [.field { name := "id", aliasName := some "key" } [],
          .fragmentSpread { name := "Name", directives := ["skip", "include"] }] :=
      rel_swap (.fragmentSpread ⟨rfl, .swap "skip" "include" []⟩) (.refl _)
    exact .cons (.field ⟨rfl, rfl, rfl, .refl _,
      .inr ⟨by decide, .swap pageStart pageSize []⟩⟩ node) .zero

theorem userList_reordered : userList.Reordered shuffledList where
  sourceLength := rfl
  variableValues := rfl
  operations := rel_swap ⟨rfl, rfl, .refl _, .of_perm (.swap _ _ [])⟩ ⟨rfl, rfl, .refl _, .refl _⟩
  fragments := rel_swap userPage_reordered ⟨rfl, rfl, .refl _, .refl _⟩

theorem validate_shuffledList :
    (Protection.ofGuards strictPolicy.guards).validate shuffledList =
      [.aliases 4 2, .directives 4 3] := by
  rw [← Policy.validate_reordered strictPolicy_accepted userList_acyclic (by decide)
    userList_reordered]
  cbv

end QueryShield
