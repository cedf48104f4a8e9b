import Mathlib.Data.List.Forall2
import QueryShield.Proofs.NodeMaps

namespace QueryShield

variable {V W : Type}

/-- Every kind of node keeps the relation of two values. -/
structure Measure.Related (related : V → W → Prop) (m : Measure V) (n : Measure W) : Prop where
  empty : related m.empty n.empty
  combine : ∀ {total sum value other}, related total sum → related value other →
    related (m.combine total value) (n.combine sum other)
  field : ∀ field selectionSet {value other}, related value other →
    related (m.field field selectionSet value) (n.field field selectionSet other)
  inlineFragment : ∀ fragment selectionSet {value other}, related value other →
    related (m.inlineFragment fragment selectionSet value)
      (n.inlineFragment fragment selectionSet other)
  fragmentDefinition : ∀ definition {value other}, related value other →
    related (m.fragmentDefinition definition value) (n.fragmentDefinition definition other)
  fragmentSpread : ∀ spread {value other}, related value other →
    related (m.fragmentSpread spread value) (n.fragmentSpread spread other)
  operation : ∀ operation {value other}, related value other →
    related (m.operation operation value) (n.operation operation other)

def KnownRelated (related : V → W → Prop) : Known V → Known W → Prop :=
  List.Forall₂ fun entry other => entry.1 = other.1 ∧ related entry.2 other.2

variable {related : V → W → Prop} {m : Measure V} {n : Measure W} {document : Document}

theorem knownMatched_same : KnownMatched .same related = KnownRelated related := by
  funext known others
  unfold KnownMatched KnownRelated
  congr! 3 with entry other
  simp [Matching.same, Matching.ofFields, eq_comm]

theorem Measure.Related.across (relates : m.Related related n) :
    Measure.RelatedAcross .same related m n where
  empty := relates.empty
  combine := relates.combine
  field := fun {node other _ _ _ _} same set pair => by
    obtain rfl : node = other := same
    rw [← set.eq_of_same]
    exact relates.field _ _ pair
  inlineFragment := fun {node other _ _ _ _} same set pair => by
    obtain rfl : node = other := same
    rw [← set.eq_of_same]
    exact relates.inlineFragment _ _ pair
  fragmentDefinition := fun same pair => by
    rw [← same.eq_of_same]
    exact relates.fragmentDefinition _ pair
  fragmentSpread := fun {spread other _ _} same pair => by
    obtain rfl : spread = other := same
    exact relates.fragmentSpread _ pair
  operation := fun same pair => by
    rw [← same.eq_of_same]
    exact relates.operation _ pair

namespace Measure

theorem foldOperation_related (relates : m.Related related n) {known : Known V} {others : Known W}
    (same : KnownRelated related known others) (operation : Operation) :
    related (m.foldOperation document known operation).1
        (n.foldOperation document others operation).1 ∧
      KnownRelated related (m.foldOperation document known operation).2
        (n.foldOperation document others operation).2 := by
  rw [← knownMatched_same] at same ⊢
  have node : operation.Matched .same operation := Operation.matched_same fun _ _ => trivial
  exact foldOperation_matched document.matched_same relates.across node same

theorem largest_related [Max V] [Max W] (relates : m.Related related n)
    (larger : ∀ {a b x y}, related a b → related x y → related (max a x) (max b y))
    (document : Document) (isExempt : Operation → Bool) :
    related (m.largest document isExempt) (n.largest document isExempt) :=
  largest_matched document.matched_same relates.across larger fun same =>
    congrArg isExempt same.eq_of_same

end Measure

end QueryShield
