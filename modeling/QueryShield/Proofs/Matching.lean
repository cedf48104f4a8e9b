import QueryShield.Proofs.MatchedDocuments
import QueryShield.Proofs.Traversal

namespace QueryShield

variable {matching : Matching} {document other : Document} {selections others : List Selection}

variable {V W : Type} {related : V → W → Prop} {m : Measure V} {n : Measure W}

/-- Nodes that stand for each other keep the relation of two values. -/
structure Measure.RelatedAcross (matching : Matching) (related : V → W → Prop) (m : Measure V)
    (n : Measure W) : Prop where
  empty : related m.empty n.empty
  combine : ∀ {total sum value partner}, related total sum → related value partner →
    related (m.combine total value) (n.combine sum partner)
  field : ∀ {node other selectionSet others value partner}, matching.field node other →
    Selection.SetMatched matching selectionSet others → related value partner →
    related (m.field node selectionSet value) (n.field other others partner)
  inlineFragment : ∀ {node other selectionSet others value partner},
    matching.inlineFragment node other → Selection.SetMatched matching selectionSet others →
    related value partner →
    related (m.inlineFragment node selectionSet value) (n.inlineFragment other others partner)
  fragmentDefinition : ∀ {definition other value partner},
    FragmentDefinition.Matched matching definition other → related value partner →
    related (m.fragmentDefinition definition value) (n.fragmentDefinition other partner)
  fragmentSpread : ∀ {spread other value partner}, matching.fragmentSpread spread other →
    related value partner →
    related (m.fragmentSpread spread value) (n.fragmentSpread other partner)
  operation : ∀ {operation other value partner}, Operation.Matched matching operation other →
    related value partner →
    related (m.operation operation value) (n.operation other partner)

def KnownMatched (matching : Matching) (related : V → W → Prop) : Known V → Known W → Prop :=
  List.Forall₂ fun entry partner => entry.1 ∈ matching.followed ∧
    partner.1 = matching.rename entry.1 ∧ related entry.2 partner.2

theorem KnownMatched.lookup {known : Known V} {partners : Known W}
    (same : KnownMatched matching related known partners)
    (distinct : Set.InjOn matching.rename matching.followed) {name : String}
    (followed : name ∈ matching.followed) :
    Option.Rel related (known.lookup name) (partners.lookup (matching.rename name)) := by
  induction same with
  | nil => exact .none
  | @cons entry partner known partners first _ ih =>
    obtain ⟨key, value⟩ := entry
    obtain ⟨partnerKey, partnerValue⟩ := partner
    obtain ⟨keyFollowed, rfl, pair⟩ := first
    by_cases here : name = key
    · subst here
      rw [List.lookup_cons_self, List.lookup_cons_self]
      exact .some pair
    · have apart : matching.rename name ≠ matching.rename key := fun equal =>
        here (distinct followed keyFollowed equal)
      rw [Walk.lookup_cons_of_ne here, Walk.lookup_cons_of_ne apart]
      exact ih

namespace Walk

theorem traverse_matched (matched : document.Matched matching other)
    (across : Measure.RelatedAcross matching related m n) (inProgress : List String)
    (selections : List Selection) :
    ∀ {others : List Selection} {known : Known V} {partners : Known W} {total : V} {sum : W},
    Selection.SetMatched matching selections others →
    (∀ name ∈ inProgress, name ∈ matching.followed) →
    KnownMatched matching related known partners → related total sum →
    related (traverse m document inProgress known total selections).1
        (traverse n other (inProgress.map matching.rename) partners sum others).1 ∧
      KnownMatched matching related (traverse m document inProgress known total selections).2
        (traverse n other (inProgress.map matching.rename) partners sum others).2 := by
  -- both sides take the same branch at every spread: what is known and what is in progress on the
  -- right are the names on the left, renamed
  induction inProgress, selections using traversal_induction document with
  | nil inProgress =>
    intro others known partners total sum set within same pair
    cases set
    simp only [traverse]
    exact ⟨pair, same⟩
  | field inProgress field selectionSet rest ihInner ihRest =>
    intro others known partners total sum set within same pair
    cases set with
    | field node inner further =>
      obtain ⟨children, same⟩ := ihInner inner within same across.empty
      rw [traverse, traverse]
      exact ihRest further within same (across.combine pair (across.field node inner children))
  | inlineFragment inProgress fragment selectionSet rest ihInner ihRest =>
    intro others known partners total sum set within same pair
    cases set with
    | inlineFragment node inner further =>
      obtain ⟨children, same⟩ := ihInner inner within same across.empty
      rw [traverse, traverse]
      exact ihRest further within same
        (across.combine pair (across.inlineFragment node inner children))
  | spread inProgress spread rest ihBody ihRest =>
    intro others known partners total sum set within same pair
    cases set with
    | @fragmentSpread _ partner _ rest' node followed renamed further =>
      have absent := across.combine pair (across.fragmentSpread node across.empty)
      have lookups := same.lookup matched.distinct followed
      have member := matched.mem_map_rename within followed
      rw [← renamed] at lookups member
      cases look : known.lookup spread.name with
      | some value =>
        rw [look] at lookups
        obtain ⟨value', look', kept⟩ := rel_some_iff.1 lookups
        rw [traverse_known look, traverse_known look']
        exact ihRest further within same
          (across.combine pair (across.fragmentSpread node kept))
      | none =>
        rw [look] at lookups
        have look' := rel_none_iff.1 lookups
        cases found : document.fragment? spread.name with
        | none =>
          have missing := matched.missing followed found
          rw [← renamed] at missing
          rw [traverse_missing look found, traverse_missing look' missing]
          exact ihRest further within same absent
        | some definition =>
          obtain ⟨body, found', definitions⟩ := matched.partner followed found
          rw [← renamed] at found'
          by_cases cyclic : spread.name ∈ inProgress
          · rw [traverse_cyclic look cyclic, traverse_cyclic look' (member.2 cyclic)]
            exact ihRest further within same absent
          · obtain ⟨children, same⟩ := ihBody definition found cyclic definitions.selectionSet
              (List.forall_mem_cons.2 ⟨followed, within⟩) same across.empty
            rw [List.map_cons, ← renamed] at children same
            have value := across.fragmentDefinition definitions children
            rw [traverse_entered look found cyclic,
              traverse_entered look' found' (mt member.1 cyclic)]
            exact ihRest further within (.cons ⟨followed, renamed, value⟩ same)
              (across.combine pair (across.fragmentSpread node value))

end Walk

namespace Measure

theorem foldOperation_matched (matched : document.Matched matching other)
    (across : RelatedAcross matching related m n) {operation partner : Operation}
    (node : operation.Matched matching partner) {known : Known V} {partners : Known W}
    (same : KnownMatched matching related known partners) :
    related (m.foldOperation document known operation).1
        (n.foldOperation other partners partner).1 ∧
      KnownMatched matching related (m.foldOperation document known operation).2
        (n.foldOperation other partners partner).2 := by
  rw [foldOperation_eq_traverse, foldOperation_eq_traverse]
  obtain ⟨total, same⟩ :=
    Walk.traverse_matched matched across [] _ node.selectionSet nofun same across.empty
  exact ⟨across.operation node total, same⟩

theorem foldOperations_matched (matched : document.Matched matching other)
    (across : RelatedAcross matching related m n) {operations counterparts : List Operation}
    (nodes : List.Forall₂ (Operation.Matched matching) operations counterparts) :
    ∀ {known : Known V} {partners : Known W}, KnownMatched matching related known partners →
    List.Forall₂ related (m.foldOperations document known operations)
      (n.foldOperations other partners counterparts) := by
  induction nodes with
  | nil =>
    intro known partners same
    exact .nil
  | cons node _ ih =>
    intro known partners same
    obtain ⟨value, same⟩ := foldOperation_matched matched across node same
    exact .cons value (ih same)

/-- What is exempt on one side has to be exempt on the other. -/
theorem largest_matched [Max V] [Max W] (matched : document.Matched matching other)
    (across : RelatedAcross matching related m n)
    (larger : ∀ {a b x y}, related a b → related x y → related (max a x) (max b y))
    {isExempt isExempt' : Operation → Bool}
    (exempt : ∀ {operation partner}, Operation.Matched matching operation partner →
      isExempt operation = isExempt' partner) :
    related (m.largest document isExempt) (n.largest other isExempt') := by
  have measured : List.Forall₂ (Operation.Matched matching)
      (document.operations.filter fun operation => !isExempt operation)
      (other.operations.filter fun operation => !isExempt' operation) := by
    refine List.rel_filter (fun operation partner node => ?_) matched.operations
    simp only [exempt node]
  have values := foldOperations_matched matched across measured .nil
  apply List.rel_foldl (P := related) (R := related) ?_ across.empty values
  intro _ _ pair _ _ value
  exact larger pair value

end Measure

end QueryShield
