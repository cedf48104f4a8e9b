import Mathlib
import QueryShield.Proofs.Matching
import QueryShield.Proofs.ReorderedDocuments
import QueryShield.Proofs.TopLevel

namespace QueryShield

open Relation

namespace Document

variable {document other : Document} {selections others : List Selection}

/-- Every name stands for the same fragment, reordered. -/
def SameFragments (document other : Document) : Prop :=
  ∀ name, Option.Rel FragmentDefinition.Reordered (document.fragment? name) (other.fragment? name)

theorem fragment?_eq_some_iff (distinct : (document.fragments.map FragmentDefinition.name).Nodup)
    {name : String} {definition : FragmentDefinition} :
    document.fragment? name = some definition ↔
      definition ∈ document.fragments ∧ definition.name = name := by
  refine ⟨fragment?_mem, ?_⟩
  rintro ⟨member, rfl⟩
  -- Names that are distinct make the first definition the only one.
  cases found : document.fragment? definition.name with
  | none =>
    have absent := List.find?_eq_none.1 found definition member
    simp at absent
  | some first =>
    obtain ⟨listed, same⟩ := fragment?_mem found
    rw [List.inj_on_of_nodup_map distinct listed member same]

theorem Reordered.names_perm (reordered : document.Reordered other) :
    (document.fragments.map FragmentDefinition.name).Perm
      (other.fragments.map FragmentDefinition.name) := by
  apply perm_map_of_rel
  exact reordered.fragments.mono fun _ _ _ _ same => same.name

theorem Reordered.sameFragments (reordered : document.Reordered other)
    (distinct : (document.fragments.map FragmentDefinition.name).Nodup) :
    document.SameFragments other := by
  intro name
  have distinct' := reordered.names_perm.nodup_iff.1 distinct
  cases found : document.fragment? name with
  | some definition =>
    obtain ⟨member, rfl⟩ := fragment?_mem found
    obtain ⟨partner, listed, same⟩ := Multiset.exists_mem_of_rel_of_mem reordered.fragments member
    rw [(fragment?_eq_some_iff distinct').2 ⟨listed, same.name.symm⟩]
    exact .some same
  | none =>
    cases found' : other.fragment? name with
    | none => exact .none
    | some partner =>
      obtain ⟨listed, rfl⟩ := fragment?_mem found'
      obtain ⟨definition, member, same⟩ :=
        Multiset.exists_mem_of_rel_of_mem (Multiset.rel_flip.2 reordered.fragments) listed
      rw [(fragment?_eq_some_iff distinct).2 ⟨member, same.name⟩] at found
      cases found

theorem SameFragments.symm (same : document.SameFragments other) :
    other.SameFragments document := by
  intro name
  have both := same name
  generalize document.fragment? name = definition at both ⊢
  generalize other.fragment? name = partner at both ⊢
  cases both with
  | some reordered => exact .some reordered.symm
  | none => exact .none

theorem SameFragments.partner (same : document.SameFragments other) {name : String}
    {definition : FragmentDefinition} (found : document.fragment? name = some definition) :
    ∃ partner, other.fragment? name = some partner ∧ definition.Reordered partner :=
  rel_some_iff.1 (found ▸ same name)

theorem SameFragments.missing (same : document.SameFragments other) {name : String}
    (missing : document.fragment? name = none) : other.fragment? name = none :=
  rel_none_iff.1 (missing ▸ same name)

theorem SameFragments.spreads_le (same : document.SameFragments other) :
    document.Spreads ≤ other.Spreads := by
  rintro outer inner ⟨definition, found, spread⟩
  obtain ⟨partner, found', reordered⟩ := same.partner found
  exact ⟨partner, found', reordered.selectionSet.spreadNamesIn_subset spread⟩

theorem SameFragments.cycleFree (same : document.SameFragments other)
    (reordered : Selection.SetReordered selections others) (free : document.CycleFree selections) :
    other.CycleFree others :=
  free.of_fewer same.symm.spreads_le reordered.symm.spreadNamesIn_subset

theorem Reordered.spreadAcyclic (reordered : document.Reordered other)
    (same : document.SameFragments other) (acyclic : document.SpreadAcyclic) :
    other.SpreadAcyclic := by
  intro partner listed
  obtain ⟨operation, member, of⟩ :=
    Multiset.exists_mem_of_rel_of_mem (Multiset.rel_flip.2 reordered.operations) listed
  exact same.cycleFree of.selectionSet (acyclic operation member)

theorem Reordered.symm (reordered : document.Reordered other) : other.Reordered document where
  sourceLength := reordered.sourceLength.symm
  variableValues := reordered.variableValues.symm
  operations := rel_symm Operation.Reordered.symm reordered.operations
  fragments := rel_symm FragmentDefinition.Reordered.symm reordered.fragments

theorem TopLevel.reordered (same : document.SameFragments other)
    (reordered : Selection.SetReordered selections others) {avoided : List String}
    {selection : Selection} (top : document.TopLevel avoided selections selection) :
    ∃ partner, other.TopLevel avoided others partner ∧ selection.Reordered partner := by
  induction top with
  | own member =>
    obtain ⟨partner, listed, of⟩ := Multiset.exists_mem_of_rel_of_mem reordered member
    exact ⟨partner, .own listed, of⟩
  | inInlineFragment _ member ih =>
    obtain ⟨around, top, of⟩ := ih
    cases of with
    | inlineFragment _ inner =>
      obtain ⟨partner, listed, of⟩ := Multiset.exists_mem_of_rel_of_mem inner member
      exact ⟨partner, top.inInlineFragment listed, of⟩
  | inSpread _ followed found member ih =>
    obtain ⟨around, top, of⟩ := ih
    cases of with
    | fragmentSpread spread =>
      obtain ⟨definition, found', body⟩ := same.partner found
      obtain ⟨partner, listed, of⟩ := Multiset.exists_mem_of_rel_of_mem body.selectionSet member
      rw [spread.name] at followed found'
      exact ⟨partner, top.inSpread followed found' listed, of⟩

theorem TopField.reordered (same : document.SameFragments other)
    (reordered : Selection.SetReordered selections others) {avoided : List String} {field : Field}
    (top : document.TopField avoided selections field) :
    ∃ partner, other.TopField avoided others partner ∧ field.name = partner.name := by
  obtain ⟨selectionSet, top⟩ := top
  obtain ⟨partner, top, of⟩ := top.reordered same reordered
  cases of with
  | @field _ node _ inner alike _ => exact ⟨node, ⟨inner, top⟩, alike.name⟩

end Document

theorem Introspection.OnlyIntrospection.reordered {document other : Document}
    {selections others : List Selection} {avoided : List String} {sawField : Bool}
    (only : OnlyIntrospection document avoided selections sawField)
    (same : document.SameFragments other)
    (reordered : Selection.SetReordered selections others) :
    OnlyIntrospection other avoided others sawField := by
  refine ⟨fun field top => ?_, only.2.imp_right ?_⟩
  · obtain ⟨partner, top, name⟩ := top.reordered same.symm reordered.symm
    rw [name]
    exact only.1 partner top
  · rintro ⟨field, top⟩
    obtain ⟨partner, top, -⟩ := top.reordered same reordered
    exact ⟨partner, top⟩

theorem Operation.Reordered.isExempt_eq {document other : Document} {operation partner : Operation}
    (reordered : operation.Reordered partner) (same : document.SameFragments other)
    (ignored : Bool) : operation.isExempt document ignored = partner.isExempt other ignored := by
  have asks : operation.isIntrospectionOnly document = partner.isIntrospectionOnly other := by
    rw [Bool.eq_iff_iff, Operation.isIntrospectionOnly_iff, Operation.isIntrospectionOnly_iff]
    exact ⟨fun only => only.reordered same reordered.selectionSet,
      fun only => only.reordered same.symm reordered.symm.selectionSet⟩
  rw [Operation.isExempt, Operation.isExempt, asks]

end QueryShield
