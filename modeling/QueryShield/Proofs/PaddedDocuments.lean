import Mathlib
import QueryShield.Proofs.MatchedDocuments
import QueryShield.Proofs.Spreads

namespace QueryShield

open Relation

/-- One selection more in the set or in a set below. Where leaves are kept, none of the fields
without selections gets one. -/
inductive Selection.SetPadded (keepsLeaves : Bool) : List Selection → List Selection → Prop where
  | here (added : Selection) (rest : List Selection) :
    SetPadded keepsLeaves rest (added :: rest)
  | later (selection : Selection) {rest padded : List Selection}
    (further : SetPadded keepsLeaves rest padded) :
    SetPadded keepsLeaves (selection :: rest) (selection :: padded)
  | inField (field : Field) (rest : List Selection) {selectionSet padded : List Selection}
    (keeps : keepsLeaves = true → selectionSet ≠ [])
    (inner : SetPadded keepsLeaves selectionSet padded) :
    SetPadded keepsLeaves (.field field selectionSet :: rest) (.field field padded :: rest)
  | inInlineFragment (fragment : InlineFragment) (rest : List Selection)
    {selectionSet padded : List Selection} (inner : SetPadded keepsLeaves selectionSet padded) :
    SetPadded keepsLeaves (.inlineFragment fragment selectionSet :: rest)
      (.inlineFragment fragment padded :: rest)

inductive Document.Padded (keepsLeaves : Bool) (document : Document) : Document → Prop where
  | inOperation {before after : List Operation} {operation : Operation}
    {selectionSet : List Selection} (listed : document.operations = before ++ operation :: after)
    (padded : Selection.SetPadded keepsLeaves operation.selectionSet selectionSet) :
    Padded keepsLeaves document
      { document with operations := before ++ { operation with selectionSet } :: after }
  | inFragment {before after : List FragmentDefinition} {definition : FragmentDefinition}
    {selectionSet : List Selection} (listed : document.fragments = before ++ definition :: after)
    (padded : Selection.SetPadded keepsLeaves definition.selectionSet selectionSet) :
    Padded keepsLeaves document
      { document with fragments := before ++ { definition with selectionSet } :: after }

variable {keepsLeaves : Bool} {selections others : List Selection}

abbrev Selection.SetGrown (keepsLeaves : Bool) : List Selection → List Selection → Prop :=
  ReflGen (Selection.SetPadded keepsLeaves)

namespace Selection

theorem SetPadded.ne_nil (padded : SetPadded keepsLeaves selections others) : others ≠ [] := by
  cases padded <;> exact List.cons_ne_nil _ _

theorem SetPadded.spreadNamesIn_subset (padded : SetPadded keepsLeaves selections others) :
    spreadNamesIn selections ⊆ spreadNamesIn others := by
  induction padded with
  | here added rest => exact List.subset_append_right _ _
  | later selection _ ih =>
    exact fun _ spread => List.mem_append.2 ((List.mem_append.1 spread).imp_right (@ih _))
  | inField field rest _ _ ih =>
    exact fun _ spread => List.mem_append.2 ((List.mem_append.1 spread).imp_left (@ih _))
  | inInlineFragment fragment rest _ ih =>
    exact fun _ spread => List.mem_append.2 ((List.mem_append.1 spread).imp_left (@ih _))

theorem SetGrown.spreadNamesIn_subset (grown : SetGrown keepsLeaves selections others) :
    spreadNamesIn selections ⊆ spreadNamesIn others := by
  cases grown with
  | refl => exact List.Subset.refl _
  | single padded => exact padded.spreadNamesIn_subset

end Selection

def Operation.Grown (keepsLeaves : Bool) (operation other : Operation) : Prop :=
  ∃ selectionSet, Selection.SetGrown keepsLeaves operation.selectionSet selectionSet ∧
    other = { operation with selectionSet }

def FragmentDefinition.Grown (keepsLeaves : Bool) (definition other : FragmentDefinition) : Prop :=
  ∃ selectionSet, Selection.SetGrown keepsLeaves definition.selectionSet selectionSet ∧
    other = { definition with selectionSet }

namespace Document

variable {document other : Document}

theorem Padded.variableValues (padded : document.Padded keepsLeaves other) :
    document.variableValues = other.variableValues := by
  cases padded <;> rfl

theorem Padded.operation (padded : document.Padded keepsLeaves other) {operation : Operation}
    (member : operation ∈ document.operations) :
    ∃ partner ∈ other.operations, operation.Grown keepsLeaves partner := by
  cases padded with
  | inOperation listed padded =>
    rw [listed, List.mem_append, List.mem_cons] at member
    rcases member with before | rfl | after
    · exact ⟨operation, List.mem_append_left _ before, _, .refl, rfl⟩
    · exact ⟨_, List.mem_append_right _ List.mem_cons_self, _, .single padded, rfl⟩
    · exact ⟨operation, List.mem_append_right _ (List.mem_cons_of_mem _ after), _, .refl, rfl⟩
  | inFragment listed padded => exact ⟨operation, member, _, .refl, rfl⟩

theorem Padded.fragment? (padded : document.Padded keepsLeaves other) (name : String) :
    Option.Rel (fun partner definition => definition.Grown keepsLeaves partner)
      (other.fragment? name) (document.fragment? name) := by
  have same : ∀ found : Option FragmentDefinition,
      Option.Rel (fun partner definition => definition.Grown keepsLeaves partner) found found := by
    rintro (_ | definition)
    · exact .none
    · exact .some ⟨_, .refl, rfl⟩
  cases padded with
  | inOperation listed padded => exact same _
  | @inFragment before after definition _ listed padded =>
    rw [Document.fragment?, Document.fragment?, listed, List.find?_append, List.find?_append]
    cases before.find? fun definition => definition.name == name with
    | some first => exact same _
    | none =>
      rw [List.find?_cons, List.find?_cons]
      cases definition.name == name with
      | true => exact .some ⟨_, .single padded, rfl⟩
      | false => exact same _

theorem Padded.missing (padded : document.Padded keepsLeaves other) {name : String}
    (missing : other.fragment? name = none) : document.fragment? name = none :=
  rel_none_iff.1 (missing ▸ padded.fragment? name)

theorem Padded.grown (padded : document.Padded keepsLeaves other) {name : String}
    {partner : FragmentDefinition} (found : other.fragment? name = some partner) :
    ∃ definition, document.fragment? name = some definition ∧
      definition.Grown keepsLeaves partner :=
  rel_some_iff.1 (found ▸ padded.fragment? name)

theorem Padded.spreads_le (padded : document.Padded keepsLeaves other) :
    document.Spreads ≤ other.Spreads := by
  rintro outer inner ⟨definition, found, spread⟩
  cases found' : other.fragment? outer with
  | none =>
    rw [padded.missing found'] at found
    cases found
  | some partner =>
    obtain ⟨first, found'', selectionSet, grown, rfl⟩ := padded.grown found'
    obtain rfl := Option.some.inj (found.symm.trans found'')
    exact ⟨_, found', grown.spreadNamesIn_subset spread⟩

theorem Padded.cycleFree (padded : document.Padded keepsLeaves other)
    (grown : Selection.SetGrown keepsLeaves selections others) (free : other.CycleFree others) :
    document.CycleFree selections :=
  free.of_fewer padded.spreads_le grown.spreadNamesIn_subset

theorem Padded.spreadAcyclic (padded : document.Padded keepsLeaves other)
    (acyclic : other.SpreadAcyclic) : document.SpreadAcyclic := by
  intro operation member
  obtain ⟨partner, listed, selectionSet, grown, rfl⟩ := padded.operation member
  exact padded.cycleFree grown (acyclic _ listed)

end Document

end QueryShield
