import Mathlib
import QueryShield.Proofs.Spreads

namespace QueryShield

structure Field.Reordered (node other : Field) : Prop where
  name : node.name = other.name
  aliasName : node.aliasName = other.aliasName
  isList : node.isList = other.isList
  directives : node.directives.Perm other.directives
  /-- Of arguments with one name the first one counts, so these stay where they are. -/
  arguments : node.arguments = other.arguments ∨
    (node.arguments.map Argument.name).Nodup ∧ node.arguments.Perm other.arguments

structure InlineFragment.Reordered (fragment other : InlineFragment) : Prop where
  typeCondition : fragment.typeCondition = other.typeCondition
  directives : fragment.directives.Perm other.directives

structure FragmentSpread.Reordered (spread other : FragmentSpread) : Prop where
  name : spread.name = other.name
  directives : spread.directives.Perm other.directives

/-- The same node, with the selections below it in any order at any depth. -/
inductive Selection.Reordered : Selection → Selection → Prop where
  | field {node other : Field} {selectionSet others : List Selection} (same : node.Reordered other)
    (inner : Multiset.Rel Selection.Reordered selectionSet others) :
    Selection.Reordered (.field node selectionSet) (.field other others)
  | inlineFragment {node other : InlineFragment} {selectionSet others : List Selection}
    (same : node.Reordered other)
    (inner : Multiset.Rel Selection.Reordered selectionSet others) :
    Selection.Reordered (.inlineFragment node selectionSet) (.inlineFragment other others)
  | fragmentSpread {spread other : FragmentSpread} (same : spread.Reordered other) :
    Selection.Reordered (.fragmentSpread spread) (.fragmentSpread other)

abbrev Selection.SetReordered (selections others : List Selection) : Prop :=
  Multiset.Rel Selection.Reordered selections others

structure FragmentDefinition.Reordered (definition other : FragmentDefinition) : Prop where
  name : definition.name = other.name
  typeCondition : definition.typeCondition = other.typeCondition
  directives : definition.directives.Perm other.directives
  selectionSet : Selection.SetReordered definition.selectionSet other.selectionSet

structure Operation.Reordered (operation other : Operation) : Prop where
  kind : operation.kind = other.kind
  name : operation.name = other.name
  directives : operation.directives.Perm other.directives
  selectionSet : Selection.SetReordered operation.selectionSet other.selectionSet

structure Document.Reordered (document other : Document) : Prop where
  sourceLength : document.sourceLength = other.sourceLength
  variableValues : document.variableValues = other.variableValues
  operations : Multiset.Rel Operation.Reordered document.operations other.operations
  fragments : Multiset.Rel FragmentDefinition.Reordered document.fragments other.fragments

theorem rel_symm {α : Type} {related : α → α → Prop} {set other : Multiset α}
    (back : ∀ {a b}, related a b → related b a) (related' : Multiset.Rel related set other) :
    Multiset.Rel related other set :=
  Multiset.rel_flip.1 (related'.mono fun _ _ _ _ pair => back pair)

theorem perm_map_of_rel {α β : Type} {f g : α → β} {values others : List α}
    (same : Multiset.Rel (fun value other => f value = g other) values others) :
    (values.map f).Perm (others.map g) := by
  have equal : Multiset.map f values = Multiset.map g others :=
    Multiset.rel_eq.1 (Multiset.rel_map.2 same)
  exact Multiset.coe_eq_coe.1 equal

theorem Field.Reordered.symm {node other : Field} (reordered : node.Reordered other) :
    other.Reordered node where
  name := reordered.name.symm
  aliasName := reordered.aliasName.symm
  isList := reordered.isList.symm
  directives := reordered.directives.symm
  arguments := by
    rcases reordered.arguments with same | ⟨distinct, perm⟩
    · exact .inl same.symm
    · exact .inr ⟨(perm.map Argument.name).nodup_iff.1 distinct, perm.symm⟩

theorem InlineFragment.Reordered.symm {fragment other : InlineFragment}
    (reordered : fragment.Reordered other) : other.Reordered fragment :=
  ⟨reordered.typeCondition.symm, reordered.directives.symm⟩

theorem FragmentSpread.Reordered.symm {spread other : FragmentSpread}
    (reordered : spread.Reordered other) : other.Reordered spread :=
  ⟨reordered.name.symm, reordered.directives.symm⟩

namespace Selection

variable {selections others : List Selection}

@[elab_as_elim]
theorem Reordered.induction {motive : Selection → Selection → Prop}
    (field : ∀ {node other : Field} {selectionSet others : List Selection},
      node.Reordered other → SetReordered selectionSet others →
      Multiset.Rel motive selectionSet others →
      motive (.field node selectionSet) (.field other others))
    (inlineFragment : ∀ {node other : InlineFragment} {selectionSet others : List Selection},
      node.Reordered other → SetReordered selectionSet others →
      Multiset.Rel motive selectionSet others →
      motive (.inlineFragment node selectionSet) (.inlineFragment other others))
    (fragmentSpread : ∀ {spread other : FragmentSpread}, spread.Reordered other →
      motive (.fragmentSpread spread) (.fragmentSpread other))
    {selection other : Selection} (reordered : selection.Reordered other) :
    motive selection other :=
  -- The relation is nested in the one on multisets, which takes a motive of its own.
  @Reordered.rec (fun selection other _ => motive selection other)
    (fun selections others _ => Multiset.Rel motive selections others) field inlineFragment
    fragmentSpread .zero (fun _ _ first rest => .cons first rest) _ _ reordered

theorem Reordered.symm {selection other : Selection} (reordered : selection.Reordered other) :
    other.Reordered selection := by
  refine Reordered.induction ?_ ?_ ?_ reordered
  · intro node other selectionSet others same _ inner
    exact .field same.symm (Multiset.rel_flip.1 inner)
  · intro node other selectionSet others same _ inner
    exact .inlineFragment same.symm (Multiset.rel_flip.1 inner)
  · intro spread other same
    exact .fragmentSpread same.symm

theorem SetReordered.symm (reordered : SetReordered selections others) :
    SetReordered others selections := rel_symm Reordered.symm reordered

mutual

theorem Reordered.refl : ∀ selection : Selection, selection.Reordered selection
  | .field _ selectionSet =>
    .field ⟨rfl, rfl, rfl, .refl _, .inl rfl⟩ (SetReordered.refl selectionSet)
  | .inlineFragment _ selectionSet =>
    .inlineFragment ⟨rfl, .refl _⟩ (SetReordered.refl selectionSet)
  | .fragmentSpread _ => .fragmentSpread ⟨rfl, .refl _⟩

theorem SetReordered.refl : ∀ selections : List Selection, SetReordered selections selections
  | [] => .zero
  | selection :: rest => .cons (Reordered.refl selection) (SetReordered.refl rest)

end

theorem SetReordered.of_perm (perm : selections.Perm others) : SetReordered selections others := by
  have same : (selections : Multiset Selection) = others := Multiset.coe_eq_coe.2 perm
  rw [SetReordered, ← same]
  exact SetReordered.refl selections

theorem SetReordered.isEmpty_eq (reordered : SetReordered selections others) :
    selections.isEmpty = others.isEmpty := by
  have length : selections.length = others.length := Multiset.card_eq_card_of_rel reordered
  rw [Bool.eq_iff_iff, List.isEmpty_iff_length_eq_zero, List.isEmpty_iff_length_eq_zero, length]

theorem spreadNamesIn_subset_of_rel (inner : Multiset.Rel (fun selection other : Selection =>
      selection.spreadNames ⊆ other.spreadNames) selections others) :
    spreadNamesIn selections ⊆ spreadNamesIn others := by
  intro name spread
  obtain ⟨selection, member, spread⟩ := mem_spreadNamesIn.1 spread
  obtain ⟨other, found, fewer⟩ := Multiset.exists_mem_of_rel_of_mem inner member
  exact mem_spreadNamesIn.2 ⟨other, found, fewer spread⟩

theorem Reordered.spreadNames_subset {selection other : Selection}
    (reordered : selection.Reordered other) : selection.spreadNames ⊆ other.spreadNames := by
  refine Reordered.induction ?_ ?_ ?_ reordered
  · intro node other selectionSet others _ _ inner
    exact spreadNamesIn_subset_of_rel inner
  · intro node other selectionSet others _ _ inner
    exact spreadNamesIn_subset_of_rel inner
  · intro spread other same
    rw [spreadNames, spreadNames, same.name]
    exact List.Subset.refl _

theorem SetReordered.spreadNamesIn_subset (reordered : SetReordered selections others) :
    spreadNamesIn selections ⊆ spreadNamesIn others :=
  spreadNamesIn_subset_of_rel (reordered.mono fun _ _ _ _ same => same.spreadNames_subset)

end Selection

theorem FragmentDefinition.Reordered.symm {definition other : FragmentDefinition}
    (reordered : definition.Reordered other) : other.Reordered definition :=
  ⟨reordered.name.symm, reordered.typeCondition.symm, reordered.directives.symm,
    reordered.selectionSet.symm⟩

theorem Operation.Reordered.symm {operation other : Operation}
    (reordered : operation.Reordered other) : other.Reordered operation :=
  ⟨reordered.kind.symm, reordered.name.symm, reordered.directives.symm,
    reordered.selectionSet.symm⟩

end QueryShield
