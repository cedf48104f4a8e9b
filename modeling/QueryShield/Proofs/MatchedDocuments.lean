import Mathlib.Data.List.Forall2
import Mathlib.Data.Set.Function
import QueryShield.Guard.Measures
import QueryShield.Proofs.TopLevel

namespace QueryShield

section

variable {α β : Type} {related : α → β → Prop} {option : Option β}

theorem rel_none_iff : Option.Rel related none option ↔ option = none := by
  cases option <;> simp

theorem rel_some_iff {a : α} :
    Option.Rel related (some a) option ↔ ∃ b, option = some b ∧ related a b := by
  cases option <;> simp

theorem rel_imp {weaker : α → β → Prop} (implied : ∀ {a b}, related a b → weaker a b)
    {first : Option α} (pair : Option.Rel related first option) :
    Option.Rel weaker first option := by
  cases pair with
  | some pair => exact .some (implied pair)
  | none => exact .none

theorem rel_refl {related : α → α → Prop} (refl : ∀ a, related a a) :
    ∀ option : Option α, Option.Rel related option option
  | none => .none
  | some a => .some (refl a)

theorem rel_find? {p : α → Bool} {q : β → Bool} {items : List α} {others : List β}
    (alike : ∀ a ∈ items, ∀ b, related a b → (p a = true ↔ q b = true))
    (pairs : List.Forall₂ related items others) :
    Option.Rel related (items.find? p) (others.find? q) := by
  induction pairs with
  | nil => exact .none
  | @cons a b rest rest' pair _ ih =>
    obtain ⟨first, later⟩ := List.forall_mem_cons.1 alike
    by_cases here : p a = true
    · rw [List.find?_cons_of_pos here, List.find?_cons_of_pos ((first b pair).1 here)]
      exact .some pair
    · rw [List.find?_cons_of_neg here, List.find?_cons_of_neg (mt (first b pair).2 here)]
      exact ih later

end

structure Matching where
  field : Field → Field → Prop
  inlineFragment : InlineFragment → InlineFragment → Prop
  fragmentSpread : FragmentSpread → FragmentSpread → Prop
  fragmentDefinition : FragmentDefinition → FragmentDefinition → Prop
  operation : Operation → Operation → Prop
  rename : String → String := id
  /-- The fragments that have a counterpart if they are defined. -/
  followed : Set String := Set.univ
  /-- Introspection is recognized by the names of fields. -/
  name : ∀ {node other}, field node other → node.name = other.name

def Matching.ofFields (changed : Field → Field → Prop)
    (name : ∀ {node other}, changed node other → node.name = other.name) : Matching where
  field := changed
  inlineFragment := (· = ·)
  fragmentSpread := (· = ·)
  fragmentDefinition definition other :=
    other = { definition with selectionSet := other.selectionSet }
  operation operation other := other = { operation with selectionSet := other.selectionSet }
  name := name

def Matching.same : Matching := .ofFields (· = ·) (congrArg Field.name)

inductive Selection.SetMatched (matching : Matching) : List Selection → List Selection → Prop where
  | nil : SetMatched matching [] []
  | field {node other : Field} {selectionSet others rest rest' : List Selection}
    (same : matching.field node other) (inner : SetMatched matching selectionSet others)
    (further : SetMatched matching rest rest') :
    SetMatched matching (.field node selectionSet :: rest) (.field other others :: rest')
  | inlineFragment {node other : InlineFragment} {selectionSet others rest rest' : List Selection}
    (same : matching.inlineFragment node other)
    (inner : SetMatched matching selectionSet others) (further : SetMatched matching rest rest') :
    SetMatched matching (.inlineFragment node selectionSet :: rest)
      (.inlineFragment other others :: rest')
  | fragmentSpread {spread other : FragmentSpread} {rest rest' : List Selection}
    (same : matching.fragmentSpread spread other) (followed : spread.name ∈ matching.followed)
    (renamed : other.name = matching.rename spread.name)
    (further : SetMatched matching rest rest') :
    SetMatched matching (.fragmentSpread spread :: rest) (.fragmentSpread other :: rest')

structure FragmentDefinition.Matched (matching : Matching) (definition other : FragmentDefinition) :
    Prop where
  node : matching.fragmentDefinition definition other
  renamed : other.name = matching.rename definition.name
  selectionSet : Selection.SetMatched matching definition.selectionSet other.selectionSet

structure Operation.Matched (matching : Matching) (operation other : Operation) : Prop where
  node : matching.operation operation other
  selectionSet : Selection.SetMatched matching operation.selectionSet other.selectionSet

/-- The operations correspond one to one, and so do the first definitions of what is followed. -/
structure Document.Matched (matching : Matching) (document other : Document) : Prop where
  distinct : Set.InjOn matching.rename matching.followed
  operations : List.Forall₂ (Operation.Matched matching) document.operations other.operations
  fragments : ∀ name ∈ matching.followed, Option.Rel (FragmentDefinition.Matched matching)
    (document.fragment? name) (other.fragment? (matching.rename name))

structure Document.Rewritten (matching : Matching) (document other : Document) : Prop where
  operations : List.Forall₂ (Operation.Matched matching) document.operations other.operations
  fragments : List.Forall₂ (FragmentDefinition.Matched matching) document.fragments other.fragments

variable {matching : Matching} {document other : Document} {selections others : List Selection}

namespace Selection

theorem SetMatched.append {rest rest' : List Selection}
    (first : SetMatched matching selections others) (further : SetMatched matching rest rest') :
    SetMatched matching (selections ++ rest) (others ++ rest') := by
  induction first with
  | nil => exact further
  | field same inner _ _ ih => exact .field same inner ih
  | inlineFragment same inner _ _ ih => exact .inlineFragment same inner ih
  | fragmentSpread same followed renamed _ ih => exact .fragmentSpread same followed renamed ih

theorem SetMatched.isEmpty_eq (matched : SetMatched matching selections others) :
    selections.isEmpty = others.isEmpty := by
  cases matched <;> rfl

end Selection

namespace Document

theorem Matched.missing (matched : document.Matched matching other) {name : String}
    (followed : name ∈ matching.followed) (missing : document.fragment? name = none) :
    other.fragment? (matching.rename name) = none :=
  rel_none_iff.1 (missing ▸ matched.fragments name followed)

theorem Matched.partner (matched : document.Matched matching other) {name : String}
    (followed : name ∈ matching.followed) {definition : FragmentDefinition}
    (found : document.fragment? name = some definition) :
    ∃ partner, other.fragment? (matching.rename name) = some partner ∧
      definition.Matched matching partner :=
  rel_some_iff.1 (found ▸ matched.fragments name followed)

theorem Matched.mem_map_rename (matched : document.Matched matching other) {name : String}
    {names : List String} (within : ∀ name ∈ names, name ∈ matching.followed)
    (followed : name ∈ matching.followed) :
    matching.rename name ∈ names.map matching.rename ↔ name ∈ names := by
  refine ⟨fun member => ?_, List.mem_map_of_mem⟩
  obtain ⟨first, among, same⟩ := List.mem_map.1 member
  exact matched.distinct (within first among) followed same ▸ among

theorem Rewritten.matched (rewritten : document.Rewritten matching other)
    (distinct : Set.InjOn matching.rename matching.followed)
    (defined : ∀ definition ∈ document.fragments, definition.name ∈ matching.followed) :
    document.Matched matching other where
  distinct := distinct
  operations := rewritten.operations
  fragments := by
    intro name followed
    refine rel_find? (fun definition member partner same => ?_) rewritten.fragments
    rw [beq_iff_eq, beq_iff_eq, same.renamed]
    exact (distinct.eq_iff (defined definition member) followed).symm

end Document

namespace Introspection

theorem search_missing {spread : FragmentSpread} {rest : List Selection} {expanded : List String}
    {sawField : Bool} (fresh : spread.name ∉ expanded)
    (missing : document.fragment? spread.name = none) :
    search document (.fragmentSpread spread :: rest) expanded sawField =
      search document rest (spread.name :: expanded) sawField := by
  rw [search, dif_neg fresh]
  split
  · rfl
  · next definition found =>
    rw [missing] at found
    cases found

theorem search_found {spread : FragmentSpread} {rest : List Selection} {expanded : List String}
    {sawField : Bool} {definition : FragmentDefinition} (fresh : spread.name ∉ expanded)
    (found : document.fragment? spread.name = some definition) :
    search document (.fragmentSpread spread :: rest) expanded sawField =
      search document (definition.selectionSet ++ rest) (spread.name :: expanded) sawField := by
  rw [search, dif_neg fresh]
  split
  · next missing =>
    rw [found] at missing
    cases missing
  · next first found' => rw [Option.some.inj (found.symm.trans found')]

theorem search_matched (matched : document.Matched matching other)
    {expanded : List String} {sawField : Bool}
    (set : Selection.SetMatched matching selections others)
    (within : ∀ name ∈ expanded, name ∈ matching.followed) :
    search document selections expanded sawField =
      search other others (expanded.map matching.rename) sawField := by
  fun_induction search document selections expanded sawField generalizing others with
  | case1 expanded sawField =>
    cases set
    rw [search]
  | case2 expanded sawField field selectionSet rest asks ih =>
    cases set with
    | field same _ further =>
      rw [search, ← matching.name same, if_pos asks]
      exact ih further within
  | case3 expanded sawField field selectionSet rest differs =>
    cases set with
    | field same _ further =>
      rw [search, ← matching.name same, if_neg differs]
  | case4 expanded sawField fragment selectionSet rest ih =>
    cases set with
    | inlineFragment _ inner further =>
      rw [search]
      exact ih (inner.append further) within
  | case5 expanded sawField spread rest seen ih =>
    cases set with
    | fragmentSpread _ followed renamed further =>
      have seen' := (matched.mem_map_rename within followed).2 seen
      rw [search, renamed, dif_pos seen']
      exact ih further within
  | case6 expanded sawField spread rest fresh missing ih =>
    cases set with
    | fragmentSpread _ followed renamed further =>
      have fresh' := mt (matched.mem_map_rename within followed).1 fresh
      have missing' := matched.missing followed missing
      rw [← renamed] at fresh' missing'
      rw [search_missing fresh' missing', renamed]
      exact ih further (List.forall_mem_cons.2 ⟨followed, within⟩)
  | case7 expanded sawField spread rest fresh definition found ih =>
    cases set with
    | fragmentSpread _ followed renamed further =>
      obtain ⟨partner, found', same⟩ := matched.partner followed found
      have fresh' := mt (matched.mem_map_rename within followed).1 fresh
      rw [← renamed] at fresh' found'
      rw [search_found fresh' found', renamed]
      exact ih (same.selectionSet.append further) (List.forall_mem_cons.2 ⟨followed, within⟩)

end Introspection

theorem Operation.Matched.isExempt_eq {operation partner : Operation}
    (same : operation.Matched matching partner) (matched : document.Matched matching other)
    (ignored : Bool) : operation.isExempt document ignored = partner.isExempt other ignored := by
  have asks : operation.isIntrospectionOnly document = partner.isIntrospectionOnly other :=
    Introspection.search_matched matched same.selectionSet nofun
  exact congrArg (ignored && ·) asks

end QueryShield
