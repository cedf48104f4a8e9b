import Mathlib
import QueryShield.Proofs.FragmentValues
import QueryShield.Proofs.PaddedDocuments
import QueryShield.Proofs.Relaxation

namespace QueryShield

variable {keepsLeaves : Bool} {selections others : List Selection}

namespace Measure

variable {m : Measure UInt64} {table otherTable : String → UInt64}

/-- No kind of node loses value when a selection is added below it. -/
structure Padding (m : Measure UInt64) (keepsLeaves : Bool) : Prop where
  mono : m.Related (· ≤ ·) m
  added : ∀ total value, total ≤ m.combine total value
  field : ∀ node {selectionSet padded}, (keepsLeaves = true → selectionSet ≠ []) → padded ≠ [] →
    ∀ value, m.field node selectionSet value ≤ m.field node padded value
  inlineFragment : ∀ node selectionSet padded value,
    m.inlineFragment node selectionSet value ≤ m.inlineFragment node padded value
  fragmentDefinition : ∀ definition selectionSet value,
    m.fragmentDefinition definition value ≤
      m.fragmentDefinition { definition with selectionSet } value
  operation : ∀ operation selectionSet value,
    m.operation operation value ≤ m.operation { operation with selectionSet } value

mutual

theorem valueWith_mono (mono : m.Related (· ≤ ·) m) : ∀ selection : Selection,
    (∀ name ∈ selection.spreadNames, table name ≤ otherTable name) →
      m.valueWith table selection ≤ m.valueWith otherTable selection
  | .field node selectionSet, below =>
    mono.field node selectionSet (setValueWith_mono mono selectionSet below mono.empty)
  | .inlineFragment node selectionSet, below =>
    mono.inlineFragment node selectionSet (setValueWith_mono mono selectionSet below mono.empty)
  | .fragmentSpread spread, below =>
    mono.fragmentSpread spread (below spread.name List.mem_cons_self)

theorem setValueWith_mono (mono : m.Related (· ≤ ·) m) : ∀ selections : List Selection,
    (∀ name ∈ Selection.spreadNamesIn selections, table name ≤ otherTable name) →
      ∀ {total sum}, total ≤ sum →
        m.setValueWith table total selections ≤ m.setValueWith otherTable sum selections
  | [], _, _, _, more => more
  | selection :: rest, below, _, _, more => by
    have first := valueWith_mono mono selection fun name spread =>
      below name (List.mem_append_left _ spread)
    exact setValueWith_mono mono rest (fun name spread =>
      below name (List.mem_append_right _ spread)) (mono.combine more first)

end

theorem setValueWith_cons_mono (mono : m.Related (· ≤ ·) m) {selection other : Selection}
    {rest : List Selection} {total sum : UInt64}
    (first : m.valueWith table selection ≤ m.valueWith otherTable other)
    (below : ∀ name ∈ Selection.spreadNamesIn rest, table name ≤ otherTable name)
    (more : total ≤ sum) : m.setValueWith table total (selection :: rest) ≤
      m.setValueWith otherTable sum (other :: rest) :=
  setValueWith_mono mono rest below (mono.combine more first)

theorem setValueWith_padded (padding : m.Padding keepsLeaves)
    (padded : Selection.SetPadded keepsLeaves selections others) :
    (∀ name ∈ Selection.spreadNamesIn selections, table name ≤ otherTable name) →
      ∀ {total sum}, total ≤ sum →
        m.setValueWith table total selections ≤ m.setValueWith otherTable sum others := by
  induction padded with
  | here added rest =>
    intro below total sum more
    exact setValueWith_mono padding.mono rest below (UInt64.le_trans more (padding.added _ _))
  | later selection _ ih =>
    intro below total sum more
    have first := valueWith_mono padding.mono selection fun name spread =>
      below name (List.mem_append_left _ spread)
    exact ih (fun name spread => below name (List.mem_append_right _ spread))
      (padding.mono.combine more first)
  | @inField field rest selectionSet padded keeps inner ih =>
    intro below total sum more
    have children := ih (fun name spread => below name (List.mem_append_left _ spread))
      padding.mono.empty
    have first : m.valueWith table (.field field selectionSet) ≤
        m.valueWith otherTable (.field field padded) :=
      UInt64.le_trans (padding.mono.field field selectionSet children)
        (padding.field field keeps inner.ne_nil _)
    exact setValueWith_cons_mono padding.mono first
      (fun name spread => below name (List.mem_append_right _ spread)) more
  | @inInlineFragment fragment rest selectionSet padded inner ih =>
    intro below total sum more
    have children := ih (fun name spread => below name (List.mem_append_left _ spread))
      padding.mono.empty
    have first : m.valueWith table (.inlineFragment fragment selectionSet) ≤
        m.valueWith otherTable (.inlineFragment fragment padded) :=
      UInt64.le_trans (padding.mono.inlineFragment fragment selectionSet children)
        (padding.inlineFragment fragment selectionSet padded _)
    exact setValueWith_cons_mono padding.mono first
      (fun name spread => below name (List.mem_append_right _ spread)) more

theorem setValueWith_grown (padding : m.Padding keepsLeaves)
    (grown : Selection.SetGrown keepsLeaves selections others)
    (below : ∀ name ∈ Selection.spreadNamesIn selections, table name ≤ otherTable name) :
    m.setValueWith table m.empty selections ≤ m.setValueWith otherTable m.empty others := by
  cases grown with
  | refl => exact setValueWith_mono padding.mono selections below padding.mono.empty
  | single padded => exact setValueWith_padded padding padded below padding.mono.empty

variable {document other : Document}

theorem freshValue_padded (padding : m.Padding keepsLeaves)
    (padded : document.Padded keepsLeaves other) (free : other.CycleFree selections) :
    ∀ name ∈ Selection.spreadNamesIn selections,
      m.freshValue document name ≤ m.freshValue other name := by
  -- The padded document comes to every fragment that either document spreads.
  refine free.spread_induction ?_ ?_
  · intro name missing
    rw [freshValue_missing missing, freshValue_missing (padded.missing missing)]
    exact UInt64.le_refl _
  · intro name partner found inner ofBody
    obtain ⟨definition, found', selectionSet, grown, rfl⟩ := padded.grown found
    have body := setValueWith_grown padding grown fun name spread =>
      ofBody name (grown.spreadNamesIn_subset spread)
    rw [freshValue_eq found inner, freshValue_eq found' (padded.cycleFree grown inner)]
    exact UInt64.le_trans (padding.mono.fragmentDefinition definition body)
      (padding.fragmentDefinition definition selectionSet _)

theorem foldOperation_padded (padding : m.Padding keepsLeaves)
    (padded : document.Padded keepsLeaves other) {operation : Operation}
    {selectionSet : List Selection}
    (grown : Selection.SetGrown keepsLeaves operation.selectionSet selectionSet)
    (free : other.CycleFree selectionSet) :
    (m.foldOperation document [] operation).1 ≤
      (m.foldOperation other [] { operation with selectionSet }).1 := by
  have fragments := freshValue_padded padding padded free
  have total := setValueWith_grown padding grown fun name spread =>
    fragments name (grown.spreadNamesIn_subset spread)
  have folded : (m.foldOperation other [] { operation with selectionSet }).1 =
      m.operation { operation with selectionSet }
        (m.setValueWith (m.freshValue other) m.empty selectionSet) :=
    foldOperation_eq_setValueWith free
  rw [foldOperation_eq_setValueWith (padded.cycleFree grown free), folded]
  exact UInt64.le_trans (padding.mono.operation operation total)
    (padding.operation operation selectionSet _)

theorem largest_le_padded (zero : m.empty = 0) (padding : m.Padding keepsLeaves)
    (padded : document.Padded keepsLeaves other) (acyclic : other.SpreadAcyclic) :
    m.largest document (·.isExempt document false) ≤ m.largest other (·.isExempt other false) := by
  rw [largest_le_iff zero (padded.spreadAcyclic acyclic)]
  intro operation member _
  obtain ⟨partner, listed, selectionSet, grown, rfl⟩ := padded.operation member
  refine UInt64.le_trans (foldOperation_padded padding padded grown (acyclic _ listed)) ?_
  exact (largest_le_iff zero acyclic _ _).1 (UInt64.le_refl _) _ listed rfl

end Measure

theorem le_addCapped (a b : UInt64) : a ≤ addCapped a b := by
  have bound := toNat_le_countLimit a
  rw [UInt64.le_iff_toNat_le, toNat_addCapped]
  omega

theorem DepthLimit.measure_padding (keepsLeaves : Bool) : measure.Padding keepsLeaves where
  mono := measure_mono
  added := fun total value => by
    rw [UInt64.le_iff_toNat_le]
    change _ ≤ (max total value).toNat
    rw [toNat_max]
    omega
  field := fun _ _ _ _ _ _ => UInt64.le_refl _
  inlineFragment := fun _ _ _ _ => UInt64.le_refl _
  fragmentDefinition := fun _ _ _ => UInt64.le_refl _
  operation := fun _ _ _ => UInt64.le_refl _

theorem AliasLimit.measure_padding (keepsLeaves : Bool) : measure.Padding keepsLeaves where
  mono := measure_mono
  added := le_addCapped
  field := fun _ _ _ _ _ _ => UInt64.le_refl _
  inlineFragment := fun _ _ _ _ => UInt64.le_refl _
  fragmentDefinition := fun _ _ _ => UInt64.le_refl _
  operation := fun _ _ _ => UInt64.le_refl _

theorem DirectiveLimit.measure_padding (limit : DirectiveLimit) (keepsLeaves : Bool) :
    limit.measure.Padding keepsLeaves where
  mono := measure_mono (le_refl _)
  added := le_addCapped
  field := fun _ _ _ _ _ _ => UInt64.le_refl _
  inlineFragment := fun _ _ _ _ => UInt64.le_refl _
  fragmentDefinition := fun _ _ _ => UInt64.le_refl _
  operation := fun _ _ _ => UInt64.le_refl _

theorem CostLimit.measure_padding {limit : CostLimit} {keepsLeaves : Bool}
    (objects : keepsLeaves = true ∨ limit.scalarCost ≤ limit.objectCost)
    (variableValues : List (String × Json)) :
    (limit.measure variableValues).Padding keepsLeaves where
  mono := Cheaper.measure ⟨rfl, UInt64.le_refl _, UInt64.le_refl _, UInt64.le_refl _⟩ variableValues
  added := le_addCapped
  field := fun node selectionSet padded keeps some value => by
    refine mulCapped_mono ?_ (UInt64.le_refl _)
    obtain ⟨_, _, rfl⟩ := List.exists_cons_of_ne_nil some
    cases selectionSet with
    | nil =>
      have cheaper := objects.resolve_left fun kept => keeps kept rfl
      exact UInt64.le_trans cheaper (le_addCapped _ _)
    | cons _ _ => exact UInt64.le_refl _
  inlineFragment := fun _ _ _ _ => UInt64.le_refl _
  fragmentDefinition := fun _ _ _ => UInt64.le_refl _
  operation := fun _ _ _ => UInt64.le_refl _

/-- A selection more lowers no measure that exempts no operation. The cost keeps up where leaves
stay leaves, or where an object costs at least as much as a leaf. -/
theorem Document.Padded.measures_le {keepsLeaves : Bool} {document other : Document}
    (padded : document.Padded keepsLeaves other) (acyclic : other.SpreadAcyclic) :
    (∀ limit : DepthLimit, limit.ignoreIntrospection = false →
      limit.depth document ≤ limit.depth other) ∧
    (∀ limit : AliasLimit, limit.ignoreIntrospection = false →
      limit.count document ≤ limit.count other) ∧
    (∀ limit : DirectiveLimit, limit.ignoreIntrospection = false →
      limit.count document ≤ limit.count other) ∧
    (∀ limit : CostLimit, limit.ignoreIntrospection = false →
      (keepsLeaves = true ∨ limit.scalarCost ≤ limit.objectCost) →
      limit.cost document ≤ limit.cost other) := by
  refine ⟨fun limit all => ?_, fun limit all => ?_, fun limit all => ?_,
    fun limit all objects => ?_⟩
  · rw [DepthLimit.depth, DepthLimit.depth, all]
    exact Measure.largest_le_padded rfl (DepthLimit.measure_padding _) padded acyclic
  · rw [AliasLimit.count, AliasLimit.count, all]
    exact Measure.largest_le_padded rfl (AliasLimit.measure_padding _) padded acyclic
  · rw [DirectiveLimit.count, DirectiveLimit.count, all]
    exact Measure.largest_le_padded rfl (limit.measure_padding _) padded acyclic
  · rw [CostLimit.cost, CostLimit.cost, all, padded.variableValues]
    exact Measure.largest_le_padded rfl (CostLimit.measure_padding objects _) padded acyclic

def badge : FragmentDefinition where
  name := "Badge"
  typeCondition := "User"
  directives := ["cached"]
  selectionSet := [.field { name := "title", aliasName := some "label" } []]

def panels (owner : List Selection) : FragmentDefinition where
  name := "Panels"
  typeCondition := "Board"
  selectionSet := [.field { name := "panels", arguments := [{ name := "first", value := .int 3 }] }
    [.field { name := "id" } [], .field { name := "owner" } owner]]

def board (owner : List Selection) : Document where
  sourceLength := 120
  operations := [{ selectionSet := [.fragmentSpread { name := "Panels" },
    .field { name := "archive" } [.fragmentSpread { name := "Panels" }]] }]
  fragments := [badge, panels owner]

def includedBadge : Selection := .fragmentSpread { name := "Badge", directives := ["include"] }

theorem board_padded : (board []).Padded false (board [includedBadge]) := by
  have owner : Selection.SetPadded false [.field { name := "owner" } []]
      [.field { name := "owner" } [includedBadge]] :=
    .inField _ [] (fun kept => absurd kept Bool.false_ne_true) (.here includedBadge [])
  have within : Selection.SetPadded false (panels []).selectionSet
      (panels [includedBadge]).selectionSet :=
    .inField _ [] (fun _ => List.cons_ne_nil _ _) (.later (.field { name := "id" } []) owner)
  have listed : (board []).fragments = [badge] ++ panels [] :: [] := rfl
  exact .inFragment listed within

theorem board_acyclic : (board [includedBadge]).SpreadAcyclic :=
  Document.spreadAcyclic_of_rank (fun name => if name = "Panels" then 1 else 0) (by decide)

/-- The badge is not spread before, and afterwards it stands where a leaf was. -/
theorem measures_le_board :
    ({ ignoreIntrospection := false } : DepthLimit).depth (board []) ≤
        ({ ignoreIntrospection := false } : DepthLimit).depth (board [includedBadge]) ∧
      ({} : AliasLimit).count (board []) ≤ ({} : AliasLimit).count (board [includedBadge]) ∧
      ({ allowDuplicates := false } : DirectiveLimit).count (board []) ≤
        ({ allowDuplicates := false } : DirectiveLimit).count (board [includedBadge]) ∧
      ({ ignoreIntrospection := false } : CostLimit).cost (board []) ≤
        ({ ignoreIntrospection := false } : CostLimit).cost (board [includedBadge]) := by
  obtain ⟨depth, aliases, directives, cost⟩ :=
    Document.Padded.measures_le board_padded board_acyclic
  exact ⟨depth _ rfl, aliases _ rfl, directives _ rfl, cost _ rfl (.inr (by decide))⟩

example :
    let limit : CostLimit := { scalarCost := 9, objectCost := 2, ignoreIntrospection := false }
    limit.cost (board []) = 122 ∧ limit.cost (board [.inlineFragment {} []]) = 80 := by
  constructor <;> cbv

end QueryShield
