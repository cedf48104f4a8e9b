import Mathlib
import QueryShield.Proofs.Expansion
import QueryShield.Proofs.Occurrences
import QueryShield.Proofs.Saturation
import QueryShield.Proofs.WrittenFields

namespace QueryShield

open Relation

namespace Document

variable {document : Document} {selections rest : List Selection} {selection : Selection}
  {way : List Nat} {field : Field} {level : Nat}

def LevelsWithin (document : Document) (selections : List Selection) (bound : Nat) : Prop :=
  ∀ way field level, document.Occurs selections way field level → level ≤ bound

section

variable {bound : Nat}

theorem levelsWithin_nil : document.LevelsWithin [] bound :=
  fun _ _ _ occurs => absurd occurs not_occurs_nil

theorem levelsWithin_cons : document.LevelsWithin (selection :: rest) bound ↔
    document.LevelsWithin [selection] bound ∧ document.LevelsWithin rest bound := by
  constructor
  · intro within
    exact ⟨fun way field level occurs => within way field level (occurs_cons.2 (.inl occurs)),
      fun way field level occurs =>
        within (wayBehind way) field level (occurs_cons.2 (.inr ⟨way, rfl, occurs⟩))⟩
  · rintro ⟨here, below⟩ way field level occurs
    rcases occurs_cons.1 occurs with occurs | ⟨other, -, occurs⟩
    · exact here way field level occurs
    · exact below other field level occurs

theorem levelsWithin_field {outer : Field} {selectionSet : List Selection} :
    document.LevelsWithin [.field outer selectionSet] bound ↔
      0 < bound ∧ document.LevelsWithin selectionSet (bound - 1) := by
  constructor
  · intro within
    refine ⟨within [0] outer 1 (.here rfl), fun way field level occurs => ?_⟩
    have deeper := within (0 :: way) field (level + 1) (.inField rfl occurs)
    omega
  · rintro ⟨positive, inside⟩ way field level occurs
    rcases occurs_field.1 occurs with ⟨-, rfl⟩ | ⟨inner, below, -, rfl, occursInside⟩
    · exact positive
    · have deeper := inside inner field below occursInside
      omega

theorem levelsWithin_inlineFragment {fragment : InlineFragment} {selectionSet : List Selection} :
    document.LevelsWithin [.inlineFragment fragment selectionSet] bound ↔
      document.LevelsWithin selectionSet bound := by
  constructor
  · exact fun within way field level occurs =>
      within (0 :: way) field level (.inInlineFragment rfl occurs)
  · intro inside way field level occurs
    obtain ⟨inner, -, occurs⟩ := occurs_inlineFragment.1 occurs
    exact inside inner field level occurs

theorem levelsWithin_spread {spread : FragmentSpread} :
    document.LevelsWithin [.fragmentSpread spread] bound ↔
      document.LevelsWithin (document.spreadSelections spread.name) bound := by
  constructor
  · exact fun within way field level occurs =>
      within (0 :: way) field level (occurs_spread.2 ⟨way, rfl, occurs⟩)
  · intro inside way field level occurs
    obtain ⟨inner, -, occurs⟩ := occurs_spread.1 occurs
    exact inside inner field level occurs

end

theorem spreadSelections_found {name : String} {definition : FragmentDefinition}
    (found : document.fragment? name = some definition) :
    document.spreadSelections name = definition.selectionSet := by
  rw [spreadSelections, found]
  rfl

theorem spreadSelections_missing {name : String} (missing : document.fragment? name = none) :
    document.spreadSelections name = [] := by
  rw [spreadSelections, missing]
  rfl

theorem expandedDepth_le_iff (free : document.CycleFree selections) :
    ∀ total bound,
      DepthLimit.exactMeasure.setValue total (document.expand selections free) ≤ bound ↔
        total ≤ bound ∧ document.LevelsWithin selections bound := by
  induction selections, free using Document.expand.induct with
  | case1 =>
    intro total bound
    rw [expand, Measure.setValue]
    exact (and_iff_left levelsWithin_nil).symm
  | case2 field selectionSet rest free _ ofInner ofRest =>
    intro total bound
    have inside := ofInner 0 (bound - 1)
    rw [and_iff_right (Nat.zero_le _)] at inside
    have oneMore : ∀ depth : Nat, depth + 1 ≤ bound ↔ 0 < bound ∧ depth ≤ bound - 1 := by
      intro depth
      omega
    rw [expand, Measure.setValue, Measure.value, ofRest, levelsWithin_cons, levelsWithin_field,
      ← inside, ← oneMore, ← and_assoc]
    exact and_congr_left fun _ => Nat.max_le
  | case3 fragment selectionSet rest free _ ofInner ofRest =>
    intro total bound
    have inside := ofInner 0 bound
    rw [and_iff_right (Nat.zero_le bound)] at inside
    rw [expand, Measure.setValue, Measure.value, ofRest, levelsWithin_cons,
      levelsWithin_inlineFragment, ← inside, ← and_assoc]
    exact and_congr_left fun _ => Nat.max_le
  | case4 spread rest free definition found _ ofBody ofRest =>
    intro total bound
    have inside := ofBody 0 bound
    rw [and_iff_right (Nat.zero_le bound)] at inside
    rw [Document.expand_spread free found, Measure.setValue, Measure.value, ofRest,
      levelsWithin_cons, levelsWithin_spread, spreadSelections_found found, ← inside, ← and_assoc]
    exact and_congr_left fun _ => Nat.max_le
  | case5 spread rest free missing _ ofRest =>
    intro total bound
    rw [Document.expand_undefinedSpread free missing, Measure.setValue, Measure.value, ofRest,
      levelsWithin_cons, levelsWithin_spread, spreadSelections_missing missing,
      and_iff_right levelsWithin_nil]
    exact and_congr_left fun _ => by simp [DepthLimit.exactMeasure]

theorem expandedDepth_isGreatest (free : document.CycleFree selections) :
    IsGreatest (insert 0 {level | ∃ way field, document.Occurs selections way field level})
      (DepthLimit.exactMeasure.setValue 0 (document.expand selections free)) := by
  have bounds : ∀ bound,
      DepthLimit.exactMeasure.setValue 0 (document.expand selections free) ≤ bound ↔
        bound ∈ upperBounds (insert 0 {level | ∃ way field,
          document.Occurs selections way field level}) := by
    intro bound
    rw [expandedDepth_le_iff, upperBounds_insert]
    simp only [Set.mem_inter_iff, Set.mem_Ici, mem_upperBounds, Set.mem_ofPred_eq,
      forall_exists_index, LevelsWithin]
    exact and_congr_right fun _ => ⟨fun within level way field => within way field level,
      fun within way field level => within level way field⟩
  have least := isLUB_iff_le_iff.2 bounds
  have attained := Nat.sSup_mem (Set.insert_nonempty _ _) ⟨_, least.1⟩
  rw [least.csSup_eq (Set.insert_nonempty _ _)] at attained
  exact ⟨attained, least.1⟩

theorem fieldCount_le_of_mem (member : selection ∈ selections) :
    selection.fieldCount ≤ Selection.fieldCountIn selections := by
  induction selections with
  | nil => cases member
  | cons first rest ih =>
    rw [Selection.fieldCountIn]
    rcases List.mem_cons.1 member with rfl | member
    · omega
    · have behind := ih member
      omega

theorem Reaches.of_mem {name : String} (reached : document.Reaches [selection] name)
    (member : selection ∈ selections) : document.Reaches selections name := by
  obtain ⟨first, spread, path⟩ := reached
  have own : first ∈ selection.spreadNames := by
    simpa [Selection.spreadNamesIn] using spread
  exact ⟨first, Selection.spreadNamesIn_subset member own, path⟩

noncomputable def writtenFieldCount (document : Document) (operation : Operation) : Nat :=
  Selection.fieldCountIn operation.selectionSet +
    ∑ name ∈ document.reachedNames [operation], document.bodyFieldCount name

/-- A way goes into a fragment once at most, so it meets no more fields than are written. -/
theorem Occurs.level_le (occurs : document.Occurs selections way field level)
    (free : document.CycleFree selections) : ∀ names : Finset String,
    (∀ name, (document.fragment? name).isSome → document.Reaches selections name → name ∈ names) →
    level ≤ Selection.fieldCountIn selections + ∑ name ∈ names, document.bodyFieldCount name := by
  induction occurs with
  | @here selections selectionSet position field stands =>
    intro names _
    have written := fieldCount_le_of_mem (List.mem_of_getElem? stands)
    rw [Selection.fieldCount] at written
    omega
  | @inField selections selectionSet position level outer field way stands _ ih =>
    intro names listed
    have member := List.mem_of_getElem? stands
    have lift : ∀ {name}, document.Reaches selectionSet name → document.Reaches selections name :=
      fun reached => reached.inField.of_mem member
    have inside := ih (fun name reached => free name (lift reached)) names
      (fun name defined reached => listed name defined (lift reached))
    have written := fieldCount_le_of_mem member
    rw [Selection.fieldCount] at written
    omega
  | @inInlineFragment selections selectionSet position level fragment field way stands _ ih =>
    intro names listed
    have member := List.mem_of_getElem? stands
    have lift : ∀ {name}, document.Reaches selectionSet name → document.Reaches selections name :=
      fun reached => reached.inInlineFragment.of_mem member
    have inside := ih (fun name reached => free name (lift reached)) names
      (fun name defined reached => listed name defined (lift reached))
    have written := fieldCount_le_of_mem member
    rw [Selection.fieldCount] at written
    omega
  | @inSpread selections position level spread definition field way stands found _ ih =>
    intro names listed
    have member := List.mem_of_getElem? stands
    have lift : ∀ {name}, document.Reaches definition.selectionSet name →
        document.Reaches selections name := fun reached => (reached.inSpread found).of_mem member
    have here : document.Reaches selections spread.name := reaches_spread.of_mem member
    have own : spread.name ∈ names := listed spread.name (by rw [found]; rfl) here
    -- The body does not come back to its own fragment, so that one is spent here.
    have others : ∀ name, (document.fragment? name).isSome →
        document.Reaches definition.selectionSet name → name ∈ names.erase spread.name := by
      intro name defined reached
      refine Finset.mem_erase.2 ⟨?_, listed name defined (lift reached)⟩
      rintro rfl
      exact free spread.name here (reached.inside found)
    have inside := ih (fun name reached => free name (lift reached)) _ others
    have body : document.bodyFieldCount spread.name =
        Selection.fieldCountIn definition.selectionSet := by
      rw [bodyFieldCount, found]
    have total := Finset.add_sum_erase names document.bodyFieldCount own
    omega

theorem Occurs.level_le_written {operation : Operation}
    (occurs : document.Occurs operation.selectionSet way field level)
    (free : document.CycleFree operation.selectionSet) :
    level ≤ document.writtenFieldCount operation :=
  occurs.level_le free _ fun _ defined reached =>
    mem_reachedNames defined ⟨operation, List.mem_singleton_self _, reached⟩

theorem writtenFieldCount_le (document : Document) (operation : Operation) :
    document.writtenFieldCount operation ≤ Selection.fieldCountIn operation.selectionSet +
      ∑ name ∈ (document.fragments.map (·.name)).toFinset, document.bodyFieldCount name := by
  have defined : document.reachedNames [operation] ⊆
      (document.fragments.map (·.name)).toFinset := by
    classical exact fun name reached => (Finset.mem_filter.1 reached).1
  exact Nat.add_le_add_left (Finset.sum_le_sum_of_subset defined) _

end Document

end QueryShield
