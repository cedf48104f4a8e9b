import Mathlib
import QueryShield.Guard.Measures
import QueryShield.Proofs.Traversal

namespace QueryShield

open Relation

inductive Expansion where
  | field (field : Field) (selectionSet : List Selection) (children : List Expansion)
  | inlineFragment (fragment : InlineFragment) (selectionSet : List Selection)
      (children : List Expansion)
  | spread (spread : FragmentSpread) (definition : FragmentDefinition) (children : List Expansion)
  | undefinedSpread (spread : FragmentSpread)

namespace Document

noncomputable def reachedCount (document : Document) (selections : List Selection) : Nat :=
  open Classical in document.unmarkedCount fun name => !decide (document.Reaches selections name)

variable {document : Document} {selections rest : List Selection}

theorem smaller_of_part {part : List Selection}
    (within : ∀ name, document.Reaches part name → document.Reaches selections name)
    (shorter : sizeOf part < sizeOf selections) :
    Prod.Lex (· < ·) (· < ·) (document.reachedCount part, sizeOf part)
      (document.reachedCount selections, sizeOf selections) := by
  classical
  have fewer : document.reachedCount part ≤ document.reachedCount selections := by
    refine document.unmarkedCount_le fun name away => ?_
    simp only [Bool.not_eq_true', decide_eq_false_iff_not] at away ⊢
    exact fun reached => away (within name reached)
  rcases Nat.lt_or_eq_of_le fewer with fewer | same
  · exact Prod.Lex.left _ _ fewer
  · rw [same]
    exact Prod.Lex.right _ shorter

theorem smaller_of_later (selection : Selection) (rest : List Selection) :
    Prod.Lex (· < ·) (· < ·) (document.reachedCount rest, sizeOf rest)
      (document.reachedCount (selection :: rest), sizeOf (selection :: rest)) := by
  refine smaller_of_part (fun _ reached => reached.later) ?_
  simp only [List.cons.sizeOf_spec]
  omega

theorem reachedCount_lt {spread : FragmentSpread} {definition : FragmentDefinition}
    (free : document.CycleFree (.fragmentSpread spread :: rest))
    (found : document.fragment? spread.name = some definition) :
    document.reachedCount definition.selectionSet <
      document.reachedCount (.fragmentSpread spread :: rest) := by
  classical
  have here : document.Reaches (.fragmentSpread spread :: rest) spread.name := reaches_spread
  refine unmarkedCount_lt (fun name away => ?_) found ?_ ?_
  · simp only [Bool.not_eq_true', decide_eq_false_iff_not] at away ⊢
    exact fun reached => away (reached.inSpread found)
  · simp [here]
  · simp only [Bool.not_eq_true', decide_eq_false_iff_not]
    exact fun reached => free spread.name here (reached.inside found)

/-- Follows every spread to the first definition of its name. -/
def expand (document : Document) :
    (selections : List Selection) → document.CycleFree selections → List Expansion
  | [], _ => []
  | .field field selectionSet :: rest, free =>
    .field field selectionSet (document.expand selectionSet free.inField) ::
      document.expand rest free.later
  | .inlineFragment fragment selectionSet :: rest, free =>
    .inlineFragment fragment selectionSet (document.expand selectionSet free.inInlineFragment) ::
      document.expand rest free.later
  | .fragmentSpread spread :: rest, free =>
    match _found : document.fragment? spread.name with
    | some definition =>
      .spread spread definition (document.expand definition.selectionSet (free.inSpread _found)) ::
        document.expand rest free.later
    | none => .undefinedSpread spread :: document.expand rest free.later
termination_by selections => (document.reachedCount selections, sizeOf selections)
decreasing_by
  · refine smaller_of_part (fun _ reached => reached.inField) ?_
    simp only [List.cons.sizeOf_spec, Selection.field.sizeOf_spec]
    omega
  · exact smaller_of_later _ _
  · refine smaller_of_part (fun _ reached => reached.inInlineFragment) ?_
    simp only [List.cons.sizeOf_spec, Selection.inlineFragment.sizeOf_spec]
    omega
  · exact smaller_of_later _ _
  · exact Prod.Lex.left _ _ (reachedCount_lt free _found)
  · exact smaller_of_later _ _
  · exact smaller_of_later _ _

section

variable {spread : FragmentSpread} (free : document.CycleFree (.fragmentSpread spread :: rest))

theorem expand_spread {definition : FragmentDefinition}
    (found : document.fragment? spread.name = some definition) :
    document.expand (.fragmentSpread spread :: rest) free =
      .spread spread definition (document.expand definition.selectionSet (free.inSpread found)) ::
        document.expand rest free.later := by
  rw [expand]
  split
  · rename_i other found'
    obtain rfl := Option.some.inj (found.symm.trans found')
    rfl
  · rename_i missing
    rw [found] at missing
    cases missing

theorem expand_undefinedSpread (missing : document.fragment? spread.name = none) :
    document.expand (.fragmentSpread spread :: rest) free =
      .undefinedSpread spread :: document.expand rest free.later := by
  rw [expand]
  split
  · rename_i definition found
    rw [missing] at found
    cases found
  · rfl

end

end Document

namespace Measure

variable {V : Type}

mutual

def value (m : Measure V) : Expansion → V
  | .field field selectionSet children =>
    m.field field selectionSet (m.setValue m.empty children)
  | .inlineFragment fragment selectionSet children =>
    m.inlineFragment fragment selectionSet (m.setValue m.empty children)
  | .spread spread definition children =>
    m.fragmentSpread spread (m.fragmentDefinition definition (m.setValue m.empty children))
  | .undefinedSpread spread => m.fragmentSpread spread m.empty

def setValue (m : Measure V) (total : V) : List Expansion → V
  | [] => total
  | node :: rest => m.setValue (m.combine total (m.value node)) rest

end

def expandedValue (m : Measure V) (document : Document) (operation : Operation)
    (free : document.CycleFree operation.selectionSet) : V :=
  m.operation operation (m.setValue m.empty (document.expand operation.selectionSet free))

def FragmentValue (m : Measure V) (document : Document) (name : String) (value : V) : Prop :=
  ∃ definition free, document.fragment? name = some definition ∧ value =
    m.fragmentDefinition definition
      (m.setValue m.empty (document.expand definition.selectionSet free))

def Faithful (m : Measure V) (document : Document) (known : Known V) : Prop :=
  ∀ name value, known.lookup name = some value → m.FragmentValue document name value

variable {m : Measure V} {document : Document}

theorem Faithful.nil : m.Faithful document [] := by
  intro name value look
  simp at look

theorem Faithful.cons {known : Known V} {name : String} {value : V}
    (faithful : m.Faithful document known) (exact : m.FragmentValue document name value) :
    m.Faithful document ((name, value) :: known) := by
  intro other kept look
  rw [List.lookup_cons] at look
  split at look
  · rename_i same
    obtain rfl := Option.some.inj look
    rwa [eq_of_beq same]
  · exact faithful other kept look

/-- Where no name comes round to itself, the recursion of the walk folds a selection set to the
value of its expansion. The fragments in progress spread everything that is still to come, so none
of it is in progress. -/
theorem traverse_expansion (inProgress : List String) (selections : List Selection) :
    ∀ free : document.CycleFree selections,
    (∀ outer ∈ inProgress, ∀ name, document.Reaches selections name →
      TransGen document.Spreads outer name) →
    ∀ known : Known V, m.Faithful document known → ∀ total,
      (Walk.traverse m document inProgress known total selections).1 =
          m.setValue total (document.expand selections free) ∧
        m.Faithful document (Walk.traverse m document inProgress known total selections).2 := by
  induction inProgress, selections using Walk.traversal_induction document with
  | nil inProgress =>
    intro _ _ known faithful total
    rw [Walk.traverse, Document.expand, setValue]
    exact ⟨rfl, faithful⟩
  | field inProgress field selectionSet rest ihInner ihRest =>
    intro free within known faithful total
    obtain ⟨value, faithful⟩ := ihInner free.inField
      (fun outer member name reached => within outer member name reached.inField)
      known faithful m.empty
    rw [Walk.traverse, Document.expand, setValue, Measure.value, value]
    exact ihRest free.later
      (fun outer member name reached => within outer member name reached.later) _ faithful _
  | inlineFragment inProgress fragment selectionSet rest ihInner ihRest =>
    intro free within known faithful total
    obtain ⟨value, faithful⟩ := ihInner free.inInlineFragment
      (fun outer member name reached => within outer member name reached.inInlineFragment)
      known faithful m.empty
    rw [Walk.traverse, Document.expand, setValue, Measure.value, value]
    exact ihRest free.later
      (fun outer member name reached => within outer member name reached.later) _ faithful _
  | spread inProgress spread rest ihBody ihRest =>
    intro free within known faithful total
    have restOf := ihRest free.later
      (fun outer member name reached => within outer member name reached.later)
    cases look : known.lookup spread.name with
    | some value =>
      obtain ⟨definition, _, found, rfl⟩ := faithful spread.name value look
      rw [Walk.traverse_known look, Document.expand_spread free found, setValue, Measure.value]
      exact restOf known faithful _
    | none =>
      cases found : document.fragment? spread.name with
      | none =>
        rw [Walk.traverse_missing look found, Document.expand_undefinedSpread free found, setValue,
          Measure.value]
        exact restOf known faithful _
      | some definition =>
        have fresh : spread.name ∉ inProgress := fun member =>
          free spread.name Document.reaches_spread
            (within spread.name member spread.name Document.reaches_spread)
        have withinBody : ∀ outer ∈ spread.name :: inProgress, ∀ name,
            document.Reaches definition.selectionSet name →
              TransGen document.Spreads outer name := by
          intro outer member name reached
          rcases List.mem_cons.1 member with rfl | member
          · exact reached.inside found
          · exact within outer member name (reached.inSpread found)
        obtain ⟨value, faithful⟩ := ihBody definition found fresh (free.inSpread found) withinBody
          known faithful m.empty
        have exact : m.FragmentValue document spread.name (m.fragmentDefinition definition
            (m.setValue m.empty (document.expand definition.selectionSet (free.inSpread found)))) :=
          ⟨definition, free.inSpread found, found, rfl⟩
        rw [Walk.traverse_entered look found fresh, Document.expand_spread free found, setValue,
          Measure.value, value]
        exact restOf _ (faithful.cons exact) _

theorem foldOperation_expansion {known : Known V} (faithful : m.Faithful document known)
    {operation : Operation} (free : document.CycleFree operation.selectionSet) :
    (m.foldOperation document known operation).1 = m.expandedValue document operation free ∧
      m.Faithful document (m.foldOperation document known operation).2 := by
  obtain ⟨value, faithful⟩ := traverse_expansion [] operation.selectionSet free
    (fun _ member => absurd member List.not_mem_nil) known faithful m.empty
  rw [foldOperation_eq_traverse, expandedValue, ← value]
  exact ⟨rfl, faithful⟩

theorem knownAfter_faithful {known : Known V} (faithful : m.Faithful document known)
    (operations : List Operation)
    (free : ∀ operation ∈ operations, document.CycleFree operation.selectionSet) :
    m.Faithful document (m.knownAfter document known operations) := by
  induction operations generalizing known with
  | nil => exact faithful
  | cons operation rest ih =>
    exact ih (foldOperation_expansion faithful (free operation List.mem_cons_self)).2
      (fun other member => free other (List.mem_cons_of_mem _ member))

/-- The walk folds an operation to the value of its expansion, whichever operations it has folded
before. -/
theorem foldOperation_eq_expandedValue (m : Measure V) {document : Document}
    (acyclic : document.SpreadAcyclic) {folded : List Operation}
    (own : ∀ earlier ∈ folded, earlier ∈ document.operations) {operation : Operation}
    (member : operation ∈ document.operations) :
    (m.foldOperation document (m.knownAfter document [] folded) operation).1 =
      m.expandedValue document operation (acyclic operation member) :=
  (foldOperation_expansion
    (knownAfter_faithful .nil folded (fun earlier found => acyclic earlier (own earlier found)))
    (acyclic operation member)).1

end Measure

def outerThenInner : Operation where
  selectionSet := [.fragmentSpread { name := "Outer" }, .fragmentSpread { name := "Inner" }]

def sharedFragments : Document where
  sourceLength := 0
  operations := [outerThenInner]
  fragments := [
    { name := "Outer", typeCondition := "Query",
      selectionSet := [.fragmentSpread { name := "Inner", directives := ["include"] },
        .fragmentSpread { name := "Inner" }] },
    { name := "Inner", typeCondition := "Query", directives := ["cached"],
      selectionSet := [.field { name := "id", aliasName := some "key" } []] }]

theorem sharedFragments_acyclic : sharedFragments.SpreadAcyclic :=
  Document.spreadAcyclic_of_rank (fun name => if name = "Outer" then 1 else 0) (by decide)

theorem outerThenInner_free : sharedFragments.CycleFree outerThenInner.selectionSet :=
  sharedFragments_acyclic outerThenInner List.mem_cons_self

/-- The inner fragment counts three times, also where it is known from an earlier fold. -/
theorem foldOperation_sharedFragments :
    AliasLimit.measure.expandedValue sharedFragments outerThenInner outerThenInner_free = 3 := by
  have folded := Measure.foldOperation_eq_expandedValue AliasLimit.measure sharedFragments_acyclic
    (fun earlier (member : earlier ∈ [outerThenInner]) => member) List.mem_cons_self
  refine folded.symm.trans ?_
  cbv

end QueryShield
