import Mathlib
import QueryShield.Proofs.Coverage
import QueryShield.Proofs.DocumentWeights
import QueryShield.Proofs.Saturation

namespace QueryShield

/-- The measure adds up what its nodes weigh, and takes nothing away. -/
structure Measure.Counts (m : Measure Nat) (w : Weights) : Prop where
  combine : ∀ total value, total + value ≤ m.combine total value
  field : ∀ field selectionSet children,
    w.field field + children ≤ m.field field selectionSet children
  inlineFragment : ∀ fragment selectionSet children,
    w.inlineFragment fragment + children ≤ m.inlineFragment fragment selectionSet children
  fragmentSpread : ∀ spread value, w.fragmentSpread spread + value ≤ m.fragmentSpread spread value
  fragmentDefinition : ∀ definition children,
    w.fragmentDefinition definition + children ≤ m.fragmentDefinition definition children
  operation : ∀ operation children,
    w.operation operation + children ≤ m.operation operation children

theorem AliasLimit.exactMeasure_counts : exactMeasure.Counts weights where
  combine := fun _ _ => Nat.le_refl _
  field := fun _ _ children => Nat.le_of_eq (Nat.add_comm _ children)
  inlineFragment := fun _ _ children => Nat.le_of_eq (Nat.zero_add children)
  fragmentSpread := fun _ value => Nat.le_of_eq (Nat.zero_add value)
  fragmentDefinition := fun _ children => Nat.le_of_eq (Nat.zero_add children)
  operation := fun _ children => Nat.le_of_eq (Nat.zero_add children)

theorem DirectiveLimit.exactMeasure_counts (limit : DirectiveLimit) :
    limit.exactMeasure.Counts limit.weights := by
  have added : ∀ directives children, (limit.applied directives).toNat + children ≤
      children + limit.exactApplied directives := by
    intro directives children
    have cut : (limit.applied directives).toNat = min (limit.exactApplied directives) countLimit :=
      cutOff_capped _
    omega
  exact {
    combine := fun _ _ => Nat.le_refl _
    field := fun _ _ _ => added _ _
    inlineFragment := fun _ _ _ => added _ _
    fragmentSpread := fun _ _ => added _ _
    fragmentDefinition := fun _ _ => added _ _
    operation := fun _ _ => added _ _ }

variable {m : Measure Nat} {w : Weights} {document : Document}

/-- What the walk makes known on its way is in its total, whichever fragments are looked at. -/
theorem Walk.traverse_weight (counts : m.Counts w) (names : Finset String)
    (inProgress : List String) (known : Known Nat) (total : Nat) (selections : List Selection) :
    total + Selection.weightIn w selections + document.unknownWeight w names known ≤
      (traverse m document inProgress known total selections).1 +
        document.unknownWeight w names
          (traverse m document inProgress known total selections).2 := by
  -- A name leaves the unknown ones only where its body is folded, and there its weight enters a
  -- total. So nothing is lost where a cycle is cut or a value that is known is used again.
  fun_induction traverse m document inProgress known total selections with
  | case1 inProgress known total => simp [Selection.weightIn]
  | case2 inProgress known total field selectionSet rest inner ihInner ihRest =>
    have inside : m.empty + Selection.weightIn w selectionSet +
        document.unknownWeight w names known ≤ inner.1 + document.unknownWeight w names inner.2 :=
      ihInner
    have node := counts.field field selectionSet inner.1
    have next := counts.combine total (m.field field selectionSet inner.1)
    simp only [Selection.weightIn, Selection.weight]
    omega
  | case3 inProgress known total fragment selectionSet rest inner ihInner ihRest =>
    have inside : m.empty + Selection.weightIn w selectionSet +
        document.unknownWeight w names known ≤ inner.1 + document.unknownWeight w names inner.2 :=
      ihInner
    have node := counts.inlineFragment fragment selectionSet inner.1
    have next := counts.combine total (m.inlineFragment fragment selectionSet inner.1)
    simp only [Selection.weightIn, Selection.weight]
    omega
  | case4 inProgress known total spread rest value look ih =>
    have node := counts.fragmentSpread spread value
    have next := counts.combine total (m.fragmentSpread spread value)
    simp only [Selection.weightIn, Selection.weight]
    omega
  | case5 inProgress known total spread rest look definition found cyclic ih =>
    have node := counts.fragmentSpread spread m.empty
    have next := counts.combine total (m.fragmentSpread spread m.empty)
    simp only [Selection.weightIn, Selection.weight]
    omega
  | case6 inProgress known total spread rest look definition found fresh inner value ihInner
      ihRest =>
    have inside : m.empty + Selection.weightIn w definition.selectionSet +
        document.unknownWeight w names known ≤ inner.1 + document.unknownWeight w names inner.2 :=
      ihInner
    have body : document.bodyWeight w spread.name =
        w.fragmentDefinition definition + Selection.weightIn w definition.selectionSet := by
      rw [Document.bodyWeight, found]
    have becomes : document.unknownWeight w names inner.2 ≤
        document.unknownWeight w names ((spread.name, value) :: inner.2) +
          document.bodyWeight w spread.name := Document.unknownWeight_le_cons _ _ _
    have whole : w.fragmentDefinition definition + inner.1 ≤ value :=
      counts.fragmentDefinition definition inner.1
    have node := counts.fragmentSpread spread value
    have next := counts.combine total (m.fragmentSpread spread value)
    simp only [Selection.weightIn, Selection.weight]
    omega
  | case7 inProgress known total spread rest look missing ih =>
    have node := counts.fragmentSpread spread m.empty
    have next := counts.combine total (m.fragmentSpread spread m.empty)
    simp only [Selection.weightIn, Selection.weight]
    omega

theorem Measure.reachedWeight_le_foldOperation (counts : m.Counts w) (operation : Operation) :
    document.reachedWeight w operation ≤ (m.foldOperation document [] operation).1 := by
  have nothing : Walk.Closed document [] ([] : Known Nat) := Walk.closed_nil []
  obtain ⟨-, covers⟩ := foldOperation_covers (m := m) nothing operation
  have known : ∀ name ∈ document.reachedNames [operation],
      ((m.foldOperation document [] operation).2.lookup name).isSome := by
    intro name member
    obtain ⟨defined, reached⟩ := Document.mem_reachedNames_iff.1 member
    exact covers name reached defined
  rw [foldOperation_eq_traverse] at known ⊢
  show document.reachedWeight w operation ≤ m.operation operation _
  have folded : m.empty + Selection.weightIn w operation.selectionSet +
      document.unknownWeight w (document.reachedNames [operation]) ([] : Known Nat) ≤ _ :=
    Walk.traverse_weight counts _ [] [] m.empty operation.selectionSet
  rw [Document.unknownWeight_nil, Document.unknownWeight_eq_zero known] at folded
  have around := counts.operation operation
    (Walk.traverse m document [] [] m.empty operation.selectionSet).1
  unfold Document.reachedWeight
  omega

theorem Measure.reachedWeight_le_largest (counts : m.Counts w) {operation : Operation}
    (single : document.operations = [operation]) (isExempt : Operation → Bool)
    (counted : isExempt operation = false) :
    document.reachedWeight w operation ≤ m.largest document isExempt := by
  have value : m.largest document isExempt =
      max m.empty (m.foldOperation document [] operation).1 := by
    simp [largest, single, counted, foldOperations]
  rw [value]
  exact Nat.le_trans (reachedWeight_le_foldOperation counts operation) (Nat.le_max_right _ _)

/-- The fragments that an operation comes to are the least set that holds all it spreads and all
that is spread in the set. A document with this operation only counts for no less aliases than the
operation and these fragments have, each taken once, and for no less directives than are applied
there, however its spreads go round. -/
theorem reachedWeight_le_count {operation : Operation}
    (single : document.operations = [operation]) :
    IsLeast {names : Set String | document.SpreadClosed operation.selectionSet names}
      ↑(document.reachedNames [operation]) ∧
    (∀ limit : AliasLimit, limit.ignoreIntrospection = false →
      min countLimit (document.reachedWeight AliasLimit.weights operation) ≤
        (limit.count document).toNat) ∧
    ∀ limit : DirectiveLimit, limit.ignoreIntrospection = false →
      min countLimit (document.reachedWeight limit.weights operation) ≤
        (limit.count document).toNat := by
  have counted : ∀ ignored : Bool, ignored = false →
      operation.isExempt document ignored = false := by
    intro ignored off
    rw [off]
    rfl
  refine ⟨document.reachedNames_isLeast operation, fun limit off => ?_, fun limit off => ?_⟩
  · have exact := Measure.reachedWeight_le_largest AliasLimit.exactMeasure_counts single
      (·.isExempt document limit.ignoreIntrospection) (counted _ off)
    have cut : (limit.count document).toNat = min (limit.exactCount document) countLimit :=
      limit.count_cutOff document
    unfold AliasLimit.exactCount at cut
    omega
  · have exact := Measure.reachedWeight_le_largest limit.exactMeasure_counts single
      (·.isExempt document limit.ignoreIntrospection) (counted _ off)
    have cut : (limit.count document).toNat = min (limit.exactCount document) countLimit :=
      limit.count_cutOff document
    unfold DirectiveLimit.exactCount at cut
    omega

def knottedOperation : Operation where
  directives := ["live"]
  selectionSet := [
    .field { name := "users", aliasName := some "all" }
      [.fragmentSpread { name := "Outer", directives := ["include", "include"] }],
    .fragmentSpread { name := "Missing", directives := ["skip"] }]

/-- The two fragments spread each other, and one of the names is defined twice. -/
def knotted : Document where
  sourceLength := 0
  operations := [knottedOperation]
  fragments := [
    { name := "Outer", typeCondition := "User",
      selectionSet := [.field { name := "id", aliasName := some "key" } [],
        .fragmentSpread { name := "Inner" }] },
    { name := "Inner", typeCondition := "User", directives := ["cached"],
      selectionSet := [.field { name := "name", aliasName := some "title" }
        [.fragmentSpread { name := "Outer" }]] },
    { name := "Inner", typeCondition := "User" }]

theorem knotted_defined {name : String} (defined : (knotted.fragment? name).isSome) :
    name = "Outer" ∨ name = "Inner" := by
  obtain ⟨definition, found⟩ := Option.isSome_iff_exists.1 defined
  obtain ⟨member, rfl⟩ := Document.fragment?_mem found
  simp only [knotted, List.mem_cons, List.not_mem_nil, or_false] at member
  rcases member with rfl | rfl | rfl
  · exact .inl rfl
  · exact .inr rfl
  · exact .inr rfl

theorem knotted_counts :
    (knotted.reachedNames [knottedOperation] = {"Outer", "Inner"}) ∧
    3 ≤ (({} : AliasLimit).count knotted).toNat ∧
    5 ≤ (({} : DirectiveLimit).count knotted).toNat ∧
    4 ≤ (({ allowDuplicates := false } : DirectiveLimit).count knotted).toNat := by
  obtain ⟨⟨closed, least⟩, aliases, directives⟩ :=
    reachedWeight_le_count (show knotted.operations = [knottedOperation] from rfl)
  have outer : "Outer" ∈ knotted.reachedNames [knottedOperation] :=
    closed "Outer" (by decide) (.inl (by decide))
  have inner : "Inner" ∈ knotted.reachedNames [knottedOperation] :=
    closed "Inner" (by decide) (.inr ⟨"Outer", outer, _, rfl, by decide⟩)
  have names : knotted.reachedNames [knottedOperation] = {"Outer", "Inner"} := by
    apply Finset.Subset.antisymm
    · intro name member
      rw [Finset.mem_insert, Finset.mem_singleton]
      exact knotted_defined (Document.mem_reachedNames_iff.1 member).1
    · intro name member
      rw [Finset.mem_insert, Finset.mem_singleton] at member
      rcases member with rfl | rfl
      · exact outer
      · exact inner
  have weight : ∀ w : Weights, knotted.reachedWeight w knottedOperation =
      w.operation knottedOperation + Selection.weightIn w knottedOperation.selectionSet +
        (knotted.bodyWeight w "Outer" + knotted.bodyWeight w "Inner") := by
    intro w
    rw [Document.reachedWeight, names, Finset.sum_pair (by decide)]
  refine ⟨names, ?_, ?_, ?_⟩
  · have bound := aliases {} rfl
    rw [weight] at bound
    exact bound
  · have bound := directives {} rfl
    rw [weight] at bound
    exact bound
  · have bound := directives { allowDuplicates := false } rfl
    rw [weight] at bound
    exact bound

end QueryShield
