import QueryShield.Proofs.Matching

namespace QueryShield

/-- What becomes of each node. Selection sets stay around their nodes. -/
structure NodeMap where
  field : Field → Field := id
  inlineFragment : InlineFragment → InlineFragment := id
  fragmentSpread : FragmentSpread → FragmentSpread := id
  fragmentDefinition : FragmentDefinition → FragmentDefinition := id
  operation : Operation → Operation := id

mutual

def Selection.mapNodes (map : NodeMap) : Selection → Selection
  | .field node selectionSet => .field (map.field node) (Selection.mapNodesIn map selectionSet)
  | .inlineFragment node selectionSet =>
    .inlineFragment (map.inlineFragment node) (Selection.mapNodesIn map selectionSet)
  | .fragmentSpread spread => .fragmentSpread (map.fragmentSpread spread)

def Selection.mapNodesIn (map : NodeMap) : List Selection → List Selection
  | [] => []
  | selection :: rest => selection.mapNodes map :: Selection.mapNodesIn map rest

end

def FragmentDefinition.mapNodes (map : NodeMap) (definition : FragmentDefinition) :
    FragmentDefinition :=
  { map.fragmentDefinition definition with
    selectionSet := Selection.mapNodesIn map definition.selectionSet }

def Operation.mapNodes (map : NodeMap) (operation : Operation) : Operation :=
  { map.operation operation with
    selectionSet := Selection.mapNodesIn map operation.selectionSet }

def Document.mapNodes (map : NodeMap) (document : Document) : Document :=
  { document with
    operations := document.operations.map (·.mapNodes map)
    fragments := document.fragments.map (·.mapNodes map) }

def Document.fragmentNames (document : Document) : List String :=
  document.fragments.map FragmentDefinition.name ++
    (document.operations.flatMap (Selection.spreadNamesIn ·.selectionSet) ++
      document.fragments.flatMap (Selection.spreadNamesIn ·.selectionSet))

structure NodeMap.Fits (map : NodeMap) (matching : Matching) : Prop where
  field : ∀ node, matching.field node (map.field node)
  inlineFragment : ∀ node, matching.inlineFragment node (map.inlineFragment node)
  fragmentSpread : ∀ spread, matching.fragmentSpread spread (map.fragmentSpread spread)
  spreadName : ∀ spread, (map.fragmentSpread spread).name = matching.rename spread.name
  fragmentDefinition : ∀ definition,
    matching.fragmentDefinition definition (definition.mapNodes map)
  definedName : ∀ definition,
    (map.fragmentDefinition definition).name = matching.rename definition.name
  operation : ∀ operation, matching.operation operation (operation.mapNodes map)

variable {matching : Matching} {document : Document} {map : NodeMap}

theorem Selection.setMatched_mapNodesIn (fits : map.Fits matching) :
    ∀ selections : List Selection, (∀ name ∈ spreadNamesIn selections, name ∈ matching.followed) →
      SetMatched matching selections (mapNodesIn map selections)
  | [], _ => .nil
  | .field node selectionSet :: rest, within =>
    .field (fits.field node)
      (setMatched_mapNodesIn fits selectionSet (List.forall_mem_append.1 within).1)
      (setMatched_mapNodesIn fits rest (List.forall_mem_append.1 within).2)
  | .inlineFragment node selectionSet :: rest, within =>
    .inlineFragment (fits.inlineFragment node)
      (setMatched_mapNodesIn fits selectionSet (List.forall_mem_append.1 within).1)
      (setMatched_mapNodesIn fits rest (List.forall_mem_append.1 within).2)
  | .fragmentSpread spread :: rest, within =>
    .fragmentSpread (fits.fragmentSpread spread) (List.forall_mem_cons.1 within).1
      (fits.spreadName spread) (setMatched_mapNodesIn fits rest (List.forall_mem_cons.1 within).2)

theorem Document.rewritten_mapNodes (fits : map.Fits matching)
    (within : ∀ name ∈ document.fragmentNames, name ∈ matching.followed) :
    document.Rewritten matching (document.mapNodes map) where
  operations := by
    refine List.forall₂_map_right_iff.2 (List.forall₂_same.2 fun operation member => ?_)
    refine ⟨fits.operation operation, Selection.setMatched_mapNodesIn fits _ fun name spread => ?_⟩
    exact within name (List.mem_append_right _ (List.mem_append_left _
      (List.mem_flatMap.2 ⟨operation, member, spread⟩)))
  fragments := by
    refine List.forall₂_map_right_iff.2 (List.forall₂_same.2 fun definition member => ?_)
    refine ⟨fits.fragmentDefinition definition, fits.definedName definition,
      Selection.setMatched_mapNodesIn fits _ fun name spread => ?_⟩
    exact within name (List.mem_append_right _ (List.mem_append_right _
      (List.mem_flatMap.2 ⟨definition, member, spread⟩)))

theorem Document.matched_mapNodes (fits : map.Fits matching)
    (distinct : Set.InjOn matching.rename matching.followed)
    (within : ∀ name ∈ document.fragmentNames, name ∈ matching.followed) :
    document.Matched matching (document.mapNodes map) :=
  (Document.rewritten_mapNodes fits within).matched distinct fun definition member =>
    within definition.name (List.mem_append_left _ (List.mem_map_of_mem member))

mutual

theorem Selection.mapNodes_id : ∀ selection : Selection, selection.mapNodes {} = selection
  | .field _ selectionSet => by
    rw [mapNodes, mapNodesIn_id selectionSet]
    rfl
  | .inlineFragment _ selectionSet => by
    rw [mapNodes, mapNodesIn_id selectionSet]
    rfl
  | .fragmentSpread _ => rfl

theorem Selection.mapNodesIn_id : ∀ selections : List Selection,
    Selection.mapNodesIn {} selections = selections
  | [] => rfl
  | selection :: rest => by rw [mapNodesIn, mapNodes_id selection, mapNodesIn_id rest]

end

theorem Matching.same_fits (followed : Set String) :
    ({} : NodeMap).Fits { Matching.same with followed } where
  field := fun _ => rfl
  inlineFragment := fun _ => rfl
  fragmentSpread := fun _ => rfl
  spreadName := fun _ => rfl
  fragmentDefinition := fun _ => rfl
  definedName := fun _ => rfl
  operation := fun _ => rfl

section

variable {followed : Set String}

theorem Selection.setMatched_same {selections : List Selection}
    (within : ∀ name ∈ spreadNamesIn selections, name ∈ followed) :
    SetMatched { Matching.same with followed } selections selections := by
  have matched := setMatched_mapNodesIn (Matching.same_fits followed) selections within
  rwa [mapNodesIn_id] at matched

theorem FragmentDefinition.matched_same {definition : FragmentDefinition}
    (within : ∀ name ∈ Selection.spreadNamesIn definition.selectionSet, name ∈ followed) :
    definition.Matched { Matching.same with followed } definition :=
  ⟨rfl, rfl, Selection.setMatched_same within⟩

theorem Operation.matched_same {operation : Operation}
    (within : ∀ name ∈ Selection.spreadNamesIn operation.selectionSet, name ∈ followed) :
    operation.Matched { Matching.same with followed } operation :=
  ⟨rfl, Selection.setMatched_same within⟩

end

theorem Document.matched_same (document : Document) : document.Matched .same document where
  distinct := Set.injOn_id _
  operations := List.forall₂_same.2 fun _ _ => Operation.matched_same fun _ _ => trivial
  fragments := by
    intro name _
    exact rel_refl (fun _ => FragmentDefinition.matched_same fun _ _ => trivial) _

theorem Selection.SetMatched.eq_of_same {selections others : List Selection}
    (matched : SetMatched .same selections others) : selections = others := by
  induction matched with
  | nil => rfl
  | @field node other _ _ _ _ same _ _ inner further =>
    obtain rfl : node = other := same
    rw [inner, further]
  | @inlineFragment node other _ _ _ _ same _ _ inner further =>
    obtain rfl : node = other := same
    rw [inner, further]
  | @fragmentSpread spread other _ _ same _ _ _ further =>
    obtain rfl : spread = other := same
    rw [further]

theorem FragmentDefinition.Matched.eq_of_same {definition other : FragmentDefinition}
    (matched : definition.Matched .same other) : definition = other := by
  have kept : other = { definition with selectionSet := other.selectionSet } := matched.node
  rw [kept, ← matched.selectionSet.eq_of_same]

theorem Operation.Matched.eq_of_same {operation other : Operation}
    (matched : operation.Matched .same other) : operation = other := by
  have kept : other = { operation with selectionSet := other.selectionSet } := matched.node
  rw [kept, ← matched.selectionSet.eq_of_same]

end QueryShield
