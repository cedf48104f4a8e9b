import QueryShield.Proofs.FlowScanning
import QueryShield.Yaml.Tree

namespace QueryShield.Yaml

mutual

def flowNode : Json → Node
  | .string s => .scalar .quoted none s
  | .array items => .sequence (itemNodes items)
  | .object members => .mapping (memberNodes members)
  | scalar => .scalar .plain none scalar.scalarText

def itemNodes : List Json → List Node
  | [] => []
  | item :: rest => flowNode item :: itemNodes rest

def memberNodes : List (String × Json) → List (Node × Node)
  | [] => []
  | (name, value) :: rest => (.scalar .quoted none name, flowNode value) :: memberNodes rest

end

namespace Loading

variable {loading : Loading} {rest : List Token}

theorem read_scalar (bare : loading.properties = {}) (awaits : loading.due ≠ .mark) (style : Style)
    (text : String) :
    loading.read (.scalar style text) = some (loading.deliver none (.scalar style none text)) := by
  obtain ⟨handles, names, named, _, frames, root⟩ := loading
  subst bare
  rw [read, if_neg awaits]
  rfl

def sequenceFrame (due : Due) (nodes : List Node) : Frame := ⟨.flow, .items nodes, due, none⟩

def mappingFrame (due : Due) (pairs : List (Node × Node)) (key : Option Node) : Frame :=
  ⟨.flow, .entries pairs key, due, none⟩

/-- The loading within brackets. -/
def within (loading : Loading) (frame : Frame) : Loading :=
  { loading with frames := frame :: loading.frames }

theorem within_bare (frame : Frame) (bare : loading.properties = {}) :
    (loading.within frame).properties = {} := bare

def emptyFrame : Collection → Frame
  | .sequence => sequenceFrame .entry []
  | .mapping => mappingFrame .entry [] none

theorem read_openFlow (bare : loading.properties = {}) (awaits : loading.due ≠ .mark)
    (collection : Collection) :
    loading.read (.openFlow collection) = some (loading.within (emptyFrame collection)) := by
  obtain ⟨handles, names, named, _, frames, root⟩ := loading
  subst bare
  rw [read, if_neg awaits]
  cases collection <;> rfl

theorem read_closeSequence (bare : loading.properties = {}) (nodes : List Node) {due : Due}
    (notNode : due ≠ .node) :
    (loading.within (sequenceFrame due nodes)).read (.closeFlow .sequence) =
      some (loading.deliver none (.sequence nodes.reverse)) := by
  obtain ⟨handles, names, named, _, frames, root⟩ := loading
  subst bare
  cases due with
  | node => exact absurd rfl notNode
  | entry => rfl
  | mark => rfl

theorem read_closeMapping (bare : loading.properties = {}) (pairs : List (Node × Node)) {due : Due}
    (notNode : due ≠ .node) :
    (loading.within (mappingFrame due pairs none)).read (.closeFlow .mapping) =
      some (loading.deliver none (.mapping pairs.reverse)) := by
  obtain ⟨handles, names, named, _, frames, root⟩ := loading
  subst bare
  cases due with
  | node => exact absurd rfl notNode
  | entry => rfl
  | mark => rfl

/-- What is due before an item or a member. -/
def dueAt (first : Bool) : Due := if first then .entry else .mark

theorem dueAt_ne_node (first : Bool) : dueAt first ≠ .node := by cases first <;> decide

theorem read_itemSeparator (first : Bool) (nodes : List Node) :
    (separatorTokens first ++ rest).foldlM read
        (loading.within (sequenceFrame (dueAt first) nodes)) =
      rest.foldlM read (loading.within (sequenceFrame .entry nodes)) := by
  cases first <;> rfl

theorem read_memberSeparator (first : Bool) (pairs : List (Node × Node)) :
    (separatorTokens first ++ rest).foldlM read
        (loading.within (mappingFrame (dueAt first) pairs none)) =
      rest.foldlM read (loading.within (mappingFrame .entry pairs none)) := by
  cases first <;> rfl

theorem read_key (bare : loading.properties = {}) (pairs : List (Node × Node)) (name : String) :
    (.key :: .scalar .quoted name :: .colon :: rest).foldlM read
        (loading.within (mappingFrame .entry pairs none)) =
      rest.foldlM read
        (loading.within (mappingFrame .node pairs (some (.scalar .quoted none name)))) := by
  obtain ⟨handles, names, named, _, frames, root⟩ := loading
  subst bare
  rfl

theorem deliver_item (nodes : List Node) (due : Due) (node : Node) :
    (loading.within (sequenceFrame due nodes)).deliver none node =
      loading.within (sequenceFrame .mark (node :: nodes)) := rfl

theorem deliver_member (pairs : List (Node × Node)) (due : Due) (key value : Node) :
    (loading.within (mappingFrame due pairs (some key))).deliver none value =
      loading.within (mappingFrame .mark ((key, value) :: pairs) none) := rfl

mutual

theorem reads_value : ∀ (json : Json) {loading : Loading}, loading.properties = {} →
    loading.due ≠ .mark →
    (flowTokens json).foldlM read loading = some (loading.deliver none (flowNode json))
  | .null, _, bare, awaits => by
    simp [flowTokens, flowNode, read_scalar bare awaits]
  | .boolean _, _, bare, awaits => by
    simp [flowTokens, flowNode, read_scalar bare awaits]
  | .number _, _, bare, awaits => by
    simp [flowTokens, flowNode, read_scalar bare awaits]
  | .string _, _, bare, awaits => by
    simp [flowTokens, flowNode, read_scalar bare awaits]
  | .array items, loading, bare, awaits => by
    rw [flowTokens, List.foldlM_cons, read_openFlow bare awaits]
    exact reads_items true [] items bare
  | .object members, loading, bare, awaits => by
    rw [flowTokens, List.foldlM_cons, read_openFlow bare awaits]
    exact reads_members true [] members bare

theorem reads_items (first : Bool) (nodes : List Node) : ∀ (items : List Json)
    {loading : Loading}, loading.properties = {} →
    (itemTokens first items ++ [Token.closeFlow .sequence]).foldlM read
        (loading.within (sequenceFrame (dueAt first) nodes)) =
      some (loading.deliver none (.sequence (nodes.reverse ++ itemNodes items)))
  | [], _, bare => by
    have closes := read_closeSequence bare nodes (dueAt_ne_node first)
    simp [itemTokens, itemNodes, closes]
  | item :: items, loading, bare => by
    have others := reads_items false (flowNode item :: nodes) items bare
    have reads := reads_value item (within_bare (sequenceFrame .entry nodes) bare)
      (show Due.entry ≠ .mark by decide)
    rw [itemTokens, List.append_assoc, read_itemSeparator, List.append_assoc, List.foldlM_append,
      reads, deliver_item]
    simpa [itemNodes, dueAt] using others

theorem reads_members (first : Bool) (pairs : List (Node × Node)) :
    ∀ (members : List (String × Json)) {loading : Loading}, loading.properties = {} →
    (memberTokens first members ++ [Token.closeFlow .mapping]).foldlM read
        (loading.within (mappingFrame (dueAt first) pairs none)) =
      some (loading.deliver none (.mapping (pairs.reverse ++ memberNodes members)))
  | [], _, bare => by
    have closes := read_closeMapping bare pairs (dueAt_ne_node first)
    simp [memberTokens, memberNodes, closes]
  | (name, value) :: members, loading, bare => by
    have others := reads_members false ((.scalar .quoted none name, flowNode value) :: pairs)
      members bare
    have reads := reads_value value
      (within_bare (mappingFrame .node pairs (some (.scalar .quoted none name))) bare)
      (show Due.node ≠ .mark by decide)
    rw [memberTokens, List.append_assoc, read_memberSeparator]
    simp only [List.cons_append]
    rw [read_key bare, List.append_assoc, List.foldlM_append, reads, deliver_member]
    simpa [memberNodes, dueAt] using others

end

end Loading

theorem Tree.ofTokens?_flow (json : Json) :
    ofTokens? (flowTokens json) = some { root := flowNode json } := by
  have reads : (flowTokens json).foldlM Loading.read { handles := commonHandles } = some _ :=
    Loading.reads_value json rfl (show Due.node ≠ .mark by decide)
  have loads : ((flowTokens json).foldlM Loading.read { handles := commonHandles }).bind
      Loading.finish = some { root := flowNode json } := by
    rw [reads]
    rfl
  cases json <;> exact loads

theorem Tree.ofText?_compact {json : Json} (fits : FitsFlow json) :
    ofText? json.compact = some { root := flowNode json } := by
  rw [ofText?, tokens?_compact fits, Option.bind_some, ofTokens?_flow]

end QueryShield.Yaml
