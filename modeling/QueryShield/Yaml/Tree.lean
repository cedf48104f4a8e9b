import QueryShield.Yaml.Indentation
import QueryShield.Yaml.Node

namespace QueryShield.Yaml

structure Tree where
  root : Node
  names : Names := {}
  named : List (Nat × Node) := []

def Tree.target (tree : Tree) : Node → Node
  | .alias number =>
    ((tree.names.bearers.lookup number).bind fun bearer => tree.named.lookup bearer).getD .empty
  | node => node

inductive Layout where
  | block
  /-- Items in the column of the key they belong to; nothing closes them but the next key. -/
  | compact
  | flow
  deriving DecidableEq, Repr

inductive Due where
  | node
  | entry
  | mark
  deriving DecidableEq, Repr

inductive Contents where
  | items (nodes : List Node)
  | entries (pairs : List (Node × Node)) (key : Option Node)

structure Frame where
  layout : Layout
  contents : Contents
  due : Due
  bearer : Option Nat

namespace Frame

def node (frame : Frame) : Node :=
  match frame.contents with
  | .items nodes => .sequence nodes.reverse
  | .entries pairs _ => .mapping pairs.reverse

/-- Takes the node that is due. In brackets one without the mark of a key is a key without a
value. -/
def receive (frame : Frame) (node : Node) : Frame :=
  let contents : Contents :=
    match frame.contents, frame.due with
    | .items nodes, _ => .items (node :: nodes)
    | .entries pairs (some key), _ => .entries ((key, node) :: pairs) none
    | .entries pairs none, .entry => .entries ((node, .empty) :: pairs) none
    | .entries pairs none, _ => .entries pairs (some node)
  { frame with contents, due := .mark }

def admitsCompact (frame : Frame) : Bool :=
  match frame.layout, frame.contents with
  | .block, .entries _ _ => true
  | _, _ => false

def awaitsColon (frame : Frame) : Bool :=
  match frame.contents, frame.due with
  | .entries _ (some _), .mark => true
  | _, _ => false

def next? (frame : Frame) (token : Token) : Option (Option Due) :=
  match frame.layout, frame.contents, frame.due, token with
  | .block, .items _, _, .dash => some (some .node)
  | .block, .items _, _, .closeBlock => some none
  | .compact, .items _, _, .dash => some (some .node)
  | .flow, .items _, .mark, .comma => some (some .entry)
  | .flow, .items _, _, .closeFlow .sequence => some none
  | .block, .entries _ none, _, .key => some (some .node)
  | .block, .entries _ none, _, .closeBlock => some none
  | .flow, .entries _ none, .entry, .key => some (some .node)
  | .flow, .entries _ none, .mark, .comma => some (some .entry)
  | .flow, .entries _ none, _, .closeFlow .mapping => some none
  | _, .entries _ (some _), .mark, .colon => some (some .node)
  | _, _, _, _ => none

end Frame

structure Properties where
  anchor : Option String := none
  tag : Option String := none
  deriving DecidableEq

structure Loading where
  handles : List (String × String)
  names : Names := {}
  named : List (Nat × Node) := []
  properties : Properties := {}
  frames : List Frame := []
  root : Option Node := none

namespace Loading

def due (loading : Loading) : Due :=
  match loading.frames with
  | [] => if loading.root.isSome then .mark else .node
  | frame :: _ => frame.due

def deliver (loading : Loading) (bearer : Option Nat) (node : Node) : Loading :=
  let loading := { loading with named := (bearer.map (·, node)).toList ++ loading.named }
  match loading.frames with
  | [] => { loading with root := some node }
  | frame :: outer => { loading with frames := frame.receive node :: outer }

def begin (loading : Loading) : Option Nat × Loading :=
  let begun := { loading with properties := {} }
  match loading.properties.anchor with
  | none => (none, begun)
  | some name =>
    (some loading.names.count, { begun with names := loading.names.declare name })

def addScalar (loading : Loading) (style : Style) (text : String) : Loading :=
  let (bearer, begun) := loading.begin
  begun.deliver bearer (.scalar style loading.properties.tag text)

def openFrame (loading : Loading) (layout : Layout) (contents : Contents) (due : Due) : Loading :=
  let (bearer, begun) := loading.begin
  { begun with frames := ⟨layout, contents, due, bearer⟩ :: begun.frames }

def openCollection (loading : Loading) (layout : Layout) (due : Due) : Collection → Loading
  | .sequence => loading.openFrame layout (.items []) due
  | .mapping => loading.openFrame layout (.entries [] none) due

/-- Where a node is due and none begins there is an empty one. An entry in brackets is not begun
unless it has properties. -/
def fillNode (loading : Loading) : Loading :=
  let isBegun := loading.due = .node || (loading.due = .entry && loading.properties ≠ {})
  if isBegun then loading.addScalar .plain "" else loading

def closeCompact (loading : Loading) (token : Token) : Loading :=
  match loading.frames with
  | ⟨.compact, .items nodes, .mark, bearer⟩ :: outer =>
    if token = .dash then loading
    else { loading with frames := outer }.deliver bearer (.sequence nodes.reverse)
  | _ => loading

def fillValue (loading : Loading) (token : Token) : Loading :=
  match loading.frames with
  | frame :: outer =>
    if frame.awaitsColon && token ≠ .colon then
      { loading with frames := frame.receive .empty :: outer }
    else loading
  | [] => loading

def readMark (loading : Loading) (token : Token) : Option Loading :=
  let loading := (loading.fillNode.closeCompact token).fillValue token
  match loading.frames with
  | [] => if token = .documentEnd then some loading else none
  | frame :: outer =>
    match frame.next? token with
    | none => none
    | some (some due) => some { loading with frames := { frame with due } :: outer }
    | some none => some ({ loading with frames := outer }.deliver frame.bearer frame.node)

def tag? (loading : Loading) (handle suffix : String) : Option String :=
  if handle = "" then some suffix else (loading.handles.lookup handle).map (· ++ suffix)

def readNode (loading : Loading) (token : Token) : Option Loading :=
  match token, loading.properties with
  | .anchor name, ⟨none, tag⟩ => some { loading with properties := ⟨some name, tag⟩ }
  | .tag handle suffix, ⟨anchor, none⟩ =>
    (loading.tag? handle suffix).map fun tag =>
      { loading with properties := ⟨anchor, some tag⟩ }
  | .alias name, ⟨none, none⟩ =>
    (loading.names.numbers.lookup name).map fun number => loading.deliver none (.alias number)
  | .scalar style text, _ => some (loading.addScalar style text)
  | .openBlock collection, _ => some (loading.openCollection .block .mark collection)
  | .openFlow collection, _ => some (loading.openCollection .flow .entry collection)
  | .dash, _ =>
    if loading.frames.head?.any Frame.admitsCompact then
      some (loading.openFrame .compact (.items []) .node)
    else loading.readMark token
  | _, _ => loading.readMark token

def read (loading : Loading) (token : Token) : Option Loading :=
  if loading.due = .mark then loading.readMark token else loading.readNode token

def finish (loading : Loading) : Option Tree :=
  let loading := loading.fillNode
  if loading.frames.isEmpty then
    loading.root.map fun root => ⟨root, loading.names, loading.named⟩
  else none

end Loading

def Token.isDirective : Token → Bool
  | .version _ _ => true
  | .handle _ _ => true
  | _ => false

def handles? : List Token → Option (List (String × String))
  | [] => some []
  | .version major minor :: rest =>
    let isKnown := major = 1 && (minor = 1 || minor = 2)
    if isKnown && !rest.any (· matches .version _ _) then handles? rest else none
  | .handle name expansion :: rest => do
    let handles ← handles? rest
    if (handles.lookup name).isSome then none else return (name, expansion) :: handles
  | _ :: _ => none

def commonTag : String := "tag:yaml.org,2002:"

def commonHandles : List (String × String) := [("!", "!"), ("!!", commonTag)]

/-- The one document of a text; directives need a mark behind them. -/
def Tree.ofTokens? (tokens : List Token) : Option Tree := do
  let (directives, content) := tokens.span Token.isDirective
  let loading : Loading := { handles := (← handles? directives) ++ commonHandles }
  match content with
  | .documentStart :: content => (← content.foldlM Loading.read loading).finish
  | .documentEnd :: _ => none
  | content =>
    if directives.isEmpty then (← content.foldlM Loading.read loading).finish else none

def Tree.ofText? (text : String) : Option Tree := (tokens? text).bind ofTokens?

end QueryShield.Yaml
