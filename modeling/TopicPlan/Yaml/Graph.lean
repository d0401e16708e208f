import TopicPlan.Yaml.Lexer
import TopicPlan.Yaml.Tag

/-!
The nodes of a YAML document as a graph: each node has a place, and a collection names its parts by
their places. An alias is the place of the node that its anchor names, so that a node can be part of
several collections, and even of itself. Graphs are read from tokens.
-/

namespace TopicPlan.Yaml

inductive Content where
  | scalar (text : String)
  | sequence (items : List Nat)
  | mapping (entries : List (Nat × Nat))
deriving DecidableEq, Repr

structure Node where
  tag : Tag
  content : Content
deriving DecidableEq, Repr

structure Graph where
  nodes : Array Node
  root : Nat
deriving Repr

namespace Graph

/-- Tokens that are still to be read and the fault after them, what handles stand for, the anchors
so far with the places of their nodes, and the nodes so far. -/
structure Source where
  tokens : List Token
  fault : Option Fault
  handles : List (String × String)
  anchors : List (String × Nat)
  nodes : Array Node

abbrev Reading := StateT Source (Except Fault)

def malformed : Reading α := throw .malformed

/-- The next token, which stays. At the end of the tokens the fault after them comes to light. -/
def next? : Reading (Option Token) := do
  let source ← get
  match source.tokens, source.fault with
  | token :: _, _ => return some token
  | [], some fault => throw fault
  | [], none => return none

def advance : Reading Unit := modify fun s => { s with tokens := s.tokens.drop 1 }

/-- Reads a token if it is the next one. -/
def take? (token : Token) : Reading Bool := do
  if (← next?) == some token then
    advance
    return true
  else return false

def take (token : Token) : Reading Unit := do
  if !(← take? token) then malformed

def addNode (node : Node) : Reading Nat := do
  let place := (← get).nodes.size
  modify fun s => { s with nodes := s.nodes.push node }
  return place

def setContent (place : Nat) (content : Content) : Reading Unit :=
  modify fun s => { s with nodes := s.nodes.modify place fun node => { node with content } }

/-- The node of a place where nothing is written. -/
def empty : Reading Nat := addNode ⟨Tag.ofPlain "", .scalar ""⟩

def knownHandles : List (String × String) :=
  [("!", "!"), ("!!", String.ofList Tag.namespaceStart)]

/-- The name of a tag that leaves the type to the node. -/
def openName : String := "!"

/-- The full name of a tag. Its handle has to be known. -/
def fullName (handle : Option String) (name : String) : Reading String := do
  match handle with
  | none => return name
  | some handle =>
    match (← get).handles.lookup handle with
    | some start => return start ++ name
    | none => malformed

/-- What stands before a node: the anchor that names it, and the full name of its tag. -/
structure Heading where
  anchor : Option String
  tag : Option String

namespace Heading

def isEmpty (heading : Heading) : Bool := heading.anchor.isNone && heading.tag.isNone

/-- The type of a collection that has the type `usual` unless its tag says otherwise. -/
def collectionTag (heading : Heading) (usual : Tag) : Tag :=
  match heading.tag with
  | none => usual
  | some name => if name = openName then usual else Tag.ofName name

/-- The type of a scalar. The type of plain text follows from the text, and so does the type of a
text whose tag leaves it open. -/
def scalarTag (heading : Heading) (plain : Bool) (text : String) : Tag :=
  match heading.tag with
  | none => if plain then Tag.ofPlain text else .str
  | some name => if name = openName then Tag.ofPlain text else Tag.ofName name

end Heading

/-- The anchor and the tag before a node, in either order. -/
def heading : Reading Heading := do
  match ← next? with
  | some (.anchor anchor) =>
    advance
    match ← next? with
    | some (.tag handle name) =>
      advance
      return ⟨some anchor, some (← fullName handle name)⟩
    | _ => return ⟨some anchor, none⟩
  | some (.tag handle name) =>
    advance
    match ← next? with
    | some (.anchor anchor) =>
      advance
      return ⟨some anchor, some (← fullName handle name)⟩
    | _ => return ⟨none, some (← fullName handle name)⟩
  | _ => return ⟨none, none⟩

/-- Adds a node under its anchor, which has to be new, and gives its place. -/
def addNamed (anchor : Option String) (node : Node) : Reading Nat := do
  match anchor with
  | none => addNode node
  | some name =>
    if ((← get).anchors.lookup name).isSome then malformed
    let place ← addNode node
    modify fun s => { s with anchors := (name, place) :: s.anchors }
    return place

/-- Adds a sequence whose items are read after it is known. -/
def addSequence (heading : Heading) (items : Reading (List Nat)) : Reading Nat := do
  let place ← addNamed heading.anchor ⟨heading.collectionTag .seq, .sequence []⟩
  setContent place (.sequence (← items))
  return place

/-- Adds a mapping whose entries are read after it is known. -/
def addMapping (heading : Heading) (entries : Reading (List (Nat × Nat))) : Reading Nat := do
  let place ← addNamed heading.anchor ⟨heading.collectionTag .map, .mapping []⟩
  setContent place (.mapping (← entries))
  return place

def addScalar (heading : Heading) (plain : Bool) (text : String) : Reading Nat :=
  addNamed heading.anchor ⟨heading.scalarTag plain text, .scalar text⟩

/-- The node after the mark of a value, and an empty one where there is no mark. -/
def valueNode (written : Reading Nat) : Reading Nat := do
  if ← take? .value then written else empty

/-- What separates an entry of a flow collection from the one before it. -/
def comma (first : Bool) : Reading Unit := if first then pure () else take .flowEntry

mutual

/-- A node. Block collections are only read where `block` says so, and a sequence without an
indentation of its own only where `indentless` does. -/
def node (block indentless : Bool) : Nat → Reading Nat
  | 0 => malformed
  | bound + 1 => do
    match ← next? with
    | some (.alias name) =>
      advance
      match (← get).anchors.lookup name with
      | some place => return place
      | none => malformed
    | _ =>
      let heading ← heading
      match ← next? with
      | some (.scalar plain text) =>
        advance
        addScalar heading plain text
      | some .flowSequenceStart =>
        advance
        addSequence heading (flowItems true bound)
      | some .flowMappingStart =>
        advance
        addMapping heading (flowEntries true bound)
      | next =>
        if indentless && next == some .blockEntry then
          addSequence heading (indentlessItems bound)
        else if block && next == some .blockSequenceStart then
          advance
          addSequence heading (blockItems bound)
        else if block && next == some .blockMappingStart then
          advance
          addMapping heading (blockEntries bound)
        else if heading.isEmpty then malformed
        else addScalar heading true ""

def nodeUnless (closing : List Token) (block indentless : Bool) : Nat → Reading Nat
  | 0 => malformed
  | bound + 1 => do
    if (← next?).any closing.contains then empty
    else node block indentless bound

def blockItems : Nat → Reading (List Nat)
  | 0 => malformed
  | bound + 1 => do
    if ← take? .blockEntry then
      let item ← nodeUnless [.blockEntry, .blockEnd] true false bound
      return item :: (← blockItems bound)
    else
      take .blockEnd
      return []

/-- The items of a block sequence that is not indented in its mapping. -/
def indentlessItems : Nat → Reading (List Nat)
  | 0 => malformed
  | bound + 1 => do
    if ← take? .blockEntry then
      let item ← nodeUnless [.blockEntry, .key, .value, .blockEnd] true false bound
      return item :: (← indentlessItems bound)
    else return []

def blockEntries : Nat → Reading (List (Nat × Nat))
  | 0 => malformed
  | bound + 1 => do
    if ← take? .key then
      let key ← nodeUnless [.key, .value, .blockEnd] true true bound
      let value ← valueNode (nodeUnless [.key, .value, .blockEnd] true true bound)
      return (key, value) :: (← blockEntries bound)
    else
      take .blockEnd
      return []

/-- The items of a flow sequence. A key among them is a mapping of one entry. -/
def flowItems (first : Bool) : Nat → Reading (List Nat)
  | 0 => malformed
  | bound + 1 => do
    if ← take? .flowSequenceEnd then return []
    comma first
    if ← take? .key then
      let pair ← addMapping ⟨none, none⟩ (List.singleton <$> flowPair bound)
      return pair :: (← flowItems false bound)
    else if ← take? .flowSequenceEnd then return []
    else
      let item ← node false false bound
      return item :: (← flowItems false bound)

/-- The single entry of a mapping among the items of a flow sequence. -/
def flowPair : Nat → Reading (Nat × Nat)
  | 0 => malformed
  | bound + 1 => do
    let key ← nodeUnless [.value, .flowEntry, .flowSequenceEnd] false false bound
    let value ← valueNode (nodeUnless [.flowEntry, .flowSequenceEnd] false false bound)
    return (key, value)

/-- The entries of a flow mapping. An entry that is no key has an empty value. -/
def flowEntries (first : Bool) : Nat → Reading (List (Nat × Nat))
  | 0 => malformed
  | bound + 1 => do
    if ← take? .flowMappingEnd then return []
    comma first
    if ← take? .key then
      let key ← nodeUnless [.value, .flowEntry, .flowMappingEnd] false false bound
      let value ← valueNode (nodeUnless [.flowEntry, .flowMappingEnd] false false bound)
      return (key, value) :: (← flowEntries false bound)
    else if ← take? .flowMappingEnd then return []
    else
      let key ← node false false bound
      return (key, ← empty) :: (← flowEntries false bound)

end

def documentEnds : Nat → Reading Unit
  | 0 => pure ()
  | bound + 1 => do
    if ← take? .documentEnd then documentEnds bound

/-- The directives before a document: at most one names the version, whose major number is one, and
each handle gets one meaning. -/
def directives (hasVersion : Bool) (handles : List (String × String)) :
    Nat → Reading (List (String × String))
  | 0 => pure handles
  | bound + 1 => do
    match ← next? with
    | some (.version major) =>
      advance
      if hasVersion || major ≠ 1 then malformed
      directives true handles bound
    | some (.tagHandle handle start) =>
      advance
      if (handles.lookup handle).isSome then malformed
      directives hasVersion ((handle, start) :: handles) bound
    | some .directive =>
      advance
      directives hasVersion handles bound
    | _ => return handles

def beginsDocument : Token → Bool
  | .version _ | .tagHandle .. | .directive | .documentStart => true
  | _ => false

/-- Directives, and the line that begins a document after them. -/
def documentStart (bound : Nat) : Reading Unit := do
  let handles ← directives false [] bound
  modify fun s => { s with handles := handles ++ knownHandles }
  take .documentStart

/-- The beginning of the only document, and whether it is written. -/
def beginning (bound : Nat) : Reading Bool := do
  let explicit := (← next?).any beginsDocument
  if explicit then documentStart bound
  return explicit

/-- The root of a document, which may be empty behind a line that begins the document. -/
def documentRoot (explicit : Bool) (bound : Nat) : Reading Nat := do
  let ends := (← next?).all fun token => beginsDocument token || token == .documentEnd
  if explicit && ends then empty else node true false bound

/-- What comes after the root of the only document. A second one is refused when the line that begins
it has been read. -/
def ending (bound : Nat) : Reading Unit := do
  documentEnds bound
  if (← next?).isSome then
    documentStart bound
    malformed

/-- The place of the only document's root in a text, which may have no document. -/
def document (bound : Nat) : Reading (Option Nat) := do
  if (← next?).isNone then return none
  let explicit ← beginning bound
  let root ← documentRoot explicit bound
  ending bound
  return some root

/-- The graph that a text's tokens make; none if there is no document. -/
def ofText (text : List Char) : Except Fault (Option Graph) := do
  let ⟨tokens, fault⟩ := tokens text
  let reading := document (2 * tokens.length + 2)
  let (root?, source) ← reading.run ⟨tokens, fault, knownHandles, [], #[]⟩
  return root?.map fun root => ⟨source.nodes, root⟩

end Graph

end TopicPlan.Yaml
