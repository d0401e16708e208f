import TopicPlan.Yaml.Graph
import TopicPlan.Yaml.Typed

/-!
The objects that the nodes of a graph denote. Each node denotes one object, under the node's own
place, however many collections it is part of. A collection is known before its parts are: it is put
on a list and filled when its turn comes, after the collections that were met before it. So a
collection can be part of itself, and of two faults the one that is less deep inside comes first.
-/

namespace TopicPlan.Yaml

open Data

/-- The object of a node. Parts are given by the places of their nodes. -/
inductive Object where
  | scalar (value : Scalar)
  | list (items : List Nat)
  | pairs (entries : List (Nat × Nat))
  | map (entries : List (Nat × Nat))
  | set (members : List Nat)
deriving DecidableEq, Repr

namespace Object

structure Site where
  /-- The nodes, into which the entries of merged mappings are taken over. -/
  nodes : Array Node
  /-- The objects so far. -/
  objects : Array (Option Object)
  /-- The places of the collections that are still to be filled, the last one first. -/
  waiting : List Nat

abbrev Building := StateT Site (Except Fault)

def malformed : Building α := throw .malformed

def nodeAt (place : Nat) : Building Node := do
  match (← get).nodes[place]? with
  | some node => return node
  | none => malformed

def objectAt? (place : Nat) : Building (Option Object) :=
  return ((← get).objects[place]?).join

def setObject (place : Nat) (object : Object) : Building Unit :=
  modify fun s => { s with objects := s.objects.setIfInBounds place (some object) }

def entriesAt (place : Nat) : Building (List (Nat × Nat)) := do
  match (← nodeAt place).content with
  | .mapping entries => return entries
  | _ => malformed

def setEntries (place : Nat) (entries : List (Nat × Nat)) : Building Unit :=
  modify fun s => { s with
    nodes := s.nodes.modify place fun node => { node with content := .mapping entries } }

def tagAt (place : Nat) : Building Tag := return (← nodeAt place).tag

/-! Merging. -/

/-- The first entry of a mapping that merges others, between the entries before and after it. -/
def splitAtMerge : List (Nat × Nat) → Building (List (Nat × Nat) × Option (Nat × List (Nat × Nat)))
  | [] => return ([], none)
  | (key, value) :: rest => do
    if (← tagAt key) = .merge then return ([], some (value, rest))
    let (before, found) ← splitAtMerge rest
    return ((key, value) :: before, found)

/-- A key that would stand for its whole mapping is an ordinary text among other keys. -/
def settleKeys (entries : List (Nat × Nat)) : Building Unit :=
  entries.forM fun (key, _) => do
    if (← tagAt key) = .value then
      modify fun s => { s with nodes := s.nodes.modify key fun node => { node with tag := .str } }

mutual

/-- Takes the entries of merged mappings over into a mapping, before its own entries, and gives all
of them. `bound` bounds the number of merging entries. -/
def flatten : Nat → Nat → Building (List (Nat × Nat))
  | 0, _ => malformed
  | bound + 1, place => do
    let merged ← mergeInto bound place
    let own ← entriesAt place
    if !merged.isEmpty then setEntries place (merged ++ own)
    return merged ++ own

/-- The entries that a mapping's merging entries bring; these entries are taken out. Of several
mappings in a sequence, the first one's entries come last, so that they win. -/
def mergeInto : Nat → Nat → Building (List (Nat × Nat))
  | 0, _ => malformed
  | bound + 1, place => do
    let entries ← entriesAt place
    settleKeys entries
    match ← splitAtMerge entries with
    | (_, none) => return []
    | (before, some (value, after)) =>
      setEntries place (before ++ after)
      let more ← match (← nodeAt value).content with
        | .mapping _ => flatten bound value
        | .sequence items =>
          let merged ← items.mapM fun item => do
            let _ ← entriesAt item
            flatten bound item
          pure merged.reverse.flatten
        | .scalar _ => malformed
      return more ++ (← mergeInto bound place)

end

/-! Keys. -/

def scalarAt? (place : Nat) : Building (Option Scalar) := do
  match ← objectAt? place with
  | some (.scalar value) => return some value
  | _ => return none

/-- Whether the number that is none is given by the word for it, and not by a numeral. -/
def isNoneWord (text : String) : Bool := text.toList.contains '.' && !text.toList.contains ':'

/-- Whether two keys are one. Of the numbers that are none, only those given by the word are. -/
def isSameKey (a b : Nat) : Building Bool := do
  if a = b then return true
  match ← scalarAt? a, ← scalarAt? b with
  | some (.real .nan), some (.real .nan) =>
    match (← nodeAt a).content, (← nodeAt b).content with
    | .scalar s, .scalar t => return isNoneWord s && isNoneWord t
    | _, _ => return false
  | some a, some b => return a.isSameKey b
  | _, _ => return false

/-- The entries with one more; a known key keeps its place and changes its value. -/
def insert (key value : Nat) : List (Nat × Nat) → Building (List (Nat × Nat))
  | [] => return [(key, value)]
  | (k, v) :: rest => do
    if ← isSameKey k key then return (k, value) :: rest
    else return (k, v) :: (← insert key value rest)

/-! Objects. -/

/-- The text of a scalar. The entry of a mapping whose key says so stands for the mapping. There are
at most as many mappings inside each other as nodes. -/
def textAt : Nat → Nat → Building String
  | 0, _ => throw .endless
  | bound + 1, place => do
    match (← nodeAt place).content with
    | .scalar text => return text
    | .sequence _ => malformed
    | .mapping entries =>
      match ← entries.findM? fun (key, _) => return (← tagAt key) = .value with
      | some (_, value) => textAt bound value
      | none => malformed

/-- The object of a scalar's type. A time is read from its node alone. -/
def scalarOf (tag : Tag) (place : Nat) : Building Object := do
  if !tag.isOfScalars then malformed
  let text ← textAt (← get).nodes.size place
  match (← nodeAt place).content, tag with
  | .mapping _, .timestamp => throw .timeOfMapping
  | _, _ =>
    match tag.valueOf? text with
    | some (.ok value) => return .scalar value
    | some (.error fault) => throw fault
    | none => malformed

def unfilled? : Tag → Option Object
  | .seq => some (.list [])
  | .pairs => some (.pairs [])
  | .map => some (.map [])
  | .set => some (.set [])
  | _ => none

def singleEntry (place : Nat) : Building (Nat × Nat) := do
  match ← entriesAt place with
  | [entry] => return entry
  | _ => malformed

def partCount (nodes : Array Node) : Nat :=
  nodes.toList.foldl (fun count node =>
    match node.content with
    | .mapping entries => count + entries.length
    | .sequence items => count + items.length
    | .scalar _ => count) 0

/-- The entries of a mapping with those of the mappings that it merges. Each merging entry is taken
out before what it merges is looked at, so that there are at most as many steps as parts. -/
def flattened (place : Nat) : Building (List (Nat × Nat)) := do
  flatten (2 * partCount (← get).nodes + 2) place

/-- Makes the object of a node known. A collection is filled later. -/
def make (place : Nat) : Building Unit := do
  if (← objectAt? place).isSome then return
  let tag ← tagAt place
  match unfilled? tag with
  | none => setObject place (← scalarOf tag place)
  | some object =>
    setObject place object
    modify fun s => { s with waiting := place :: s.waiting }

/-- Entries whose keys and values are made one after the other. Keys have to be scalars; of equal
keys the last value counts. -/
def makeEntries (entries : List (Nat × Nat)) : Building (List (Nat × Nat)) :=
  entries.foldlM (fun made (key, value) => do
    make key
    if (← scalarAt? key).isNone then malformed
    make value
    insert key value made) []

def makePairs (items : List Nat) : Building (List (Nat × Nat)) :=
  items.mapM fun item => do
    let (key, value) ← singleEntry item
    make key
    make value
    return (key, value)

def filled (place : Nat) : Building Object := do
  let node ← nodeAt place
  match node.tag, node.content with
  | .seq, .sequence items =>
    items.forM make
    return .list items
  | .pairs, .sequence items => return .pairs (← makePairs items)
  | .map, .mapping _ => return .map (← makeEntries (← flattened place))
  | .set, .mapping _ => return .set ((← makeEntries (← flattened place)).map (·.1))
  | _, _ => malformed

/-- Fills the collections that wait, in the order in which they were met, and then those that these
brought up, at most `rounds` times. -/
def fillWaiting : Nat → Building Unit
  | 0 => malformed
  | rounds + 1 => do
    let waiting := (← get).waiting
    if waiting.isEmpty then return
    modify fun s => { s with waiting := [] }
    waiting.reverse.forM fun place => do setObject place (← filled place)
    fillWaiting rounds

/-- Makes the objects of a graph. Every node waits at most once. -/
def makeGraph (root : Nat) : Building Unit := do
  make root
  fillWaiting ((← get).nodes.size + 1)

def ofGraph (graph : Graph) : Except Fault (Array (Option Object)) := do
  let objects := Array.replicate graph.nodes.size none
  let (_, site) ← (makeGraph graph.root).run ⟨graph.nodes, objects, []⟩
  return site.objects

/-! Values. -/

/-- How many collections are around a part before the one that is its own, if that is around it. -/
def level? (around : List (Option Nat)) (place : Nat) : Option Nat :=
  around.idxOf? (some place)

/-- The value of the object at a place. `around` has the places of the collections around it, the
innermost first, and `bound` bounds how many more can be inside it. -/
def valueAt (objects : Array (Option Object)) : Nat → List (Option Nat) → Nat → Value
  | 0, _, _ => .null
  | bound + 1, around, place =>
    match objects[place]?.join with
    | none => .null
    | some (.scalar value) => .scalar value
    | some (.set members) => .set (members.filterMap (scalarIn? objects))
    | some object =>
      match level? around place with
      | some level => .enclosing level
      | none =>
        let part := valueAt objects bound (some place :: around)
        match object with
        | .map entries =>
          .map (entries.filterMap fun (key, value) =>
            (scalarIn? objects key).map fun key => (key, part value))
        | .list items => .list (items.map part)
        | .pairs entries =>
          let half := valueAt objects bound (none :: some place :: around)
          .list (entries.map fun (key, value) => .list [half key, half value])
        | _ => .null
where
  /-- The scalar at a place, if its object is one. -/
  scalarIn? (objects : Array (Option Object)) (place : Nat) : Option Scalar :=
    match objects[place]?.join with
    | some (.scalar value) => some value
    | _ => none

def value (objects : Array (Option Object)) (place : Nat) : Value :=
  valueAt objects (objects.size + 1) [] place

end Object

end TopicPlan.Yaml
