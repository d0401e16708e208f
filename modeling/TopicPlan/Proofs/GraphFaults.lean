import TopicPlan.Proofs.LexicalFaults
import TopicPlan.Yaml.Graph

/-! Faults on the way from tokens to nodes. A graph is read until its tokens do not fit, which is
malformed, or until they end with the fault that the lexer found. -/
namespace TopicPlan.Yaml.Graph

variable {α : Type} {text : List Char}

/-- Tokens whose fault stands in a text. -/
def ReadsFrom (text : List Char) (source : Source) : Prop :=
  ∀ fault, source.fault = some fault → fault.StandsIn text

abbrev Sound (text : List Char) (reading : Reading α) : Prop :=
  Preserves (Fault.StandsIn text) (ReadsFrom text) reading fun _ => True

theorem malformed_sound : Sound text (malformed : Reading α) := Preserves.throw trivial

theorem next?_sound : Sound text next? := by
  refine Preserves.get.bind fun source hsource => ?_
  split
  · exact Preserves.pure trivial
  · next fault _ hfault => exact Preserves.throw (hsource fault hfault)
  · exact Preserves.pure trivial

theorem advance_sound : Sound text advance := Preserves.modify fun _ hsource => hsource

theorem take?_sound (token : Token) : Sound text (take? token) := by
  refine next?_sound.bind fun next _ => ?_
  split
  · exact advance_sound.bind_pure _
  · exact Preserves.pure trivial

theorem take_sound (token : Token) : Sound text (take token) := by
  refine (take?_sound token).bind fun taken _ => ?_
  split
  · exact malformed_sound
  · exact Preserves.pure trivial

theorem addNode_sound (node : Node) : Sound text (addNode node) := by
  refine Preserves.get.bind fun source _ => ?_
  refine Preserves.bind (Preserves.modify fun _ hsource => hsource) fun _ _ => ?_
  exact Preserves.pure trivial

theorem setContent_sound (place : Nat) (content : Content) : Sound text (setContent place content) :=
  Preserves.modify fun _ hsource => hsource

theorem empty_sound : Sound text empty := addNode_sound _

theorem valueNode_sound {written : Reading Nat} (h : Sound text written) :
    Sound text (valueNode written) := by
  refine (take?_sound _).bind fun taken _ => ?_
  split
  · exact h
  · exact empty_sound

theorem comma_sound (first : Bool) : Sound text (comma first) := by
  unfold comma
  split
  · exact Preserves.pure trivial
  · exact take_sound _

theorem fullName_sound (handle : Option String) (name : String) :
    Sound text (fullName handle name) := by
  unfold fullName
  split
  · exact Preserves.pure trivial
  · refine Preserves.get.bind fun source _ => ?_
    split
    · exact Preserves.pure trivial
    · exact malformed_sound

theorem heading_sound : Sound text heading := by
  refine next?_sound.bind fun first _ => ?_
  split
  · refine advance_sound.bind fun _ _ => next?_sound.bind fun second _ => ?_
    split
    · exact advance_sound.bind fun _ _ => (fullName_sound _ _).bind_pure _
    · exact Preserves.pure trivial
  · refine advance_sound.bind fun _ _ => next?_sound.bind fun second _ => ?_
    split
    · exact advance_sound.bind fun _ _ => (fullName_sound _ _).bind_pure _
    · exact (fullName_sound _ _).bind_pure _
  · exact Preserves.pure trivial

theorem addNamed_sound (anchor : Option String) (node : Node) :
    Sound text (addNamed anchor node) := by
  unfold addNamed
  split
  · exact addNode_sound node
  · refine Preserves.get.bind fun source _ => ?_
    split
    · exact malformed_sound
    · refine (addNode_sound node).bind fun place _ => ?_
      refine Preserves.bind (Preserves.modify fun _ hsource => hsource) fun _ _ => ?_
      exact Preserves.pure trivial

theorem addSequence_sound (heading : Heading) {items : Reading (List Nat)}
    (h : Sound text items) : Sound text (addSequence heading items) :=
  (addNamed_sound _ _).bind fun place _ => h.bind fun _ _ => (setContent_sound place _).bind_pure _

theorem addMapping_sound (heading : Heading) {entries : Reading (List (Nat × Nat))}
    (h : Sound text entries) : Sound text (addMapping heading entries) :=
  (addNamed_sound _ _).bind fun place _ => h.bind fun _ _ => (setContent_sound place _).bind_pure _

theorem addScalar_sound (heading : Heading) (plain : Bool) (value : String) :
    Sound text (addScalar heading plain value) :=
  addNamed_sound _ _

/-- Readings of nodes and of their parts with a number of steps. -/
structure NodesSound (text : List Char) (bound : Nat) : Prop where
  node (block indentless : Bool) : Sound text (node block indentless bound)
  nodeUnless (closing : List Token) (block indentless : Bool) :
    Sound text (nodeUnless closing block indentless bound)
  blockItems : Sound text (blockItems bound)
  indentlessItems : Sound text (indentlessItems bound)
  blockEntries : Sound text (blockEntries bound)
  flowItems (first : Bool) : Sound text (flowItems first bound)
  flowPair : Sound text (flowPair bound)
  flowEntries (first : Bool) : Sound text (flowEntries first bound)

namespace NodesSound

variable {bound : Nat}

theorem node_succ (h : NodesSound text bound) (block indentless : Bool) :
    Sound text (Graph.node block indentless (bound + 1)) := by
  unfold Graph.node
  refine next?_sound.bind fun first _ => ?_
  split
  · refine advance_sound.bind fun _ _ => Preserves.get.bind fun source _ => ?_
    split
    · exact Preserves.pure trivial
    · exact malformed_sound
  · refine heading_sound.bind fun heading _ => next?_sound.bind fun second _ => ?_
    split
    · exact advance_sound.bind fun _ _ => addScalar_sound _ _ _
    · exact advance_sound.bind fun _ _ => addSequence_sound _ (h.flowItems true)
    · exact advance_sound.bind fun _ _ => addMapping_sound _ (h.flowEntries true)
    · split
      · exact addSequence_sound _ h.indentlessItems
      · split
        · exact advance_sound.bind fun _ _ => addSequence_sound _ h.blockItems
        · split
          · exact advance_sound.bind fun _ _ => addMapping_sound _ h.blockEntries
          · split
            · exact malformed_sound
            · exact addScalar_sound _ _ _

theorem nodeUnless_succ (h : NodesSound text bound) (closing : List Token)
    (block indentless : Bool) :
    Sound text (Graph.nodeUnless closing block indentless (bound + 1)) := by
  unfold Graph.nodeUnless
  refine next?_sound.bind fun next _ => ?_
  split
  · exact empty_sound
  · exact h.node block indentless

theorem blockItems_succ (h : NodesSound text bound) : Sound text (Graph.blockItems (bound + 1)) := by
  unfold Graph.blockItems
  refine (take?_sound _).bind fun taken _ => ?_
  split
  · refine (h.nodeUnless _ _ _).bind fun item _ => ?_
    exact h.blockItems.bind_pure _
  · exact (take_sound _).bind_pure _

theorem indentlessItems_succ (h : NodesSound text bound) :
    Sound text (Graph.indentlessItems (bound + 1)) := by
  unfold Graph.indentlessItems
  refine (take?_sound _).bind fun taken _ => ?_
  split
  · refine (h.nodeUnless _ _ _).bind fun item _ => ?_
    exact h.indentlessItems.bind_pure _
  · exact Preserves.pure trivial

theorem blockEntries_succ (h : NodesSound text bound) :
    Sound text (Graph.blockEntries (bound + 1)) := by
  unfold Graph.blockEntries
  refine (take?_sound _).bind fun taken _ => ?_
  split
  · refine (h.nodeUnless _ _ _).bind fun key _ => ?_
    refine (valueNode_sound (h.nodeUnless _ _ _)).bind fun value _ => ?_
    exact h.blockEntries.bind_pure _
  · exact (take_sound _).bind_pure _

theorem flowPair_succ (h : NodesSound text bound) : Sound text (Graph.flowPair (bound + 1)) := by
  unfold Graph.flowPair
  refine (h.nodeUnless _ _ _).bind fun key _ => ?_
  exact (valueNode_sound (h.nodeUnless _ _ _)).bind_pure _

theorem flowItems_succ (h : NodesSound text bound) (first : Bool) :
    Sound text (Graph.flowItems first (bound + 1)) := by
  unfold Graph.flowItems
  refine (take?_sound _).bind fun ended _ => ?_
  split
  · exact Preserves.pure trivial
  · refine (comma_sound first).bind fun _ _ => ?_
    refine (take?_sound _).bind fun keyed _ => ?_
    split
    · refine (addMapping_sound _ ?_).bind fun pair _ => ?_
      · exact Preserves.map _ h.flowPair
      · exact (h.flowItems false).bind_pure _
    · refine (take?_sound _).bind fun ended _ => ?_
      split
      · exact Preserves.pure trivial
      · refine (h.node false false).bind fun item _ => ?_
        exact (h.flowItems false).bind_pure _

theorem flowEntries_succ (h : NodesSound text bound) (first : Bool) :
    Sound text (Graph.flowEntries first (bound + 1)) := by
  unfold Graph.flowEntries
  refine (take?_sound _).bind fun ended _ => ?_
  split
  · exact Preserves.pure trivial
  · refine (comma_sound first).bind fun _ _ => ?_
    refine (take?_sound _).bind fun keyed _ => ?_
    split
    · refine (h.nodeUnless _ _ _).bind fun key _ => ?_
      refine (valueNode_sound (h.nodeUnless _ _ _)).bind fun value _ => ?_
      exact (h.flowEntries false).bind_pure _
    · refine (take?_sound _).bind fun ended _ => ?_
      split
      · exact Preserves.pure trivial
      · refine (h.node false false).bind fun key _ => empty_sound.bind fun value _ => ?_
        exact (h.flowEntries false).bind_pure _

end NodesSound

theorem nodesSound (text : List Char) (bound : Nat) : NodesSound text bound := by
  induction bound with
  | zero =>
    constructor <;> intros
    · unfold node; exact malformed_sound
    · unfold nodeUnless; exact malformed_sound
    · unfold blockItems; exact malformed_sound
    · unfold indentlessItems; exact malformed_sound
    · unfold blockEntries; exact malformed_sound
    · unfold flowItems; exact malformed_sound
    · unfold flowPair; exact malformed_sound
    · unfold flowEntries; exact malformed_sound
  | succ bound ih =>
    exact ⟨ih.node_succ, ih.nodeUnless_succ, ih.blockItems_succ, ih.indentlessItems_succ,
      ih.blockEntries_succ, ih.flowItems_succ, ih.flowPair_succ, ih.flowEntries_succ⟩

/-! Documents. -/

theorem documentEnds_sound (bound : Nat) : Sound text (documentEnds bound) := by
  induction bound with
  | zero => exact Preserves.pure trivial
  | succ bound ih =>
    refine (take?_sound _).bind fun taken _ => ?_
    split
    · exact ih
    · exact Preserves.pure trivial

theorem directives_sound (bound : Nat) (hasVersion : Bool) (handles : List (String × String)) :
    Sound text (directives hasVersion handles bound) := by
  induction bound generalizing hasVersion handles with
  | zero => exact Preserves.pure trivial
  | succ bound ih =>
    refine next?_sound.bind fun next _ => ?_
    split
    · refine advance_sound.bind fun _ _ => ?_
      dsimp only
      split
      · exact malformed_sound
      · exact ih _ _
    · refine advance_sound.bind fun _ _ => ?_
      dsimp only
      split
      · exact malformed_sound
      · exact ih _ _
    · exact advance_sound.bind fun _ _ => ih _ _
    · exact Preserves.pure trivial

theorem documentStart_sound (bound : Nat) : Sound text (documentStart bound) := by
  refine (directives_sound bound false []).bind fun handles _ => ?_
  refine Preserves.bind (Preserves.modify fun _ hsource => hsource) fun _ _ => ?_
  exact take_sound _

theorem beginning_sound (bound : Nat) : Sound text (beginning bound) := by
  refine next?_sound.bind fun next _ => ?_
  dsimp only
  split
  · exact (documentStart_sound bound).bind_pure _
  · exact Preserves.pure trivial

theorem documentRoot_sound (explicit : Bool) (bound : Nat) :
    Sound text (documentRoot explicit bound) := by
  refine next?_sound.bind fun next _ => ?_
  dsimp only
  split
  · exact empty_sound
  · exact (nodesSound text bound).node true false

theorem ending_sound (bound : Nat) : Sound text (ending bound) := by
  refine (documentEnds_sound bound).bind fun _ _ => next?_sound.bind fun last _ => ?_
  split
  · exact (documentStart_sound bound).bind fun _ _ => malformed_sound
  · exact Preserves.pure trivial

theorem document_sound (bound : Nat) : Sound text (document bound) := by
  refine next?_sound.bind fun first _ => ?_
  split
  · exact Preserves.pure trivial
  · refine (beginning_sound bound).bind fun explicit _ => ?_
    refine (documentRoot_sound explicit bound).bind fun root _ => ?_
    exact (ending_sound bound).bind_pure _

/-- A text that makes no graph has what its fault tells. -/
theorem standsIn_of_ofText {fault : Fault} (h : ofText text = .error fault) :
    fault.StandsIn text := by
  let source : Source := ⟨(tokens text).tokens, (tokens text).fault, knownHandles, [], #[]⟩
  have hends := document_sound (2 * (tokens text).tokens.length + 2) source fun _ => tokens_fault
  change (document (2 * (tokens text).tokens.length + 2) source >>= fun found =>
    pure (found.1.map fun root => Graph.mk found.2.nodes root)) = .error fault at h
  generalize document _ source = outcome at h hends
  cases outcome with
  | ok found => cases h
  | error other => cases h; exact hends

end TopicPlan.Yaml.Graph
