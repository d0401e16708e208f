import TopicPlan.Proofs.FaultLogic
import TopicPlan.Yaml.Object

/-! Faults of nodes. The tokens of a text may make a graph whose nodes denote nothing: a scalar has
not the form that its type asks for. While objects are made, nodes change their parts and forget
that they stand for others, and are otherwise what they were; so each fault is that of a node of the
graph and its own text. -/
namespace TopicPlan.Yaml

/-- Contents of one kind, which are the same text where they are scalars. -/
inductive Content.Alike : Content → Content → Prop where
  | scalar (text : String) : Alike (.scalar text) (.scalar text)
  | sequence (items others : List Nat) : Alike (.sequence items) (.sequence others)
  | mapping (entries others : List (Nat × Nat)) : Alike (.mapping entries) (.mapping others)

theorem Content.Alike.refl (content : Content) : content.Alike content := by
  cases content <;> constructor

theorem Content.Alike.of_scalar {content : Content} {text : String}
    (h : content.Alike (.scalar text)) : content = .scalar text := by
  cases h
  rfl

theorem Content.Alike.of_mapping {content : Content} {entries : List (Nat × Nat)}
    (h : content.Alike (.mapping entries)) : ∃ others, content = .mapping others := by
  cases h
  exact ⟨_, rfl⟩

/-- A node whose parts may be others by now, and that may be a text now. -/
structure Node.Became (before after : Node) : Prop where
  tag : after.tag = before.tag ∨ after.tag = .str
  content : before.content.Alike after.content

/-- Where in a graph a fault comes from: a scalar whose text is none of its type, a mapping for
which such a text stands, a mapping that is to be a time, or one that stands for itself. -/
inductive Graph.Faulty (graph : Graph) : Fault → Prop where
  | malformed : Faulty graph .malformed
  | scalar {node : Node} {text : String} {fault : Fault} (hnode : node ∈ graph.nodes)
      (hcontent : node.content = .scalar text) (h : node.tag.valueOf? text = some (.error fault)) :
      Faulty graph fault
  | mapping {node part : Node} {entries : List (Nat × Nat)} {text : String} {fault : Fault}
      (hnode : node ∈ graph.nodes) (hcontent : node.content = .mapping entries)
      (hpart : part ∈ graph.nodes) (htext : part.content = .scalar text)
      (h : node.tag.valueOf? text = some (.error fault)) : Faulty graph fault
  | time {node : Node} {entries : List (Nat × Nat)} (hnode : node ∈ graph.nodes)
      (hcontent : node.content = .mapping entries) (htag : node.tag = .timestamp) :
      Faulty graph .timeOfMapping
  | endless : Faulty graph .endless

namespace Object

variable {α β : Type} {graph : Graph}

def BuildsOn (graph : Graph) (site : Site) : Prop :=
  ∀ (place : Nat) (node : Node), site.nodes[place]? = some node →
    ∃ origin : Node, graph.nodes[place]? = some origin ∧ origin.Became node

/-- A step of a building on a graph, whose faults are those of the graph's nodes. -/
abbrev Follows (graph : Graph) (step : Building α) (post : α → Prop) : Prop :=
  Preserves graph.Faulty (BuildsOn graph) step post

abbrev Sound (graph : Graph) (step : Building α) : Prop := Follows graph step fun _ => True

theorem malformed_follows {post : α → Prop} : Follows graph (malformed : Building α) post :=
  Preserves.throw .malformed

def IsMapping (graph : Graph) (place : Nat) : Prop :=
  ∃ (origin : Node) (entries : List (Nat × Nat)),
    graph.nodes[place]? = some origin ∧ origin.content = .mapping entries

theorem nodeAt_follows (place : Nat) : Follows graph (nodeAt place) fun node =>
    ∃ origin : Node, graph.nodes[place]? = some origin ∧ origin.Became node := by
  refine Preserves.get.bind fun site hsite => ?_
  cases hnode : site.nodes[place]? with
  | some node => exact Preserves.pure (hsite place node hnode)
  | none => exact malformed_follows

theorem objectAt?_sound (place : Nat) : Sound graph (objectAt? place) :=
  Preserves.get.bind_pure _

theorem setObject_sound (place : Nat) (object : Object) : Sound graph (setObject place object) :=
  Preserves.modify fun _ hsite => hsite

theorem isMapping_of_became {place : Nat} {node : Node} {entries : List (Nat × Nat)}
    (h : ∃ origin : Node, graph.nodes[place]? = some origin ∧ origin.Became node)
    (hcontent : node.content = .mapping entries) : IsMapping graph place := by
  obtain ⟨origin, horigin, -, halike⟩ := h
  obtain ⟨others, hothers⟩ := (hcontent ▸ halike).of_mapping
  exact ⟨origin, others, horigin, hothers⟩

theorem entriesAt_follows (place : Nat) :
    Follows graph (entriesAt place) fun _ => IsMapping graph place := by
  refine (nodeAt_follows place).bind fun node hnode => ?_
  split
  · next hcontent => exact Preserves.pure (isMapping_of_became hnode hcontent)
  · exact malformed_follows

theorem change_sound {place : Nat} {change : Node → Node}
    (h : ∀ origin node : Node, graph.nodes[place]? = some origin → origin.Became node →
      origin.Became (change node)) :
    Sound graph (modify fun s => { s with nodes := s.nodes.modify place change }) := by
  refine Preserves.modify fun site hsite other node hnode => ?_
  rw [Array.getElem?_modify] at hnode
  split at hnode
  · next hplace =>
    obtain ⟨earlier, hearlier, rfl⟩ := Option.map_eq_some_iff.mp hnode
    obtain ⟨origin, horigin, hbecame⟩ := hsite other earlier hearlier
    exact ⟨origin, horigin, h origin earlier (hplace ▸ horigin) hbecame⟩
  · exact hsite other node hnode

theorem setEntries_sound {place : Nat} (entries : List (Nat × Nat)) (h : IsMapping graph place) :
    Sound graph (setEntries place entries) := by
  refine change_sound fun origin node horigin hbecame => ⟨hbecame.tag, ?_⟩
  obtain ⟨mapping, others, hmapping, hothers⟩ := h
  obtain rfl := Option.some.inj (horigin.symm.trans hmapping)
  exact hothers ▸ .mapping others entries

theorem tagAt_follows (place : Nat) : Follows graph (tagAt place) fun tag =>
    ∃ origin : Node, graph.nodes[place]? = some origin ∧ (tag = origin.tag ∨ tag = .str) := by
  refine (nodeAt_follows place).bind fun node hnode => ?_
  obtain ⟨origin, horigin, hbecame⟩ := hnode
  exact Preserves.pure ⟨origin, horigin, hbecame.tag⟩

/-! Merging. -/

theorem splitAtMerge_sound (entries : List (Nat × Nat)) : Sound graph (splitAtMerge entries) := by
  induction entries with
  | nil => exact Preserves.pure trivial
  | cons entry rest ih =>
    unfold splitAtMerge
    refine (tagAt_follows entry.1).bind fun tag _ => ?_
    split
    · exact Preserves.pure trivial
    · exact ih.bind_pure _

theorem settleKeys_sound (entries : List (Nat × Nat)) : Sound graph (settleKeys entries) := by
  refine Preserves.forM fun entry _ => (tagAt_follows entry.1).bind fun tag _ => ?_
  split
  · exact change_sound fun _ _ _ hbecame => ⟨.inr rfl, hbecame.content⟩
  · exact Preserves.pure trivial

section Step

variable {bound : Nat} (hflatten : ∀ place, Sound graph (flatten bound place))
  (hmerge : ∀ place, Sound graph (mergeInto bound place))

include hmerge in
theorem flatten_sound_succ (place : Nat) : Sound graph (flatten (bound + 1) place) := by
  unfold flatten
  refine (hmerge place).bind fun merged _ => ?_
  refine (entriesAt_follows place).bind fun own hplace => ?_
  dsimp only
  split
  · exact (setEntries_sound _ hplace).bind_pure _
  · exact Preserves.pure trivial

include hflatten hmerge in
theorem mergeInto_sound_succ (place : Nat) : Sound graph (mergeInto (bound + 1) place) := by
  unfold mergeInto
  refine (entriesAt_follows place).bind fun entries hplace => ?_
  refine (settleKeys_sound entries).bind fun _ _ => ?_
  refine (splitAtMerge_sound entries).bind fun parts _ => ?_
  split
  · exact Preserves.pure trivial
  · refine (setEntries_sound _ hplace).bind fun _ _ => ?_
    refine (nodeAt_follows _).bind fun node _ => ?_
    have hgoes (more : List (Nat × Nat)) : Sound graph do
        return more ++ (← mergeInto bound place) :=
      (hmerge place).bind_pure _
    dsimp only
    split
    · exact (hflatten _).bind fun more _ => hgoes more
    · next items _ =>
      refine Preserves.bind (Preserves.mapM fun item _ => ?_) fun merged _ =>
        hgoes merged.reverse.flatten
      exact (entriesAt_follows item).bind fun _ _ => hflatten item
    · exact malformed_follows

end Step

theorem merging_sound (bound : Nat) :
    (∀ place, Sound graph (flatten bound place)) ∧ ∀ place, Sound graph (mergeInto bound place) := by
  induction bound with
  | zero =>
    unfold flatten mergeInto
    exact ⟨fun _ => malformed_follows, fun _ => malformed_follows⟩
  | succ bound ih => exact ⟨flatten_sound_succ ih.2, mergeInto_sound_succ ih.1 ih.2⟩

/-! Keys. -/

theorem scalarAt?_sound (place : Nat) : Sound graph (scalarAt? place) := by
  refine (objectAt?_sound place).bind fun object? _ => ?_
  split
  · exact Preserves.pure trivial
  · exact Preserves.pure trivial

theorem isSameKey_sound (a b : Nat) : Sound graph (isSameKey a b) := by
  unfold isSameKey
  split
  · exact Preserves.pure trivial
  · refine (scalarAt?_sound a).bind fun first _ => (scalarAt?_sound b).bind fun second _ => ?_
    split
    · refine (nodeAt_follows a).bind fun first _ => (nodeAt_follows b).bind fun second _ => ?_
      split
      · exact Preserves.pure trivial
      · exact Preserves.pure trivial
    · exact Preserves.pure trivial
    · exact Preserves.pure trivial

theorem insert_sound (key value : Nat) (entries : List (Nat × Nat)) :
    Sound graph (insert key value entries) := by
  induction entries with
  | nil => exact Preserves.pure trivial
  | cons entry rest ih =>
    unfold insert
    refine (isSameKey_sound entry.1 key).bind fun same _ => ?_
    split
    · exact Preserves.pure trivial
    · exact ih.bind_pure _

/-! Objects. -/

/-- A text that the node at a place of a graph has itself, or that stands for it as a mapping. -/
def StandsAt (graph : Graph) (place : Nat) (text : String) : Prop :=
  ∃ origin : Node, graph.nodes[place]? = some origin ∧
    (origin.content = .scalar text ∨
      (∃ entries, origin.content = .mapping entries) ∧
        ∃ part ∈ graph.nodes, part.content = .scalar text)

theorem StandsAt.part {place : Nat} {text : String} (h : StandsAt graph place text) :
    ∃ part ∈ graph.nodes, part.content = .scalar text := by
  obtain ⟨origin, horigin, hcontent | ⟨-, hpart⟩⟩ := h
  · exact ⟨origin, Array.mem_of_getElem? horigin, hcontent⟩
  · exact hpart

theorem textAt_follows (bound place : Nat) :
    Follows graph (textAt bound place) (StandsAt graph place) := by
  induction bound generalizing place with
  | zero => exact Preserves.throw .endless
  | succ bound ih =>
    unfold textAt
    refine (nodeAt_follows place).bind fun node hnode => ?_
    split
    · next text hcontent =>
      obtain ⟨origin, horigin, hbecame⟩ := hnode
      exact Preserves.pure ⟨origin, horigin, .inl (hcontent ▸ hbecame.content).of_scalar⟩
    · exact malformed_follows
    · next entries hcontent =>
      have hplace := isMapping_of_became hnode hcontent
      refine Preserves.bind (Preserves.findM? fun entry _ => ?_) fun found _ => ?_
      · exact (tagAt_follows entry.1).bind_pure _
      · split
        · next value =>
          refine Preserves.mono (ih value) fun text htext => ?_
          obtain ⟨origin, others, horigin, hothers⟩ := hplace
          exact ⟨origin, horigin, .inr ⟨⟨others, hothers⟩, htext.part⟩⟩
        · exact malformed_follows

/-- The fault of a text under the type of the node for which it stands. -/
theorem faulty_of_standsAt {place : Nat} {origin : Node} {tag : Tag} {text : String} {fault : Fault}
    (horigin : graph.nodes[place]? = some origin) (htag : tag = origin.tag ∨ tag = .str)
    (htext : StandsAt graph place text) (h : tag.valueOf? text = some (.error fault)) :
    graph.Faulty fault := by
  obtain rfl | rfl := htag
  · obtain ⟨node, hnode, hcontent | ⟨⟨entries, hentries⟩, part, hpart, hcontent⟩⟩ := htext
    all_goals obtain rfl := Option.some.inj (horigin.symm.trans hnode)
    · exact .scalar (Array.mem_of_getElem? horigin) hcontent h
    · exact .mapping (Array.mem_of_getElem? horigin) hentries hpart hcontent h
  · cases h

theorem scalarOf_sound {place : Nat} {tag : Tag}
    (htag : ∃ origin : Node, graph.nodes[place]? = some origin ∧ (tag = origin.tag ∨ tag = .str)) :
    Sound graph (scalarOf tag place) := by
  obtain ⟨origin, horigin, htag⟩ := htag
  unfold scalarOf
  dsimp only
  split
  · exact malformed_follows
  · refine Preserves.get.bind fun site _ => (textAt_follows _ place).bind fun text htext => ?_
    refine (nodeAt_follows place).bind fun node hnode => ?_
    split
    · next entries hcontent _ =>
      obtain ⟨mapping, others, hmapping, hothers⟩ := isMapping_of_became hnode hcontent
      obtain rfl := Option.some.inj (horigin.symm.trans hmapping)
      rcases htag with htag | htag
      · exact Preserves.throw (.time (Array.mem_of_getElem? horigin) hothers htag.symm)
      · cases htag
    · split
      · exact Preserves.pure trivial
      · next fault hfault => exact Preserves.throw (faulty_of_standsAt horigin htag htext hfault)
      · exact malformed_follows

theorem singleEntry_sound (place : Nat) : Sound graph (singleEntry place) := by
  refine (entriesAt_follows place).bind fun entries _ => ?_
  split
  · exact Preserves.pure trivial
  · exact malformed_follows

theorem flattened_sound (place : Nat) : Sound graph (flattened place) :=
  Preserves.get.bind fun _ _ => (merging_sound _).1 place

theorem make_sound (place : Nat) : Sound graph (make place) := by
  unfold make
  refine (objectAt?_sound place).bind fun object? _ => ?_
  split
  · exact Preserves.pure trivial
  · refine (tagAt_follows place).bind fun tag htag => ?_
    split
    · exact (scalarOf_sound htag).bind fun object _ => setObject_sound place object
    · refine (setObject_sound place _).bind fun _ _ => ?_
      exact Preserves.modify fun _ hsite => hsite

theorem makeEntries_sound (entries : List (Nat × Nat)) : Sound graph (makeEntries entries) := by
  refine Preserves.foldlM trivial fun made entry _ => ?_
  refine (make_sound entry.1).bind fun _ _ => (scalarAt?_sound entry.1).bind fun key _ => ?_
  have hgoes : Sound graph (make entry.2 >>= fun _ => insert entry.1 entry.2 made) :=
    (make_sound entry.2).bind fun _ _ => insert_sound _ _ _
  dsimp only
  split
  · exact malformed_follows
  · exact hgoes

theorem makePairs_sound (items : List Nat) : Sound graph (makePairs items) := by
  refine Preserves.mapM fun item _ => (singleEntry_sound item).bind fun entry _ => ?_
  exact (make_sound entry.1).bind fun _ _ => (make_sound entry.2).bind_pure _

theorem filled_sound (place : Nat) : Sound graph (filled place) := by
  refine (nodeAt_follows place).bind fun node _ => ?_
  split
  · exact (Preserves.forM fun item _ => make_sound item).bind_pure _
  · exact (makePairs_sound _).bind_pure _
  · refine (flattened_sound place).bind fun entries _ => ?_
    exact (makeEntries_sound entries).bind_pure _
  · refine (flattened_sound place).bind fun entries _ => ?_
    exact (makeEntries_sound entries).bind_pure _
  · exact malformed_follows

theorem fillWaiting_sound (rounds : Nat) : Sound graph (fillWaiting rounds) := by
  induction rounds with
  | zero => exact malformed_follows
  | succ rounds ih =>
    unfold fillWaiting
    refine Preserves.get.bind fun site _ => ?_
    dsimp only
    split
    · exact Preserves.pure trivial
    · refine Preserves.bind (Preserves.modify fun _ hsite => hsite) fun _ _ => ?_
      refine Preserves.bind (Preserves.forM fun place _ => ?_) fun _ _ => ih
      exact (filled_sound place).bind fun object _ => setObject_sound place object

theorem makeGraph_sound (root : Nat) : Sound graph (makeGraph root) :=
  (make_sound root).bind fun _ _ => Preserves.get.bind fun _ _ => fillWaiting_sound _

theorem buildsOn_start (graph : Graph) (objects : Array (Option Object)) (waiting : List Nat) :
    BuildsOn graph ⟨graph.nodes, objects, waiting⟩ :=
  fun _ node hnode => ⟨node, hnode, .inl rfl, .refl node.content⟩

/-- A graph that denotes nothing has a node to blame. -/
theorem faulty_of_ofGraph {fault : Fault} (h : ofGraph graph = .error fault) :
    graph.Faulty fault := by
  let site : Site := ⟨graph.nodes, Array.replicate graph.nodes.size none, []⟩
  have hends := makeGraph_sound graph.root site (buildsOn_start graph _ _)
  change (makeGraph graph.root site >>= fun found => pure found.2.objects) = .error fault at h
  cases hmade : makeGraph graph.root site with
  | ok found =>
    rw [hmade] at h
    cases h
  | error other =>
    rw [hmade] at h hends
    cases h
    exact hends

end Object

end TopicPlan.Yaml
