import TopicPlan.Proofs.OrderedMaps
import TopicPlan.Proofs.Runs
import Mathlib.Control.Monad.Basic

/-! The topics of a test case, each name once. Main statement: the names stand in the order of their
first appearance among declared topics, statements, inputs and outputs, and each name is bound by the
first of these sources that has it. -/
namespace TopicPlan

open Sql (Catalog)
open OrderedMap

/-- What a topic of the whole list has to be. A name that is declared belongs to a declared topic, any
other one to the first statement that yields it, and what no statement yields is a record's. -/
inductive Accounted (declared : List Topic) (implied? : Nat → Option Topic) (topic : Topic) : Prop
  | declared (h : topic ∈ declared)
  | implied (hnew : topic.name ∉ declared.map (·.name)) (i : Nat) (h : implied? i = some topic)
      (hfirst : ∀ j < i, ∀ other, implied? j = some other → other.name ≠ topic.name)
  | recorded (hnew : topic.name ∉ declared.map (·.name))
      (hnone : ∀ i other, implied? i = some other → other.name ≠ topic.name)
      (h : topic = Topic.ofName topic.name)

def entriesOf (topics : List Topic) : List (String × Topic) :=
  topics.map fun topic => (topic.name, topic)

@[simp] theorem entriesOf_names (topics : List Topic) :
    (entriesOf topics).map (·.1) = topics.map (·.name) := by
  simp [entriesOf]

theorem mem_entriesOf {topics : List Topic} {name : String} {topic : Topic} :
    (name, topic) ∈ entriesOf topics ↔ topic ∈ topics ∧ topic.name = name := by
  simp only [entriesOf, List.mem_map, Prod.mk.injEq]
  constructor
  · rintro ⟨t, ht, hname, rfl⟩
    exact ⟨ht, hname⟩
  · rintro ⟨ht, hname⟩
    exact ⟨topic, ht, hname, rfl⟩

theorem get?_entriesOf (topics : List Topic) (name : String) :
    get? name (entriesOf topics) = topics.find? fun topic => topic.name = name := by
  induction topics with
  | nil => rfl
  | cons topic topics ih =>
    rw [entriesOf, List.map_cons, ← entriesOf]
    by_cases h : topic.name = name <;> simp [get?, h, ih]

theorem mergeTopics_eq (declared implied : List Topic) (names : List String) :
    mergeTopics declared implied names =
      (entriesOf (implied ++ names.map Topic.ofName)).foldl
        (fun map entry => putNew entry.1 entry.2 map) (lastWins (entriesOf declared)) := by
  have hfold : (entriesOf (implied ++ names.map Topic.ofName)).foldl
      (fun map entry => putNew entry.1 entry.2 map) (lastWins (entriesOf declared)) =
      (implied ++ names.map Topic.ofName).foldl (fun map topic => putNew topic.name topic map)
        (lastWins (entriesOf declared)) := List.foldl_map
  exact hfold.symm

theorem keys_mergeTopics (declared implied : List Topic) (names : List String) :
    keys (mergeTopics declared implied names) =
      (declared.map (·.name) ++ implied.map (·.name) ++ names).eraseDups := by
  have hdeclared := keys_lastWins (entriesOf declared)
  rw [mergeTopics_eq, keys_foldl (keys_putNew (α := Topic)) _ _ _ hdeclared]
  simp [List.map_map, Function.comp_def, Topic.ofName]

/-- Declared topics are looked at first, then those of statements, then those of records. -/
theorem get?_mergeTopics (declared implied : List Topic) (names : List String) (name : String) :
    get? name (mergeTopics declared implied names) =
      (get? name (lastWins (entriesOf declared))).or
        ((implied.find? fun topic => topic.name = name).or
          ((names.map Topic.ofName).find? fun topic => topic.name = name)) := by
  rw [mergeTopics_eq, get?_foldl_putNew, get?_entriesOf, List.find?_append]

theorem get?_lastWins_entriesOf {declared : List Topic} {name : String} {topic : Topic}
    (h : get? name (lastWins (entriesOf declared)) = some topic) :
    topic ∈ declared ∧ topic.name = name :=
  mem_entriesOf.mp (mem_of_get?_lastWins h)

theorem not_mem_of_get?_lastWins {declared : List Topic} {name : String}
    (h : get? name (lastWins (entriesOf declared)) = none) : name ∉ declared.map (·.name) := by
  rw [get?_eq_none_iff, keys_lastWins, entriesOf_names, List.mem_eraseDups] at h
  exact h

theorem find?_filterMap_range {implied? : Nat → Option Topic} {n : Nat} {name : String}
    {topic : Topic}
    (h : ((List.range n).filterMap implied?).find? (fun topic => topic.name = name) = some topic) :
    ∃ i, implied? i = some topic ∧
      ∀ j < i, ∀ other, implied? j = some other → other.name ≠ name := by
  rw [List.find?_filterMap, Option.bind_eq_some_iff] at h
  obtain ⟨i, hi, htopic⟩ := h
  rw [List.find?_range_eq_some] at hi
  refine ⟨i, htopic, ?_⟩
  intro j hj other hother hname
  have hnot := hi.2.2 j hj
  simp [hother, hname] at hnot

theorem find?_filterMap_range_eq_none {implied? : Nat → Option Topic} {n : Nat} {name : String}
    (hbound : ∀ i, n ≤ i → implied? i = none)
    (h : ((List.range n).filterMap implied?).find? (fun topic => topic.name = name) = none)
    (i : Nat) (other : Topic) (hother : implied? i = some other) : other.name ≠ name := by
  intro hname
  have hi : i < n := by
    apply Nat.lt_of_not_le
    intro hle
    rw [hbound i hle] at hother
    cases hother
  rw [List.find?_eq_none] at h
  have hmem : other ∈ (List.range n).filterMap implied? :=
    List.mem_filterMap.mpr ⟨i, List.mem_range.mpr hi, hother⟩
  exact h other hmem (by simp [hname])

theorem topicAt?_of_length_le (config : EngineConfig) (catalog : Catalog) (statements : List String)
    (i : Nat) (h : statements.length ≤ i) : topicAt? config catalog statements i = none := by
  simp [topicAt?, extractedAt?, List.getElem?_eq_none h]

theorem accounted_of_get? {declared : List Topic} {implied? : Nat → Option Topic} {n : Nat}
    (hbound : ∀ i, n ≤ i → implied? i = none) {names : List String} {name : String} {topic : Topic}
    (h : get? name (mergeTopics declared ((List.range n).filterMap implied?) names) = some topic) :
    topic.name = name ∧ Accounted declared implied? topic := by
  rw [get?_mergeTopics] at h
  cases hd : get? name (lastWins (entriesOf declared)) with
  | some found =>
    rw [hd, Option.some_or, Option.some.injEq] at h
    subst h
    obtain ⟨hmem, hname⟩ := get?_lastWins_entriesOf hd
    exact ⟨hname, .declared hmem⟩
  | none =>
    have hnew := not_mem_of_get?_lastWins hd
    rw [hd, Option.none_or] at h
    cases hi : ((List.range n).filterMap implied?).find? (fun topic => topic.name = name) with
    | some found =>
      rw [hi, Option.some_or, Option.some.injEq] at h
      subst h
      have hname : found.name = name := by simpa using List.find?_some hi
      obtain ⟨i, htopic, hfirst⟩ := find?_filterMap_range hi
      subst hname
      exact ⟨rfl, .implied hnew i htopic hfirst⟩
    | none =>
      rw [hi, Option.none_or] at h
      have hname : topic.name = name := by simpa using List.find?_some h
      obtain ⟨recorded, -, hrecorded⟩ := List.mem_map.mp (List.mem_of_find?_eq_some h)
      subst hname
      refine ⟨rfl, .recorded hnew (find?_filterMap_range_eq_none hbound hi) ?_⟩
      rw [← hrecorded]
      rfl

theorem collectTopics_result (config : EngineConfig) (declared : List Topic)
    (statements inputs outputs : List String) :
    (collectTopics config declared statements inputs outputs).result =
      (extractAll config .empty statements).result.map fun found =>
        (mergeTopics declared found.1 (inputs ++ outputs)).values := by
  rw [collectTopics]
  simp only [Noted.result_bind, Noted.result_pure]
  cases (extractAll config .empty statements).result <;> rfl

theorem values_names {map : OrderedMap String Topic}
    (h : ∀ entry ∈ map, entry.2.name = entry.1) : map.values.map (·.name) = keys map := by
  simp only [OrderedMap.values, keys, List.map_map]
  exact List.map_congr_left h

/-- Whenever reading is not stopped, the topics of a test case have distinct names, in the order of
their first appearance, and each of them is accounted for. -/
theorem collectTopics_accounted {config : EngineConfig} {declared : List Topic}
    {statements inputs outputs : List String} {topics : List Topic}
    (h : (collectTopics config declared statements inputs outputs).result = .ok topics) :
    (topics.map (·.name)).Nodup ∧
    topics.map (·.name) = (declared.map (·.name) ++
      ((List.range statements.length).filterMap (topicAt? config .empty statements)).map (·.name) ++
      inputs ++ outputs).eraseDups ∧
    ∀ topic ∈ topics, Accounted declared (topicAt? config .empty statements) topic := by
  rw [collectTopics_result] at h
  cases hall : (extractAll config .empty statements).result with
  | error e => simp [hall, Except.map] at h
  | ok found =>
    simp only [hall, Except.map, Except.ok.injEq] at h
    have himplied := extractAll_topics hall
    let merged := mergeTopics declared found.1 (inputs ++ outputs)
    have hkeys : keys merged = (declared.map (·.name) ++ found.1.map (·.name) ++
        (inputs ++ outputs)).eraseDups := keys_mergeTopics _ _ _
    have hnodup : (keys merged).Nodup := by
      rw [hkeys]
      exact nodup_eraseDups _
    have hentry : ∀ entry ∈ merged, entry.2.name = entry.1 ∧
        Accounted declared (topicAt? config .empty statements) entry.2 := by
      intro entry hmem
      have hget : get? entry.1 merged = some entry.2 := get?_eq_some_of_mem hnodup hmem
      simp only [merged, himplied] at hget
      exact accounted_of_get? (topicAt?_of_length_le config .empty statements) hget
    have hnames : topics.map (·.name) = keys merged := by
      rw [← h]
      exact values_names fun entry hmem => (hentry entry hmem).1
    refine ⟨hnames ▸ hnodup, ?_, ?_⟩
    · rw [hnames, hkeys, himplied, List.append_assoc, List.append_assoc, List.append_assoc]
    · intro topic htopic
      rw [← h] at htopic
      obtain ⟨entry, hmem, rfl⟩ := List.mem_map.mp htopic
      exact (hentry entry hmem).2

/-- A declared topic, a source whose column has a type registered before it, and records. -/
theorem collectTopics_accounted_mixed :
    (collectTopics .standard [⟨"d", 3, 2, none⟩] ["REGISTER TYPE T AS INT",
      "CREATE TABLE Q (V T) WITH (kafka_topic='t', format='JSON')"] ["r", "d"] ["t", "r"]).result =
      .ok [⟨"d", 3, 2, none⟩, ⟨"t", 1, 1, none⟩, ⟨"r", 1, 1, none⟩] ∧
    ["d", "t", "r"] = (["d"] ++ ((List.range 2).filterMap (topicAt? .standard .empty
      ["REGISTER TYPE T AS INT", "CREATE TABLE Q (V T) WITH (kafka_topic='t', format='JSON')"])).map
      (·.name) ++ ["r", "d"] ++ ["t", "r"]).eraseDups ∧
    Accounted [⟨"d", 3, 2, none⟩] (topicAt? .standard .empty ["REGISTER TYPE T AS INT",
      "CREATE TABLE Q (V T) WITH (kafka_topic='t', format='JSON')"]) ⟨"t", 1, 1, none⟩ := by
  have h : (collectTopics .standard [⟨"d", 3, 2, none⟩] ["REGISTER TYPE T AS INT",
      "CREATE TABLE Q (V T) WITH (kafka_topic='t', format='JSON')"] ["r", "d"] ["t", "r"]).result =
      .ok [⟨"d", 3, 2, none⟩, ⟨"t", 1, 1, none⟩, ⟨"r", 1, 1, none⟩] := by decide +kernel
  obtain ⟨-, hnames, haccounted⟩ := collectTopics_accounted h
  exact ⟨h, hnames, haccounted _ (by simp)⟩

end TopicPlan
