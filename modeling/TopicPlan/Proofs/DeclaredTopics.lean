import TopicPlan.Proofs.Merging

/-! Topics that a test case declares several times. Of declared topics with one name the last one is
the topic of the test case, so the first one is only where the two are the same. -/
namespace TopicPlan
open OrderedMap

/-- A topic after which no other one of some topics has its name. -/
def IsLastNamed (topics : List Topic) (topic : Topic) : Prop :=
  ∃ before after, topics = before ++ topic :: after ∧ ∀ other ∈ after, other.name ≠ topic.name

/-- A topic before which no other one of some topics has its name. -/
def IsFirstNamed (topics : List Topic) (topic : Topic) : Prop :=
  ∃ before after, topics = before ++ topic :: after ∧ ∀ other ∈ before, other.name ≠ topic.name

section Named

variable {topics : List Topic} {topic : Topic} {name : String}

theorem isFirstNamed_of_find? (h : topics.find? (fun topic => topic.name = name) = some topic) :
    topic.name = name ∧ IsFirstNamed topics topic := by
  obtain ⟨hname, before, after, htopics, hbefore⟩ := List.find?_eq_some_iff_append.mp h
  obtain rfl : topic.name = name := by simpa using hname
  exact ⟨rfl, before, after, htopics, fun other hother => by simpa using hbefore other hother⟩

theorem find?_of_isFirstNamed (h : IsFirstNamed topics topic) :
    topics.find? (fun other => other.name = topic.name) = some topic := by
  obtain ⟨before, after, rfl, hbefore⟩ := h
  rw [List.find?_eq_some_iff_append]
  exact ⟨by simp, before, after, rfl, fun other hother => by simpa using hbefore other hother⟩

theorem isFirstNamed_reverse : IsFirstNamed topics.reverse topic ↔ IsLastNamed topics topic := by
  constructor
  · rintro ⟨before, after, htopics, hbefore⟩
    refine ⟨after.reverse, before.reverse, ?_, ?_⟩
    · rw [← List.reverse_reverse topics, htopics]
      simp
    · intro other hother
      exact hbefore other (List.mem_reverse.mp hother)
  · rintro ⟨before, after, rfl, hafter⟩
    refine ⟨after.reverse, before.reverse, by simp, ?_⟩
    intro other hother
    exact hafter other (List.mem_reverse.mp hother)

end Named

theorem get?_mergeTopics_of_declared {declared : List Topic} {name : String}
    (h : name ∈ declared.map (·.name)) (implied : List Topic) (names : List String) :
    get? name (mergeTopics declared implied names) =
      declared.reverse.find? fun topic => topic.name = name := by
  have hreverse : (entriesOf declared).reverse = entriesOf declared.reverse := by
    simp [entriesOf, List.map_reverse]
  have hlast : get? name (lastWins (entriesOf declared)) =
      declared.reverse.find? fun topic => topic.name = name := by
    rw [get?_lastWins, hreverse, get?_entriesOf]
  have hsome : (declared.reverse.find? fun topic => topic.name = name).isSome := by
    obtain ⟨topic, htopic, rfl⟩ := List.mem_map.mp h
    rw [List.find?_isSome]
    exact ⟨topic, List.mem_reverse.mpr htopic, by simp⟩
  rw [get?_mergeTopics, hlast]
  exact Option.or_of_isSome hsome

theorem name_of_get?_mergeTopics {declared implied : List Topic} {names : List String}
    {name : String} {topic : Topic}
    (h : get? name (mergeTopics declared implied names) = some topic) : topic.name = name := by
  rw [get?_mergeTopics] at h
  rcases Option.or_eq_some_iff.mp h with hdeclared | ⟨-, hrest⟩
  · exact (get?_lastWins_entriesOf hdeclared).2
  · rw [← List.find?_append] at hrest
    simpa using List.find?_some hrest

theorem nodup_keys_mergeTopics (declared implied : List Topic) (names : List String) :
    (keys (mergeTopics declared implied names)).Nodup := by
  rw [keys_mergeTopics]
  exact nodup_eraseDups _

theorem mem_values_mergeTopics {declared implied : List Topic} {names : List String}
    {topic : Topic} :
    topic ∈ (mergeTopics declared implied names).values ↔
      get? topic.name (mergeTopics declared implied names) = some topic := by
  constructor
  · intro h
    obtain ⟨⟨name, topic⟩, hentry, rfl⟩ := List.mem_map.mp h
    have hget := get?_eq_some_of_mem (nodup_keys_mergeTopics _ _ _) hentry
    obtain rfl := name_of_get?_mergeTopics hget
    exact hget
  · intro h
    exact List.mem_map.mpr ⟨_, mem_of_get? h, rfl⟩

/-- Whenever reading is not stopped, each declared name has a topic, and every topic under such a name
is the last one that is declared under it; so the first one of a name is among the topics exactly
when it is also the last one. -/
theorem declared_topic_last {config : EngineConfig} {declared : List Topic}
    {statements inputs outputs : List String} {topics : List Topic}
    (h : (collectTopics config declared statements inputs outputs).result = .ok topics) :
    (∀ name ∈ declared.map (·.name), ∃ topic ∈ topics, topic.name = name) ∧
    (∀ topic ∈ topics, topic.name ∈ declared.map (·.name) → IsLastNamed declared topic) ∧
    ∀ first, IsFirstNamed declared first → (first ∈ topics ↔ IsLastNamed declared first) := by
  rw [collectTopics_result] at h
  obtain ⟨⟨implied, left⟩, -, rfl⟩ := map_eq_ok.mp h
  have hbound : ∀ topic : Topic, topic.name ∈ declared.map (·.name) →
      (topic ∈ (mergeTopics declared implied (inputs ++ outputs)).values ↔
        IsLastNamed declared topic) := by
    intro topic hname
    rw [mem_values_mergeTopics, get?_mergeTopics_of_declared hname, ← isFirstNamed_reverse]
    exact ⟨fun hfind => (isFirstNamed_of_find? hfind).2, find?_of_isFirstNamed⟩
  refine ⟨?_, fun topic htopic hname => (hbound topic hname).mp htopic, ?_⟩
  · intro name hname
    have hget := get?_mergeTopics_of_declared hname implied (inputs ++ outputs)
    cases hfind : declared.reverse.find? fun topic => topic.name = name with
    | none =>
      obtain ⟨topic, htopic, rfl⟩ := List.mem_map.mp hname
      rw [List.find?_eq_none] at hfind
      exact absurd (hfind topic (List.mem_reverse.mpr htopic)) (by simp)
    | some topic =>
      obtain ⟨rfl, -⟩ := isFirstNamed_of_find? hfind
      exact ⟨topic, mem_values_mergeTopics.mpr (hget.trans hfind), rfl⟩
  · intro first hfirst
    obtain ⟨before, after, rfl, -⟩ := hfirst
    exact hbound first (by simp)

/-- Three declared topics, two of one name, that one also a record's. -/
theorem declared_topic_last_repeated :
    (collectTopics .standard [⟨"t", 2, 1, none⟩, ⟨"u", 1, 1, none⟩, ⟨"t", 3, 1, none⟩] [] ["t"]
      []).result = .ok [⟨"t", 3, 1, none⟩, ⟨"u", 1, 1, none⟩] ∧
    IsLastNamed [⟨"t", 2, 1, none⟩, ⟨"u", 1, 1, none⟩, ⟨"t", 3, 1, none⟩] ⟨"t", 3, 1, none⟩ := by
  have h : (collectTopics .standard [⟨"t", 2, 1, none⟩, ⟨"u", 1, 1, none⟩, ⟨"t", 3, 1, none⟩] []
      ["t"] []).result = .ok [⟨"t", 3, 1, none⟩, ⟨"u", 1, 1, none⟩] := by decide +kernel
  obtain ⟨-, hlast, -⟩ := declared_topic_last h
  exact ⟨h, hlast _ (by simp) (by simp)⟩

/-- The first one of two declared topics with one name is not among the topics. -/
theorem first_declared_topic_replaced :
    IsFirstNamed [⟨"t", 2, 1, none⟩, ⟨"t", 3, 1, none⟩] ⟨"t", 2, 1, none⟩ ∧
    ∃ topics, (collectTopics .standard [⟨"t", 2, 1, none⟩, ⟨"t", 3, 1, none⟩] [] [] []).result =
      .ok topics ∧ ⟨"t", 2, 1, none⟩ ∉ topics ∧ ⟨"t", 3, 1, none⟩ ∈ topics := by
  refine ⟨⟨[], [⟨"t", 3, 1, none⟩], rfl, by simp⟩, [⟨"t", 3, 1, none⟩], by decide +kernel, ?_, ?_⟩
  · decide
  · decide

end TopicPlan
