import TopicPlan.Proofs.Results
import TopicPlan.Provision.Registry

/-! The requests of a registration. They are those of the topics that have schemas, in the order of the
topics, up to the first one whose reply fails; the registration succeeds exactly when no reply to a
request that was made fails. -/
namespace TopicPlan.Provision

/-- A reply that reports no error and has an identifier. -/
def Reply.Accepts (reply : Reply) : Prop :=
  ¬(400 ≤ reply.status ∧ reply.status < 600) ∧
    ∃ members identifier, reply.body = .object members ∧
      OrderedMap.get? "id" members = some identifier

theorem Reply.identifier_succeeds_iff {url : String} {reply : Reply} :
    Succeeds (reply.identifier url) ↔ reply.Accepts := by
  unfold Reply.identifier Accepts
  by_cases hstatus : 400 ≤ reply.status ∧ reply.status < 600
  · simp [hstatus]
  · cases reply.body with
    | object members =>
      cases hid : OrderedMap.get? "id" members <;> simp [hstatus, hid]
    | _ => simp [hstatus]

def Replies.reply (replies : Replies) (i : Nat) : Reply :=
  replies.queue[i]?.getD ⟨200, "OK", .object [("id", .int (replies.made + i + 1 : Nat))]⟩

theorem Replies.reply_zero (replies : Replies) : replies.reply 0 = replies.next.1 := by
  obtain ⟨queue, made⟩ := replies
  cases queue <;> rfl

theorem Replies.reply_succ (replies : Replies) (i : Nat) :
    replies.reply (i + 1) = replies.next.2.reply i := by
  obtain ⟨queue, made⟩ := replies
  cases queue with
  | nil => simp [reply, next, Nat.add_right_comm, Nat.add_assoc]
  | cons reply queue => simp [Replies.reply, next, Nat.add_right_comm, Nat.add_assoc]

/-- Of some requests, those that are made when making them stops after the first one that fails. -/
structure Sends (posts : List Request) (fails : Nat → Prop) (sent : List Request) : Prop where
  inOrder : sent <+: posts
  goesOn : ∀ i, i + 1 < sent.length → ¬fails i
  stops : sent.length < posts.length → ∃ i, sent.length = i + 1 ∧ fails i

section Sends

variable {post : Request} {posts sent : List Request} {fails : Nat → Prop}

theorem sends_nil : Sends [] fails [] :=
  ⟨List.prefix_refl [], by simp, by simp⟩

theorem sends_stop (h : fails 0) : Sends (post :: posts) fails [post] :=
  ⟨⟨posts, rfl⟩, by simp, fun _ => ⟨0, rfl, h⟩⟩

theorem Sends.next (hsent : Sends posts (fun i => fails (i + 1)) sent) (h : ¬fails 0) :
    Sends (post :: posts) fails (post :: sent) := by
  refine ⟨List.cons_prefix_cons.mpr ⟨rfl, hsent.inOrder⟩, ?_, ?_⟩
  · intro i hi
    cases i with
    | zero => exact h
    | succ i => exact hsent.goesOn i (by simpa using hi)
  · intro hshort
    obtain ⟨i, hlength, hfails⟩ := hsent.stops (by simpa using hshort)
    exact ⟨i + 1, by rw [List.length_cons, hlength], hfails⟩

end Sends

namespace Registry

def posts (registry : Registry) (topics : List Topic) : List Request :=
  topics.filterMap fun topic => topic.schema.map (registry.request topic.name)

theorem register_cases (registry : Registry) (topic : Topic) (replies : Replies) :
    (topic.schema = none ∧ registry.register topic replies = ⟨[], [], .ok none, replies⟩) ∨
    ∃ schema, topic.schema = some schema ∧
      (registry.register topic replies).requests = [registry.request topic.name schema] ∧
      (Succeeds (registry.register topic replies).result ↔ (replies.reply 0).Accepts) ∧
      (registry.register topic replies).replies = replies.next.2 := by
  unfold register
  cases hschema : topic.schema with
  | none => exact Or.inl ⟨rfl, rfl⟩
  | some schema =>
    refine Or.inr ⟨schema, rfl, ?_⟩
    rw [Replies.reply_zero, ← Reply.identifier_succeeds_iff]
    simp only
    cases replies.next.1.identifier (registry.request topic.name schema).url <;> simp

theorem posts_cons_of_none {topic : Topic} (h : topic.schema = none) (registry : Registry)
    (topics : List Topic) : registry.posts (topic :: topics) = registry.posts topics := by
  simp [posts, h]

theorem posts_cons_of_some {topic : Topic} {schema : Schema.ValueSchema}
    (h : topic.schema = some schema) (registry : Registry) (topics : List Topic) :
    registry.posts (topic :: topics) =
      registry.request topic.name schema :: registry.posts topics := by
  simp [posts, h]

theorem registerAll_cons_of_ok {registry : Registry} {topic : Topic} {replies : Replies}
    (h : Succeeds (registry.register topic replies).result) (topics : List Topic) :
    (registry.registerAll (topic :: topics) replies).requests =
        (registry.register topic replies).requests ++
          (registry.registerAll topics (registry.register topic replies).replies).requests ∧
      (Succeeds (registry.registerAll (topic :: topics) replies).result ↔
        Succeeds (registry.registerAll topics (registry.register topic replies).replies).result) := by
  obtain ⟨identifier, hidentifier⟩ := h
  rw [registerAll]
  simp only [hidentifier, succeeds_map, and_self]

theorem registerAll_cons_of_error {registry : Registry} {topic : Topic} {replies : Replies}
    (h : ¬Succeeds (registry.register topic replies).result) (topics : List Topic) :
    (registry.registerAll (topic :: topics) replies).requests =
        (registry.register topic replies).requests ∧
      ¬Succeeds (registry.registerAll (topic :: topics) replies).result := by
  rw [registerAll]
  cases hresult : (registry.register topic replies).result with
  | ok identifier => exact absurd ⟨identifier, hresult⟩ h
  | error error => simp

/-- The requests and the result of a registration. The induction is on the topics, for all replies that
are still to come. -/
theorem registerAll_sends (registry : Registry) (topics : List Topic) (replies : Replies) :
    Sends (registry.posts topics) (fun i => ¬(replies.reply i).Accepts)
      (registry.registerAll topics replies).requests ∧
    (Succeeds (registry.registerAll topics replies).result ↔
      ∀ i < (registry.registerAll topics replies).requests.length, (replies.reply i).Accepts) := by
  induction topics generalizing replies with
  | nil => exact ⟨sends_nil, by simp [registerAll]⟩
  | cons topic topics ih =>
    rcases registry.register_cases topic replies with ⟨hschema, hregister⟩ |
      ⟨schema, hschema, hrequests, hsucceeds, hreplies⟩
    · have hok : Succeeds (registry.register topic replies).result := by simp [hregister]
      obtain ⟨hall, hresult⟩ := registerAll_cons_of_ok hok topics
      rw [hregister, List.nil_append] at hall
      rw [hregister] at hresult
      rw [posts_cons_of_none hschema, hall, hresult]
      exact ih replies
    · rw [posts_cons_of_some hschema]
      by_cases haccepts : (replies.reply 0).Accepts
      · obtain ⟨hall, hresult⟩ := registerAll_cons_of_ok (hsucceeds.mpr haccepts) topics
        rw [hrequests, hreplies, List.singleton_append] at hall
        rw [hreplies] at hresult
        obtain ⟨hsends, hrest⟩ := ih replies.next.2
        simp only [← Replies.reply_succ] at hsends hrest
        rw [hall, hresult, hrest, List.length_cons, Nat.forall_lt_succ_left]
        exact ⟨hsends.next (not_not_intro haccepts), by simp [haccepts]⟩
      · obtain ⟨hall, hresult⟩ := registerAll_cons_of_error (mt hsucceeds.mp haccepts) topics
        rw [hall, hrequests]
        refine ⟨sends_stop haccepts, iff_of_false hresult fun h => haccepts (h 0 ?_)⟩
        simp

end Registry
end TopicPlan.Provision
