import TopicPlan.Proofs.TopicCreation

/-! What a provisioning asks of a cluster, the first time and every time after it. Topics that the
cluster lists are left alone; the cluster never lists its own, so one of those is asked for whether or
not it is there, and asked for again each time. -/
namespace TopicPlan.Provision
open OrderedMap

/-- The calls that ask for topics. There is none where there is nothing to ask for. -/
def asked (topics : List Topic) : List ClusterCall := if topics = [] then [] else [.create topics]

def internal (topics : List Topic) : List Topic :=
  topics.filter fun topic => Connection.isInternal topic.name

theorem asked_eq_nil_iff {topics : List Topic} : asked topics = [] ↔ topics = [] := by
  unfold asked
  split <;> simp [*]

theorem internal_eq_nil_iff {topics : List Topic} :
    internal topics = [] ↔ ∀ topic ∈ topics, Connection.isInternal topic.name = false := by
  simp [internal]

namespace Cluster

def absent (cluster : Cluster) (topics : List Topic) : List Topic :=
  topics.filter fun topic => topic.name ∉ cluster.topics

/-- A cluster creates topics: each of them can be asked for, and none is refused. -/
def Creates (cluster : Cluster) (topics : List Topic) : Prop :=
  ∀ topic ∈ topics, demandFault? topic = none ∧ ¬cluster.Refuses topic.name

instance (cluster : Cluster) (topics : List Topic) : Decidable (cluster.Creates topics) :=
  inferInstanceAs (Decidable (∀ topic ∈ topics, _ ∧ ¬cluster.Refuses topic.name))

/-- What is reported for topics: those that the cluster lists are unchanged. -/
def reported (cluster : Cluster) (topics : List Topic) : OrderedMap String Action :=
  topics.map fun topic => (topic.name, if cluster.Lists topic.name then .unchanged else .created)

/-- A cluster has all topics of a list, and would create those that it does not list. -/
structure Settled (cluster : Cluster) (topics : List Topic) : Prop where
  present : ∀ topic ∈ topics, topic.name ∈ cluster.topics
  creates : cluster.Creates (internal topics)

theorem refusals_create (names : List String) (cluster : Cluster) :
    (cluster.create names).1.refusals = cluster.refusals := by
  induction names generalizing cluster with
  | nil => rfl
  | cons first names ih =>
    rw [create]
    cases cluster.refusals.lookup first with
    | some reason => rfl
    | none =>
      have hadd : (cluster.add first).refusals = cluster.refusals := by
        unfold add
        split <;> rfl
      exact (ih (cluster.add first)).trans hadd

theorem lists_iff_of_present {cluster : Cluster} {name : String} (h : name ∈ cluster.topics) :
    cluster.Lists name ↔ Connection.isInternal name = false := by
  simp [Lists, h]

theorem not_lists_of_absent {cluster : Cluster} {name : String} (h : name ∉ cluster.topics) :
    ¬cluster.Lists name := fun hlists => h hlists.1

theorem missing_of_present {cluster : Cluster} {topics : List Topic}
    (h : ∀ topic ∈ topics, topic.name ∈ cluster.topics) :
    cluster.missing topics = internal topics := by
  have hlists : ∀ topic ∈ topics, (decide ¬cluster.Lists topic.name) =
      Connection.isInternal topic.name := by
    intro topic htopic
    simp [lists_iff_of_present (h topic htopic)]
  exact List.filter_congr hlists

theorem reported_of_present {cluster : Cluster} {topics : List Topic}
    (h : ∀ topic ∈ topics, topic.name ∈ cluster.topics) :
    cluster.reported topics = topics.map fun topic =>
      (topic.name, if Connection.isInternal topic.name then .created else .unchanged) := by
  refine List.map_congr_left fun topic htopic => ?_
  rw [if_congr (lists_iff_of_present (h topic htopic)) rfl rfl]
  cases Connection.isInternal topic.name <;> rfl

theorem mem_missing_of_mem_internal {cluster : Cluster} {topics : List Topic} {topic : Topic}
    (h : topic ∈ internal topics) : topic ∈ cluster.missing topics := by
  obtain ⟨htopic, hinternal⟩ := List.mem_filter.mp h
  exact List.mem_filter.mpr ⟨htopic, by simp [Lists, hinternal]⟩

/-- Those that a cluster does not list are those that it does not have, as long as it has none of its
own among them. -/
theorem missing_eq_absent_iff {cluster : Cluster} {topics : List Topic} :
    cluster.missing topics = cluster.absent topics ↔
      ∀ topic ∈ topics, topic.name ∈ cluster.topics →
        Connection.isInternal topic.name = false := by
  constructor
  · intro h topic htopic hpresent
    by_contra hinternal
    have hmissing : topic ∈ cluster.missing topics :=
      mem_missing_of_mem_internal (List.mem_filter.mpr ⟨htopic, by simpa using hinternal⟩)
    rw [h] at hmissing
    have habsent := (List.mem_filter.mp hmissing).2
    exact absurd hpresent (by simpa using habsent)
  · intro h
    have hlists : ∀ topic ∈ topics, (decide ¬cluster.Lists topic.name) =
        decide (topic.name ∉ cluster.topics) := by
      intro topic htopic
      by_cases hpresent : topic.name ∈ cluster.topics
      · simp [lists_iff_of_present hpresent, hpresent, h topic htopic hpresent]
      · simp [not_lists_of_absent hpresent, hpresent]
    exact List.filter_congr hlists

theorem reported_eq_iff {cluster : Cluster} {topics : List Topic} :
    cluster.reported topics = (topics.map fun topic =>
        (topic.name, if topic.name ∈ cluster.topics then Action.unchanged else .created)) ↔
      ∀ topic ∈ topics, topic.name ∈ cluster.topics →
        Connection.isInternal topic.name = false := by
  rw [reported, List.map_inj_left]
  refine forall₂_congr fun topic _ => ?_
  by_cases hpresent : topic.name ∈ cluster.topics
  · simp [lists_iff_of_present hpresent, hpresent]
  · simp [not_lists_of_absent hpresent, hpresent]

end Cluster

namespace Connection

theorem create_of_creates {topics : List Topic} {cluster : Cluster} (h : cluster.Creates topics) :
    (create topics ⟨cluster, true⟩).calls = asked topics ∧
      (create topics ⟨cluster, true⟩).connection =
        ⟨(cluster.create (distinct (topics.map Topic.name))).1, true⟩ := by
  have hnone : topics.findSome? demandFault? = none :=
    List.findSome?_eq_none_iff.mpr fun topic htopic => (h topic htopic).1
  rw [create, hnone]
  cases topics with
  | nil => exact ⟨rfl, rfl⟩
  | cons topic topics => exact ⟨rfl, rfl⟩

theorem actions_of_nodup {topics : List Topic} (hnames : (topics.map (·.name)).Nodup)
    (cluster : Cluster) :
    actions ((distinct cluster.topics).filter fun name => !isInternal name) topics =
      cluster.reported topics := by
  have hkeys : ((topics.map fun topic => (topic.name,
      if topic.name ∈ (distinct cluster.topics).filter fun name => !isInternal name then
        Action.unchanged else .created)).map (·.1)).Nodup := by
    rw [List.map_map]
    exact hnames
  rw [actions, lastWins_of_nodup hkeys]
  refine List.map_congr_left fun topic _ => ?_
  simp only [mem_listed_iff]

section Created

variable {topics : List Topic} {cluster : Cluster}

/-- A provisioning that creates what the cluster does not list: what it asks for, what it reports, and
that it leaves the cluster with all topics and with the same refusals. -/
theorem provision_of_creates (hnames : (topics.map (·.name)).Nodup)
    (h : cluster.Creates (cluster.missing topics)) :
    (provision topics ⟨cluster, true⟩).calls =
        .list callTimeout :: asked (cluster.missing topics) ∧
      (provision topics ⟨cluster, true⟩).result = .ok (cluster.reported topics) ∧
      ∃ after, (provision topics ⟨cluster, true⟩).connection = ⟨after, true⟩ ∧
        after.refusals = cluster.refusals ∧ ∀ topic ∈ topics, topic.name ∈ after.topics := by
  obtain ⟨hall, -, hconnection⟩ := provision_eq topics cluster
  obtain ⟨hcalls, hafter⟩ := create_of_creates h
  obtain ⟨⟨found, hresult⟩, hpresent⟩ := provision_of_created h
  have hreported : found = cluster.reported topics := by
    obtain ⟨-, -, hfound⟩ := map_eq_ok.mp hresult
    rw [← hfound, actions_of_nodup hnames]
  rw [hreported] at hresult
  refine ⟨by rw [hall, hcalls], hresult, _, hconnection.trans hafter, ?_, ?_⟩
  · exact Cluster.refusals_create _ cluster
  · intro topic htopic
    have hmem := hpresent topic htopic
    rw [hconnection, hafter] at hmem
    exact hmem

/-- The first time settles a cluster: it never lists its own topics, so it has just created them. -/
theorem settled_of_creates (hnames : (topics.map (·.name)).Nodup)
    (h : cluster.Creates (cluster.missing topics)) :
    ∃ after, (provision topics ⟨cluster, true⟩).connection = ⟨after, true⟩ ∧
      after.Settled topics := by
  obtain ⟨-, -, after, hafter, hrefusals, hpresent⟩ := provision_of_creates hnames h
  refine ⟨after, hafter, hpresent, ?_⟩
  intro topic htopic
  obtain ⟨hdemandable, hcreated⟩ := h topic (Cluster.mem_missing_of_mem_internal htopic)
  refine ⟨hdemandable, ?_⟩
  rw [Cluster.Refuses, hrefusals]
  exact hcreated

theorem settled_of_settled (hnames : (topics.map (·.name)).Nodup) (h : cluster.Settled topics) :
    ∃ after, (provision topics ⟨cluster, true⟩).connection = ⟨after, true⟩ ∧
      after.Settled topics := by
  have hmissing := Cluster.missing_of_present h.present
  exact settled_of_creates hnames (hmissing ▸ h.creates)

end Created

def afterTimes (topics : List Topic) : Nat → Connection → Connection
  | 0, connection => connection
  | times + 1, connection => afterTimes topics times (provision topics connection).connection

theorem settled_afterTimes {topics : List Topic} (hnames : (topics.map (·.name)).Nodup)
    (times : Nat) {cluster : Cluster} (h : cluster.Settled topics) :
    ∃ after, afterTimes topics times ⟨cluster, true⟩ = ⟨after, true⟩ ∧ after.Settled topics := by
  induction times generalizing cluster with
  | zero => exact ⟨cluster, rfl, h⟩
  | succ times ih =>
    obtain ⟨next, hnext, hsettled⟩ := settled_of_settled hnames h
    rw [afterTimes, hnext]
    exact ih hsettled

/-- Where nothing that is missing fails to be created, a provisioning asks for exactly the topics that
the cluster does not list, once each and in order, and reports the others as unchanged. What is asked
for and reported is what the cluster lacks and has unless it has one of its own topics among them.
Every later provisioning asks again for those that a cluster never lists, and for nothing if there is
none of them. -/
theorem unlisted_topics_created {topics : List Topic} {cluster : Cluster}
    (hnames : (topics.map (·.name)).Nodup) (h : cluster.Creates (cluster.missing topics)) :
    ((provision topics ⟨cluster, true⟩).calls =
        .list callTimeout :: asked (cluster.missing topics) ∧
      (provision topics ⟨cluster, true⟩).result = .ok (cluster.reported topics)) ∧
    ((cluster.missing topics = cluster.absent topics ↔
        ∀ topic ∈ topics, topic.name ∈ cluster.topics → isInternal topic.name = false) ∧
      (cluster.reported topics = (topics.map fun topic =>
          (topic.name, if topic.name ∈ cluster.topics then .unchanged else .created)) ↔
        ∀ topic ∈ topics, topic.name ∈ cluster.topics → isInternal topic.name = false)) ∧
    ∀ times, let again := provision topics (afterTimes topics (times + 1) ⟨cluster, true⟩)
      again.calls = .list callTimeout :: asked (internal topics) ∧
      again.result = .ok (topics.map fun topic =>
        (topic.name, if isInternal topic.name then .created else .unchanged)) ∧
      (again.calls = [.list callTimeout] ↔
        ∀ topic ∈ topics, isInternal topic.name = false) := by
  obtain ⟨hcalls, hresult, -⟩ := provision_of_creates hnames h
  refine ⟨⟨hcalls, hresult⟩, ⟨Cluster.missing_eq_absent_iff, Cluster.reported_eq_iff⟩, ?_⟩
  intro times
  obtain ⟨first, hfirst, hsettledFirst⟩ := settled_of_creates hnames h
  obtain ⟨after, hafter, hsettled⟩ := settled_afterTimes hnames times hsettledFirst
  have hconnection : afterTimes topics (times + 1) ⟨cluster, true⟩ = ⟨after, true⟩ := by
    rw [afterTimes, hfirst, hafter]
  have hmissing := Cluster.missing_of_present hsettled.present
  have hcreates : after.Creates (after.missing topics) := hmissing ▸ hsettled.creates
  obtain ⟨hcallsAgain, hresultAgain, -⟩ := provision_of_creates hnames hcreates
  rw [hmissing] at hcallsAgain
  rw [Cluster.reported_of_present hsettled.present] at hresultAgain
  rw [hconnection]
  refine ⟨hcallsAgain, hresultAgain, ?_⟩
  rw [hcallsAgain, ← internal_eq_nil_iff, ← asked_eq_nil_iff]
  simp

/-- A topic that is there, one that is not, and one with the name of a cluster's own topic. -/
theorem unlisted_topics_created_mixed :
    let topics : List Topic :=
      [⟨"existing", 1, 1, none⟩, ⟨"orders", 3, 1, none⟩, ⟨"_internal", 2, 2, none⟩]
    let cluster : Cluster := ⟨["existing", "_schemas"], []⟩
    (topics.map (·.name)).Nodup ∧ cluster.Creates (cluster.missing topics) ∧
    (provision topics ⟨cluster, true⟩).calls =
      [.list callTimeout, .create [⟨"orders", 3, 1, none⟩, ⟨"_internal", 2, 2, none⟩]] ∧
    (provision topics ⟨cluster, true⟩).result =
      .ok [("existing", .unchanged), ("orders", .created), ("_internal", .created)] ∧
    ∀ times, (provision topics (afterTimes topics (times + 1) ⟨cluster, true⟩)).calls =
      [.list callTimeout, .create [⟨"_internal", 2, 2, none⟩]] := by
  intro topics cluster
  have hnames : (topics.map (·.name)).Nodup := by decide +kernel
  have hcreates : cluster.Creates (cluster.missing topics) := by decide +kernel
  have hmissing : cluster.missing topics =
      [⟨"orders", 3, 1, none⟩, ⟨"_internal", 2, 2, none⟩] := by decide +kernel
  have hreported : cluster.reported topics =
      [("existing", .unchanged), ("orders", .created), ("_internal", .created)] := by decide +kernel
  have hinternal : internal topics = [⟨"_internal", 2, 2, none⟩] := by decide +kernel
  obtain ⟨⟨hcalls, hresult⟩, -, hagain⟩ := unlisted_topics_created hnames hcreates
  rw [hmissing] at hcalls
  rw [hreported] at hresult
  rw [hinternal] at hagain
  exact ⟨hnames, hcreates, hcalls, hresult, fun times => (hagain times).1⟩

/-- A topic with the name of a cluster's own is created, and though the cluster has it then, it is asked
for and reported as created once more. -/
theorem own_topic_created_again :
    let topics : List Topic := [⟨"_t", 1, 1, none⟩]
    let first := provision topics ⟨⟨[], []⟩, true⟩
    let again := provision topics first.connection
    first.calls = [.list callTimeout, .create topics] ∧ first.result = .ok [("_t", .created)] ∧
    first.connection = ⟨⟨["_t"], []⟩, true⟩ ∧ Cluster.absent ⟨["_t"], []⟩ topics = [] ∧
    again.calls = [.list callTimeout, .create topics] ∧ again.result = .ok [("_t", .created)] := by
  decide +kernel

end Connection
end TopicPlan.Provision
