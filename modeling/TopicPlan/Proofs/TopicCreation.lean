import TopicPlan.Proofs.OrderedMaps
import TopicPlan.Proofs.Results
import TopicPlan.Provision.Cluster

/-! Topics on a cluster. A provisioning asks for those topics that the cluster does not list; it fails
where one of them cannot be asked for or is refused, and otherwise the cluster has all topics after
it. -/
namespace TopicPlan.Provision
open OrderedMap

theorem mem_distinct {names : List String} {name : String} :
    name ∈ distinct names ↔ name ∈ names := by
  unfold distinct
  rw [keys_firstWins, List.mem_eraseDups, List.map_map]
  simp

namespace Cluster

/-- A cluster lists the topics that it has, other than its own. -/
def Lists (cluster : Cluster) (name : String) : Prop :=
  name ∈ cluster.topics ∧ Connection.isInternal name = false

instance (cluster : Cluster) (name : String) : Decidable (cluster.Lists name) :=
  inferInstanceAs (Decidable (_ ∧ _))

def missing (cluster : Cluster) (topics : List Topic) : List Topic :=
  topics.filter fun topic => ¬cluster.Lists topic.name

def Refuses (cluster : Cluster) (name : String) : Prop := (cluster.refusals.lookup name).isSome

instance (cluster : Cluster) (name : String) : Decidable (cluster.Refuses name) :=
  inferInstanceAs (Decidable (_ = true))

theorem refuses_add {cluster : Cluster} {added name : String} :
    (cluster.add added).Refuses name ↔ cluster.Refuses name := by
  unfold add Refuses
  split <;> rfl

theorem mem_topics_add {cluster : Cluster} {added name : String} :
    name ∈ (cluster.add added).topics ↔ name = added ∨ name ∈ cluster.topics := by
  unfold add
  split
  · next h =>
    constructor
    · exact Or.inr
    · rintro (rfl | hmem)
      · exact h
      · exact hmem
  · simp [or_comm]

/-- Where nothing is refused, all names are those of topics after it, and no topic is lost. -/
theorem create_of_not_refuses {names : List String} {cluster : Cluster}
    (h : ∀ name ∈ names, ¬cluster.Refuses name) :
    (cluster.create names).2 = none ∧
      ∀ name, name ∈ names ∨ name ∈ cluster.topics → name ∈ (cluster.create names).1.topics := by
  induction names generalizing cluster with
  | nil => exact ⟨rfl, by simp [create]⟩
  | cons first names ih =>
    obtain ⟨hfirst, hrest⟩ := List.forall_mem_cons.mp h
    have hlookup : cluster.refusals.lookup first = none := Option.not_isSome_iff_eq_none.mp hfirst
    have hadd : ∀ name ∈ names, ¬(cluster.add first).Refuses name := by
      intro name hname
      rw [refuses_add]
      exact hrest name hname
    obtain ⟨hnone, hmem⟩ := ih hadd
    rw [create, hlookup]
    refine ⟨hnone, fun name hname => hmem name ?_⟩
    rw [mem_topics_add]
    rcases hname with hlisted | htopic
    · rcases List.mem_cons.mp hlisted with rfl | hlater
      · exact Or.inr (Or.inl rfl)
      · exact Or.inl hlater
    · exact Or.inr (Or.inr htopic)

/-- Where a name is refused, creation stops at the first such name. -/
theorem create_of_refuses {names : List String} {cluster : Cluster} {name : String}
    (hname : name ∈ names) (h : cluster.Refuses name) :
    ∃ refusal, (cluster.create names).2 = some refusal := by
  induction names generalizing cluster with
  | nil => cases hname
  | cons first names ih =>
    rw [create]
    cases hlookup : cluster.refusals.lookup first with
    | some reason => exact ⟨_, rfl⟩
    | none =>
      rcases List.mem_cons.mp hname with rfl | hlater
      · simp [Refuses, hlookup] at h
      · exact ih hlater (refuses_add.mpr h)

end Cluster

namespace Connection

/-- A topic that cannot be asked for keeps all topics from being asked for. -/
theorem create_of_undemandable {topics : List Topic} {topic : Topic} (htopic : topic ∈ topics)
    (h : demandFault? topic ≠ none) (connection : Connection) :
    (create topics connection).calls = [] ∧ ¬Succeeds (create topics connection).result := by
  have hsome : (topics.findSome? demandFault?).isSome := by
    rw [List.findSome?_isSome_iff]
    exact ⟨topic, htopic, Option.isSome_iff_ne_none.mpr h⟩
  obtain ⟨fault, hfault⟩ := Option.isSome_iff_exists.mp hsome
  rw [create, hfault]
  exact ⟨rfl, not_succeeds_error _⟩

section Demandable

variable {topics : List Topic} {cluster : Cluster}

theorem create_of_refuses (hdemandable : ∀ topic ∈ topics, demandFault? topic = none) {topic : Topic}
    (htopic : topic ∈ topics) (h : cluster.Refuses topic.name) :
    (create topics ⟨cluster, true⟩).calls = [.create topics] ∧
      ¬Succeeds (create topics ⟨cluster, true⟩).result := by
  have hnone : topics.findSome? demandFault? = none := List.findSome?_eq_none_iff.mpr hdemandable
  have hempty : topics.isEmpty = false := by
    rw [List.isEmpty_eq_false_iff]
    exact List.ne_nil_of_mem htopic
  have hname : topic.name ∈ distinct (topics.map Topic.name) :=
    mem_distinct.mpr (List.mem_map_of_mem htopic)
  obtain ⟨⟨name, reason⟩, hrefusal⟩ := Cluster.create_of_refuses hname h
  rw [create, hnone]
  simp only [hempty, Bool.false_eq_true, if_false, if_true, hrefusal]
  exact ⟨trivial, not_succeeds_error _⟩

theorem create_of_not_refuses (hdemandable : ∀ topic ∈ topics, demandFault? topic = none)
    (h : ∀ topic ∈ topics, ¬cluster.Refuses topic.name) :
    Succeeds (create topics ⟨cluster, true⟩).result ∧
      ∀ name, name ∈ topics.map Topic.name ∨ name ∈ cluster.topics →
        name ∈ (create topics ⟨cluster, true⟩).connection.cluster.topics := by
  have hnone : topics.findSome? demandFault? = none := List.findSome?_eq_none_iff.mpr hdemandable
  have hnames : ∀ name ∈ distinct (topics.map Topic.name), ¬cluster.Refuses name := by
    intro name hname
    obtain ⟨topic, htopic, rfl⟩ := List.mem_map.mp (mem_distinct.mp hname)
    exact h topic htopic
  obtain ⟨hrefusal, hmem⟩ := Cluster.create_of_not_refuses hnames
  simp only [mem_distinct] at hmem
  rw [create, hnone]
  cases topics with
  | nil => simp
  | cons topic topics =>
    simp only [List.isEmpty_cons, Bool.false_eq_true, if_false, if_true, hrefusal]
    exact ⟨succeeds_ok (), hmem⟩

end Demandable

theorem mem_listed_iff {cluster : Cluster} {name : String} :
    name ∈ ((distinct cluster.topics).filter fun name => !isInternal name) ↔
      cluster.Lists name := by
  simp [Cluster.Lists, mem_distinct]

theorem missing_eq (cluster : Cluster) (topics : List Topic) :
    cluster.missing topics = topics.filter fun topic =>
      topic.name ∉ (distinct cluster.topics).filter fun name => !isInternal name := by
  unfold Cluster.missing
  congr 1
  funext topic
  simp only [mem_listed_iff]

theorem provision_eq (topics : List Topic) (cluster : Cluster) :
    (provision topics ⟨cluster, true⟩).calls =
        .list callTimeout :: (create (cluster.missing topics) ⟨cluster, true⟩).calls ∧
      (Succeeds (provision topics ⟨cluster, true⟩).result ↔
        Succeeds (create (cluster.missing topics) ⟨cluster, true⟩).result) ∧
      (provision topics ⟨cluster, true⟩).connection =
        (create (cluster.missing topics) ⟨cluster, true⟩).connection := by
  rw [missing_eq]
  exact ⟨rfl, succeeds_map, rfl⟩

theorem provision_of_undemandable {topics : List Topic} {cluster : Cluster}
    (h : ∃ topic ∈ cluster.missing topics, demandFault? topic ≠ none) :
    ¬Succeeds (provision topics ⟨cluster, true⟩).result ∧
      (provision topics ⟨cluster, true⟩).calls = [.list callTimeout] := by
  obtain ⟨topic, htopic, hfault⟩ := h
  obtain ⟨hcalls, hfails⟩ := create_of_undemandable htopic hfault ⟨cluster, true⟩
  obtain ⟨hall, hresult, -⟩ := provision_eq topics cluster
  exact ⟨mt hresult.mp hfails, by rw [hall, hcalls]⟩

theorem provision_of_refused {topics : List Topic} {cluster : Cluster}
    (hdemandable : ∀ topic ∈ cluster.missing topics, demandFault? topic = none)
    (h : ∃ topic ∈ cluster.missing topics, cluster.Refuses topic.name) :
    ¬Succeeds (provision topics ⟨cluster, true⟩).result ∧
      (provision topics ⟨cluster, true⟩).calls =
        [.list callTimeout, .create (cluster.missing topics)] := by
  obtain ⟨topic, htopic, hrefuses⟩ := h
  obtain ⟨hcalls, hfails⟩ := create_of_refuses hdemandable htopic hrefuses
  obtain ⟨hall, hresult, -⟩ := provision_eq topics cluster
  exact ⟨mt hresult.mp hfails, by rw [hall, hcalls]⟩

/-- Otherwise the cluster has all topics: those that it lists it had before. -/
theorem provision_of_created {topics : List Topic} {cluster : Cluster}
    (h : ∀ topic ∈ cluster.missing topics,
      demandFault? topic = none ∧ ¬cluster.Refuses topic.name) :
    Succeeds (provision topics ⟨cluster, true⟩).result ∧
      ∀ topic ∈ topics,
        topic.name ∈ (provision topics ⟨cluster, true⟩).connection.cluster.topics := by
  obtain ⟨-, hresult, hconnection⟩ := provision_eq topics cluster
  obtain ⟨hsucceeds, hmem⟩ :=
    create_of_not_refuses (fun topic htopic => (h topic htopic).1) fun topic htopic =>
      (h topic htopic).2
  rw [hconnection]
  refine ⟨hresult.mpr hsucceeds, fun topic htopic => hmem topic.name ?_⟩
  by_cases hlists : cluster.Lists topic.name
  · exact Or.inr hlists.1
  · refine Or.inl (List.mem_map_of_mem (List.mem_filter.mpr ⟨htopic, ?_⟩))
    simpa using hlists

end Connection
end TopicPlan.Provision
