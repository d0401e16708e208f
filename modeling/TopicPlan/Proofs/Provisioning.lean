import TopicPlan.Command.Report
import TopicPlan.Proofs.DeclaredTopics
import TopicPlan.Proofs.PlannedTests
import TopicPlan.Proofs.SchemaPosting
import TopicPlan.Proofs.TopicCreation

/-! The whole run of a provisioning. A schema is only sent to a registry once the cluster has all
topics, and the run counts as a success only when nothing failed on the way. -/
namespace TopicPlan.Command
open Provision Suite OrderedMap

/-- The topics that are the first of their names among some topics, in order. -/
structure FirstOfEachName (topics chosen : List Topic) : Prop where
  names : chosen.map (·.name) = (topics.map (·.name)).eraseDups
  first : ∀ topic ∈ chosen, IsFirstNamed topics topic

theorem firstOfEachName_topicsOf (tests : List PlannedTest) :
    FirstOfEachName (tests.flatMap (·.topics)) (topicsOf tests) := by
  generalize htopics : tests.flatMap (·.topics) = topics
  have htopicsOf : topicsOf tests = (firstWins (entriesOf topics)).values := by
    rw [← htopics]
    rfl
  have hkeys := keys_firstWins (entriesOf topics)
  rw [entriesOf_names] at hkeys
  have hnodup : (keys (firstWins (entriesOf topics))).Nodup := by
    rw [hkeys]
    exact nodup_eraseDups _
  have hentry : ∀ entry ∈ firstWins (entriesOf topics),
      entry.2.name = entry.1 ∧ IsFirstNamed topics entry.2 := by
    intro entry hmem
    have hget := get?_eq_some_of_mem hnodup hmem
    rw [get?_firstWins, get?_entriesOf] at hget
    exact isFirstNamed_of_find? hget
  rw [htopicsOf]
  refine ⟨?_, ?_⟩
  · rw [values_names fun entry hmem => (hentry entry hmem).1, hkeys]
  · intro topic htopic
    obtain ⟨entry, hmem, rfl⟩ := List.mem_map.mp htopic
    exact (hentry entry hmem).2

theorem mem_of_mem_topicsOf {tests : List PlannedTest} {topic : Topic} (h : topic ∈ topicsOf tests) :
    ∃ test ∈ tests, topic ∈ test.topics := by
  obtain ⟨before, after, htopics, -⟩ := (firstOfEachName_topicsOf tests).first topic h
  apply List.mem_flatMap.mp
  rw [htopics]
  simp

/-- Which of some tests a request for a test of a name chooses: all of them where no name is given, and
otherwise those of the name, of which there has to be one. -/
inductive Chooses (tests : List PlannedTest) : Option String → List PlannedTest → Prop
  | all {test : Option String} (h : ∀ name ∈ test, name = "") : Chooses tests test tests
  | named {name : String} (hname : name ≠ "") (h : ∃ test ∈ tests, test.name = name) :
      Chooses tests (some name) (tests.filter fun test => test.name = name)

theorem selected_of_none {test : Option String} (h : ∀ name ∈ test, name = "")
    (tests : List PlannedTest) : selected test tests = .ok tests := by
  cases test with
  | none => rfl
  | some name =>
    obtain rfl := h name rfl
    rfl

theorem selected_of_name {name : String} (h : name ≠ "") (tests : List PlannedTest) :
    selected (some name) tests =
      if (tests.filter fun test => test.name = name).isEmpty then .error name
      else .ok (tests.filter fun test => test.name = name) := by
  have hfilter : (some name).filter (fun name => !name.isEmpty) = some name := by
    simpa [Option.filter_some] using h
  simp only [selected, hfilter]
  cases tests.filter fun test => test.name = name <;> rfl

theorem selected_eq_ok_iff {test : Option String} {tests chosen : List PlannedTest} :
    selected test tests = .ok chosen ↔ Chooses tests test chosen := by
  have hsome (name : String) : (tests.filter fun test => test.name = name).isEmpty = false ↔
      ∃ test ∈ tests, test.name = name := by simp
  constructor
  · intro h
    by_cases hnone : ∀ name ∈ test, name = ""
    · rw [selected_of_none hnone] at h
      cases h
      exact .all hnone
    · push Not at hnone
      obtain ⟨name, rfl, hname⟩ := hnone
      rw [selected_of_name hname] at h
      split at h
      · cases h
      · next hfound =>
        cases h
        exact .named hname ((hsome name).mp (by simpa using hfound))
  · intro h
    cases h with
    | all h => exact selected_of_none h tests
    | named hname h =>
      rw [selected_of_name hname, (hsome _).mpr h]
      rfl

/-! ### What is done with chosen topics -/

section Topics

variable (servers : String) (registry : Option String) (remarks : List Remark) (replies : Replies)
  {topics : List Topic} {cluster : Cluster}

theorem provisionTopics_of_fails {calls : List ClusterCall}
    (h : ¬Succeeds (Connection.provision topics ⟨cluster, true⟩).result ∧
      (Connection.provision topics ⟨cluster, true⟩).calls = calls) :
    let report := provisionTopics servers registry topics remarks cluster replies
    report.exit = 1 ∧ report.requests = [] ∧
      report.calls = .connect (settings servers []) :: calls := by
  obtain ⟨hfails, rfl⟩ := h
  unfold provisionTopics
  cases hresult : (Connection.provision topics ⟨cluster, true⟩).result with
  | ok actions => exact absurd ⟨actions, hresult⟩ hfails
  | error error =>
    simp only [Connection.connect, Use.bind, hresult]
    exact ⟨trivial, trivial, rfl⟩

theorem provisionTopics_of_succeeds
    (h : Succeeds (Connection.provision topics ⟨cluster, true⟩).result) :
    ∃ provisioned : Report,
      provisionTopics servers registry topics remarks cluster replies =
        withRegistration registry topics replies provisioned ∧
      provisioned.exit = 0 ∧ provisioned.requests = [] ∧
      provisioned.calls = .connect (settings servers []) ::
        (Connection.provision topics ⟨cluster, true⟩).calls ∧
      provisioned.cluster = (Connection.provision topics ⟨cluster, true⟩).connection.cluster := by
  obtain ⟨actions, hresult⟩ := h
  unfold provisionTopics
  simp only [Connection.connect, Use.bind, hresult]
  exact ⟨_, rfl, rfl, rfl, rfl, rfl⟩

variable {registry}

theorem withRegistration_of_none (h : ∀ address ∈ registry, address = "") (report : Report) :
    withRegistration registry topics replies report = report := by
  cases registry with
  | none => rfl
  | some address =>
    obtain rfl := h address rfl
    rfl

theorem withRegistration_of_address {address : String} (h : address ≠ "") {report : Report}
    (hexit : report.exit = 0) (topics : List Topic) :
    let registration := (Registry.ofAddress address none none).registerAll topics replies
    let after := withRegistration (some address) topics replies report
    after.requests = registration.requests ∧ (after.exit = 0 ↔ Succeeds registration.result) := by
  have hfilter : (some address).filter (fun address => !address.isEmpty) = some address := by
    simpa [Option.filter_some] using h
  simp only [withRegistration, hfilter, Registry.provision]
  cases ((Registry.ofAddress address none none).registerAll topics replies).result with
  | error error => simp [Except.map]
  | ok identifiers => simp [Except.map, hexit]

theorem withRegistration_cluster (report : Report) :
    (withRegistration registry topics replies report).cluster = report.cluster := by
  unfold withRegistration
  split
  · rfl
  · simp only
    split <;> rfl

end Topics

/-! ### A whole run -/

section Run

variable (verbose : Bool) (path servers : String) (registry test : Option String)
  (cluster : Cluster) (replies : Replies) {file : File}

theorem report_of_not_chosen (hfile : file.bytes.isSome)
    (h : ∀ tests chosen, file.plan.result = .ok tests → ¬Chooses tests test chosen) :
    let report := Invocation.report ⟨verbose, path, .provision servers registry test⟩ file cluster
      replies
    report.exit = 1 ∧ report.calls = [] ∧ report.requests = [] := by
  have hnone : file.bytes.isNone = false := by simpa using hfile
  simp only [Invocation.report, hnone, Bool.false_eq_true, if_false, provisionReport, planned]
  cases hplan : file.plan.result with
  | error error => simp only [and_self]
  | ok tests =>
    cases hselected : selected test tests with
    | error name => simp only [hselected, and_self]
    | ok chosen => exact absurd (selected_eq_ok_iff.mp hselected) (h tests chosen hplan)

theorem report_of_chosen (hfile : file.bytes.isSome) {tests chosen : List PlannedTest}
    (hplan : file.plan.result = .ok tests) (hchosen : Chooses tests test chosen) :
    ∃ remarks, Invocation.report ⟨verbose, path, .provision servers registry test⟩ file cluster
      replies = provisionTopics servers registry (topicsOf chosen) remarks cluster replies := by
  have hnone : file.bytes.isNone = false := by simpa using hfile
  have hselected := selected_eq_ok_iff.mpr hchosen
  refine ⟨file.plan.notices.map Remark.notice, ?_⟩
  simp only [Invocation.report, hnone, Bool.false_eq_true, if_false, provisionReport, planned, hplan,
    hselected]

/-- What a run does that nothing keeps from creating the topics it needs: all of them are there before
a schema is sent, and where a registry is given the schemas are sent in order, up to the first reply
that fails. -/
structure Completes (registry : Option String) (topics : List Topic) (replies : Replies)
    (report : Report) : Prop where
  present : ∃ provisioned : Report, provisioned.requests = [] ∧
    (∀ topic ∈ topics, topic.name ∈ provisioned.cluster.topics) ∧
    report = withRegistration registry topics replies provisioned ∧
    report.cluster = provisioned.cluster
  unregistered : (∀ address ∈ registry, address = "") → report.requests = [] ∧ report.exit = 0
  registered : ∀ address ∈ registry, address ≠ "" →
    Sends ((Registry.ofAddress address none none).posts topics)
      (fun i => ¬(replies.reply i).Accepts) report.requests ∧
    (report.exit = 0 ↔ ∀ i < report.requests.length, (replies.reply i).Accepts)

theorem provisionTopics_completes {topics : List Topic} {remarks : List Remark}
    (h : ∀ topic ∈ cluster.missing topics,
      demandFault? topic = none ∧ ¬cluster.Refuses topic.name) :
    Completes registry topics replies
      (provisionTopics servers registry topics remarks cluster replies) := by
  obtain ⟨hsucceeds, hpresent⟩ := Connection.provision_of_created h
  obtain ⟨provisioned, hreport, hexit, hrequests, -, hcluster⟩ :=
    provisionTopics_of_succeeds servers registry remarks replies hsucceeds
  rw [hreport]
  refine ⟨⟨provisioned, hrequests, ?_, rfl, withRegistration_cluster replies provisioned⟩, ?_, ?_⟩
  · rw [hcluster]
    exact hpresent
  · intro hnone
    rw [withRegistration_of_none replies hnone]
    exact ⟨hrequests, hexit⟩
  · rintro address rfl haddress
    obtain ⟨hposted, hexits⟩ := withRegistration_of_address replies haddress hexit topics
    rw [hposted, hexits]
    exact Registry.registerAll_sends _ topics replies

/-- No run succeeds in part. Without tests that can be planned and chosen, neither the cluster nor the
registry is asked anything. A topic that is missing and cannot be asked for, or that the cluster
refuses, fails the run before any schema is sent. Otherwise the run completes. -/
theorem provisioning_completes_or_fails (hfile : file.bytes.isSome) :
    let report := Invocation.report ⟨verbose, path, .provision servers registry test⟩ file cluster
      replies
    ((∀ tests chosen, file.plan.result = .ok tests → ¬Chooses tests test chosen) →
      report.exit = 1 ∧ report.calls = [] ∧ report.requests = []) ∧
    ∀ tests chosen, file.plan.result = .ok tests → Chooses tests test chosen →
      FirstOfEachName (chosen.flatMap (·.topics)) (topicsOf chosen) ∧
      ((∃ topic ∈ cluster.missing (topicsOf chosen), demandFault? topic ≠ none) →
        report.exit = 1 ∧ report.requests = [] ∧
          report.calls = [.connect (settings servers []), .list callTimeout]) ∧
      ((∀ topic ∈ cluster.missing (topicsOf chosen), demandFault? topic = none) →
        (∃ topic ∈ cluster.missing (topicsOf chosen), cluster.Refuses topic.name) →
        report.exit = 1 ∧ report.requests = [] ∧
          report.calls = [.connect (settings servers []), .list callTimeout,
            .create (cluster.missing (topicsOf chosen))]) ∧
      ((∀ topic ∈ cluster.missing (topicsOf chosen),
          demandFault? topic = none ∧ ¬cluster.Refuses topic.name) →
        Completes registry (topicsOf chosen) replies report) := by
  refine ⟨report_of_not_chosen verbose path servers registry test cluster replies hfile, ?_⟩
  intro tests chosen hplan hchosen
  obtain ⟨remarks, hreport⟩ :=
    report_of_chosen verbose path servers registry test cluster replies hfile hplan hchosen
  rw [hreport]
  refine ⟨firstOfEachName_topicsOf chosen, ?_, ?_, ?_⟩
  · intro h
    exact provisionTopics_of_fails servers registry remarks replies
      (Connection.provision_of_undemandable h)
  · intro hdemandable h
    exact provisionTopics_of_fails servers registry remarks replies
      (Connection.provision_of_refused hdemandable h)
  · exact provisionTopics_completes servers registry cluster replies

end Run

/-- The sample on a cluster that has one of its topics. -/
theorem provisioning_completes_sample : sampleFile.bytes.isSome = true ∧
    ∃ tests, sampleFile.plan.result = .ok tests ∧ Chooses tests none tests ∧
      (∀ topic ∈ Cluster.missing ⟨["t"], []⟩ (topicsOf tests),
        demandFault? topic = none ∧ ¬Cluster.Refuses ⟨["t"], []⟩ topic.name) ∧
      Completes (some "http://r") (topicsOf tests) ⟨[], 0⟩
        (Invocation.report ⟨false, "f.json", .provision "b" (some "http://r") none⟩ sampleFile
          ⟨["t"], []⟩ ⟨[], 0⟩) := by
  obtain ⟨tests, hplan, houtlines⟩ := plan_sampleFile
  have hchosen : Chooses tests none tests := .all (by simp)
  have hdemandable : ∀ outlined ∈ sampleOutlines, demandFault? outlined = none := by decide +kernel
  have hcreated : ∀ topic ∈ Cluster.missing ⟨["t"], []⟩ (topicsOf tests),
      demandFault? topic = none ∧ ¬Cluster.Refuses ⟨["t"], []⟩ topic.name := by
    intro topic htopic
    obtain ⟨test, htest, hmem⟩ := mem_of_mem_topicsOf (List.mem_filter.mp htopic).1
    have houtline : test.topics.map outline ∈ [sampleOutlines] :=
      houtlines ▸ List.mem_map_of_mem htest
    have hlisted : outline topic ∈ sampleOutlines :=
      List.mem_singleton.mp houtline ▸ List.mem_map_of_mem hmem
    exact ⟨hdemandable (outline topic) hlisted, by simp [Cluster.Refuses]⟩
  have hfile : sampleFile.bytes.isSome = true := rfl
  obtain ⟨-, hrun⟩ := provisioning_completes_or_fails false "f.json" "b" (some "http://r") none
    ⟨["t"], []⟩ ⟨[], 0⟩ hfile
  obtain ⟨-, -, -, hcompletes⟩ := hrun tests tests hplan hchosen
  exact ⟨hfile, tests, hplan, hchosen, hcreated, hcompletes hcreated⟩

def oversizedFile : File := plainFile "f.json"
  ("\x7b\"tests\":[\x7b\"name\":\"a\",\"statements\":[\"x\"]," ++
    "\"topics\":[\x7b\"name\":\"t\",\"partitions\":2147483648," ++
    "\"valueSchema\":\"x\"\x7d]\x7d]\x7d")

theorem plan_oversizedFile : ∃ tests, oversizedFile.plan.result = .ok tests ∧
    topicsOf tests = [⟨"t", 2147483648, 1, some ⟨.avro, "x"⟩⟩] :=
  plan_plainFile_parts (by decide +kernel) (by decide +kernel) (by decide +kernel)

/-- No creation of a topic fails, for none is asked for, and yet the run fails and sends no schema. -/
theorem oversized_topic_not_created :
    ∃ tests, oversizedFile.plan.result = .ok tests ∧
      topicsOf tests = [⟨"t", 2147483648, 1, some ⟨.avro, "x"⟩⟩] ∧
      let report := Invocation.report ⟨false, "f.json", .provision "b" (some "http://r") none⟩
        oversizedFile ⟨[], []⟩ ⟨[], 0⟩
      report.calls = [.connect (settings "b" []), .list callTimeout] ∧ report.requests = [] ∧
        report.exit = 1 := by
  obtain ⟨tests, hplan, htopics⟩ := plan_oversizedFile
  have hfile : oversizedFile.bytes.isSome = true := rfl
  obtain ⟨remarks, hreport⟩ := report_of_chosen false "f.json" "b" (some "http://r") none ⟨[], []⟩
    ⟨[], 0⟩ hfile hplan (.all (by simp))
  have hundemandable : ∃ topic ∈ Cluster.missing ⟨[], []⟩ (topicsOf tests),
      demandFault? topic ≠ none := by
    rw [htopics]
    decide +kernel
  obtain ⟨hexit, hrequests, hcalls⟩ := provisionTopics_of_fails "b" (some "http://r") remarks ⟨[], 0⟩
    (Connection.provision_of_undemandable hundemandable)
  refine ⟨tests, hplan, htopics, ?_⟩
  rw [hreport]
  exact ⟨hcalls, hrequests, hexit⟩

end TopicPlan.Command
