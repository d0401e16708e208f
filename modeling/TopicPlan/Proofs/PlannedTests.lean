import TopicPlan.Proofs.Checks
import TopicPlan.Proofs.ClauseValidation
import TopicPlan.Proofs.DeclaredTopics
import TopicPlan.Proofs.DistinctFields
import TopicPlan.Proofs.JsonFiles

/-! The tests that a file stands for, and their topics. Whatever a topic comes from, a declaration, a
statement or a record, it has partitions and replicas; this is carried through the run over the
statements of a test and through the merging of its topics. -/
namespace TopicPlan
open Sql OrderedMap

/-- A topic with partitions and replicas, and with a schema of a kind that a registry keeps, if it has
one. -/
structure Topic.WellFormed (topic : Topic) : Prop where
  partitions : 1 ≤ topic.partitions
  replicas : 1 ≤ topic.replicas
  schema : ∀ schema, topic.schema = some schema → schema.kind.name ∈ ["AVRO", "JSON", "PROTOBUF"]

theorem SchemaKind.name_mem (kind : SchemaKind) : kind.name ∈ ["AVRO", "JSON", "PROTOBUF"] := by
  cases kind <;> decide

theorem Topic.wellFormed_ofName (name : String) : (ofName name).WellFormed :=
  ⟨Int.le_refl 1, Int.le_refl 1, fun schema _ => schema.kind.name_mem⟩

/-! ### Topics of statements -/

theorem properties_of_statement {tokens : List Token} {source : Source}
    (h : statement tokens = .ok (some (.create source))) :
    ∃ literals, Properties.ofLiterals literals = .ok source.properties := by
  obtain ⟨opened, -, htold⟩ := says_of_allFit (allFit_lax tokens) h
  generalize StatementKind.ofTokens tokens = kind at htold
  cases htold with
  | create _ _ _ _ hproperties => exact ⟨_, hproperties⟩

theorem one_le_getD_of_positive {count : Option Nat} (h : ∀ n ∈ count, 1 ≤ n) :
    1 ≤ (count.map Int.ofNat).getD Topic.defaultCount := by
  cases count with
  | none => exact Int.le_refl 1
  | some n => exact Int.ofNat_le.mpr (h n rfl)

theorem wellFormed_of_finds {config : EngineConfig} {catalog : Catalog} {sql : String}
    {topic : Topic} (h : Finds config catalog sql topic) : topic.WellFormed := by
  obtain ⟨_, source, -, -, ⟨tokens, hstatement⟩, htopic⟩ := source_of_finds h
  obtain ⟨literals, hproperties⟩ := properties_of_statement hstatement
  obtain ⟨hpartitions, hreplicas⟩ := Properties.one_le_of_ofLiterals hproperties
  obtain ⟨key, value, schema, -, -, -, rfl⟩ := topicOfSource_eq_ok_iff.mp htopic
  exact ⟨one_le_getD_of_positive hpartitions, one_le_getD_of_positive hreplicas,
    fun schema _ => schema.kind.name_mem⟩

theorem finds_of_outcome {config : EngineConfig} {catalog : Catalog} {sql : String}
    {extraction : Extraction} {topic : Topic}
    (h : (extract config catalog sql).result = .ok extraction)
    (htopic : topic ∈ extraction.outcome.topic?) : Finds config catalog sql topic := by
  obtain ⟨outcome, after⟩ := extraction
  cases outcome with
  | topic found =>
    cases htopic
    exact ⟨after, h⟩
  | nothing => cases htopic
  | unreadable error => cases htopic

theorem wellFormed_of_extractAll {config : EngineConfig} {catalog left : Catalog}
    {statements : List String} {topics : List Topic}
    (h : (extractAll config catalog statements).result = .ok (topics, left)) :
    ∀ topic ∈ topics, topic.WellFormed := by
  induction statements generalizing catalog topics with
  | nil =>
    cases h
    exact List.forall_mem_nil _
  | cons sql rest ih =>
    obtain ⟨extraction, others, hextract, hothers, rfl⟩ := extractAll_cons_eq_ok.mp h
    intro topic htopic
    rcases List.mem_append.mp htopic with hfirst | hlater
    · exact wellFormed_of_finds (finds_of_outcome hextract (Option.mem_toList.mp hfirst))
    · exact ih hothers topic hlater

/-! ### Topics of a test -/

theorem source_of_mem_mergeTopics {declared implied : List Topic} {names : List String}
    {topic : Topic} (h : topic ∈ (mergeTopics declared implied names).values) :
    topic ∈ declared ∨ topic ∈ implied ∨ topic = Topic.ofName topic.name := by
  have hget := mem_values_mergeTopics.mp h
  rw [get?_mergeTopics] at hget
  rcases Option.or_eq_some_iff.mp hget with hdeclared | ⟨-, hrest⟩
  · exact Or.inl (get?_lastWins_entriesOf hdeclared).1
  · rcases Option.or_eq_some_iff.mp hrest with himplied | ⟨-, hrecorded⟩
    · exact Or.inr (Or.inl (List.mem_of_find?_eq_some himplied))
    · obtain ⟨name, -, rfl⟩ := List.mem_map.mp (List.mem_of_find?_eq_some hrecorded)
      exact Or.inr (Or.inr rfl)

theorem names_mergeTopics (declared implied : List Topic) (names : List String) :
    (mergeTopics declared implied names).values.map (·.name) =
      keys (mergeTopics declared implied names) := by
  apply values_names
  intro entry hentry
  exact name_of_get?_mergeTopics (get?_eq_some_of_mem (nodup_keys_mergeTopics _ _ _) hentry)

/-- The topics of a test are distinct and well formed where the declared ones are, and there is one of
each name that is declared or a record's. -/
theorem collectTopics_wellFormed {config : EngineConfig} {declared topics : List Topic}
    {statements inputs outputs : List String} (hdeclared : ∀ topic ∈ declared, topic.WellFormed)
    (h : (collectTopics config declared statements inputs outputs).result = .ok topics) :
    (topics.map (·.name)).Nodup ∧ (∀ topic ∈ topics, topic.WellFormed) ∧
      ∀ name ∈ declared.map (·.name) ++ (inputs ++ outputs), name ∈ topics.map (·.name) := by
  rw [collectTopics_result] at h
  obtain ⟨⟨implied, left⟩, hrun, rfl⟩ := map_eq_ok.mp h
  rw [names_mergeTopics]
  refine ⟨nodup_keys_mergeTopics _ _ _, ?_, ?_⟩
  · intro topic htopic
    rcases source_of_mem_mergeTopics htopic with hmem | hmem | hname
    · exact hdeclared topic hmem
    · exact wellFormed_of_extractAll hrun topic hmem
    · rw [hname]
      exact Topic.wellFormed_ofName topic.name
  · intro name hname
    rw [keys_mergeTopics, List.mem_eraseDups]
    rcases List.mem_append.mp hname with hmem | hmem
    · exact List.mem_append_left _ (List.mem_append_left _ hmem)
    · exact List.mem_append_right _ hmem

namespace Suite
open Data

theorem TopicDeclaration.toTopic_eq_ok {test : String} {declaration : TopicDeclaration}
    {topic : Topic} : declaration.toTopic test = .ok topic ↔
      ∃ schema, declaration.schema? test = .ok schema ∧
        topic = ⟨declaration.name, declaration.partitions.getD Topic.defaultCount,
          declaration.replicas.getD Topic.defaultCount, schema⟩ := bind_pure_eq_ok

theorem one_le_getD {count : Option Int} (h : ∀ n ∈ count, 1 ≤ n) :
    1 ≤ count.getD Topic.defaultCount := by
  cases count with
  | none => exact Int.le_refl 1
  | some n => exact h n rfl

theorem TopicDeclaration.Positive.wellFormed {test : String} {declaration : TopicDeclaration}
    {topic : Topic} (hpositive : declaration.Positive) (h : declaration.toTopic test = .ok topic) :
    topic.WellFormed := by
  obtain ⟨schema, -, rfl⟩ := toTopic_eq_ok.mp h
  exact ⟨one_le_getD hpositive.partitions, one_le_getD hpositive.replicas,
    fun schema _ => schema.kind.name_mem⟩

section Declared

variable {test : String} {declarations : List TopicDeclaration} {topics : List Topic}

theorem names_of_toTopic (h : List.Forall₂ (fun declaration topic =>
    TopicDeclaration.toTopic test declaration = .ok topic) declarations topics) :
    topics.map (·.name) = declarations.map (·.name) := by
  induction h with
  | nil => rfl
  | cons hfirst _ ih =>
    obtain ⟨schema, -, rfl⟩ := TopicDeclaration.toTopic_eq_ok.mp hfirst
    rw [List.map_cons, List.map_cons, ih]

theorem wellFormed_of_toTopic (h : List.Forall₂ (fun declaration topic =>
    TopicDeclaration.toTopic test declaration = .ok topic) declarations topics)
    (hpositive : ∀ declaration ∈ declarations, declaration.Positive) :
    ∀ topic ∈ topics, topic.WellFormed := by
  induction h with
  | nil => exact List.forall_mem_nil _
  | cons hfirst _ ih =>
    obtain ⟨hhead, htail⟩ := List.forall_mem_cons.mp hpositive
    exact List.forall_mem_cons.mpr ⟨hhead.wellFormed hfirst, ih htail⟩

end Declared

theorem TestCase.planned_of_plan {path : String} {test : TestCase} {format : Option String}
    {planned : PlannedTest} (h : (test.plan path format).result = .ok planned) :
    ∃ config declared topics,
      EngineConfig.ofProperties test.properties = .valid config ∧
      test.topics.mapM (TopicDeclaration.toTopic (displayName path test.name format)) =
        .ok declared ∧
      (collectTopics config declared (test.statements.map (statementFor format))
        (test.inputs.map Record.topic) (test.outputs.map Record.topic)).result = .ok topics ∧
      planned = ⟨displayName path test.name format, format,
        test.statements.map (statementFor format), topics, test.inputs, test.outputs,
        test.properties, test.expectedException⟩ := by
  unfold plan at h
  cases hproperties : EngineConfig.ofProperties test.properties with
  | faulty faults =>
    simp only [hproperties] at h
    obtain ⟨_, hthrow, -⟩ := Noted.bind_eq_ok.mp h
    cases hthrow
  | valid config =>
    simp only [hproperties] at h
    obtain ⟨_, hconfig, hthen⟩ := Noted.bind_eq_ok.mp h
    obtain ⟨declared, hdeclared, hthen⟩ := Noted.bind_eq_ok.mp hthen
    obtain ⟨topics, htopics, hthen⟩ := Noted.bind_eq_ok.mp hthen
    obtain ⟨_, -, hplanned⟩ := Noted.bind_eq_ok.mp hthen
    obtain rfl := Except.ok.inj hconfig
    obtain rfl := Except.ok.inj hplanned
    exact ⟨config, declared, topics, rfl, hdeclared, mapError_eq_ok.mp htopics, rfl⟩

/-- What a test has to be that a test case is planned as: the topics are distinct and well formed, and
all topics that are declared or that a record names are among them. -/
structure Serves (path : String) (test : TestCase) (format : Option String)
    (planned : PlannedTest) : Prop where
  name : planned.name = displayName path test.name format
  inputs : planned.inputs = test.inputs
  outputs : planned.outputs = test.outputs
  distinct : (planned.topics.map (·.name)).Nodup
  wellFormed : ∀ topic ∈ planned.topics, topic.WellFormed
  declared : ∀ declaration ∈ test.topics, declaration.name ∈ planned.topics.map (·.name)
  recorded : ∀ record ∈ planned.inputs ++ planned.outputs,
    record.topic ∈ planned.topics.map (·.name)

theorem serves_of_plan {path : String} {test : TestCase} {format : Option String}
    {planned : PlannedTest} (hpositive : ∀ declaration ∈ test.topics, declaration.Positive)
    (h : (test.plan path format).result = .ok planned) : Serves path test format planned := by
  obtain ⟨config, declared, topics, -, hdeclared, htopics, rfl⟩ := TestCase.planned_of_plan h
  have hpairs := forall₂_of_mapM hdeclared
  have hnames := names_of_toTopic hpairs
  obtain ⟨hdistinct, hall, hnamed⟩ :=
    collectTopics_wellFormed (wellFormed_of_toTopic hpairs hpositive) htopics
  rw [hnames] at hnamed
  refine ⟨rfl, rfl, rfl, hdistinct, hall, ?_, ?_⟩
  · intro declaration hdeclaration
    exact hnamed _ (List.mem_append_left _ (List.mem_map_of_mem hdeclaration))
  · intro record hrecord
    have hmem : record.topic ∈ test.inputs.map Record.topic ++ test.outputs.map Record.topic := by
      rw [← List.map_append]
      exact List.mem_map_of_mem hrecord
    exact hnamed _ (List.mem_append_right _ hmem)

/-! ### The tests of a file -/

/-- The formats that a test case is planned for; a disabled one is planned for none. -/
def TestCase.origins (test : TestCase) : List (TestCase × Option String) :=
  if test.enabled then test.expansions.map (test, ·) else []

def Definition.origins (definition : Definition) : List (TestCase × Option String) :=
  definition.tests.flatMap TestCase.origins

theorem TestCase.fst_of_mem_origins {test : TestCase} {origin : TestCase × Option String}
    (h : origin ∈ test.origins) : origin.1 = test := by
  unfold origins at h
  split at h
  · obtain ⟨format, -, rfl⟩ := List.mem_map.mp h
    rfl
  · cases h

theorem TestCase.planned_of_planAll {path : String} {test : TestCase} {planned : List PlannedTest}
    (h : (test.planAll path).result = .ok planned) :
    List.Forall₂ (fun origin found => (origin.1.plan path origin.2).result = .ok found)
      test.origins planned := by
  unfold planAll at h
  unfold origins
  split at h
  · next henabled =>
    rw [Noted.result_mapM] at h
    rw [if_pos henabled, List.forall₂_map_left_iff]
    exact forall₂_of_mapM h
  · next hdisabled =>
    cases h
    rw [if_neg hdisabled]
    exact .nil

theorem File.planned_of_plan {file : File} {tests : List PlannedTest}
    (h : file.plan.result = .ok tests) :
    ∃ definition, file.read = .ok definition ∧
      List.Forall₂ (fun origin found => (origin.1.plan file.path origin.2).result = .ok found)
        definition.origins tests := by
  rw [File.plan_result] at h
  obtain ⟨definition, hread, hthen⟩ := bind_eq_ok.mp h
  obtain ⟨planned, hplanned, htests⟩ := bind_eq_ok.mp hthen
  cases htests
  refine ⟨definition, mapError_eq_ok.mp hread, List.rel_flatten ?_⟩
  rw [List.forall₂_map_left_iff]
  exact (forall₂_of_mapM hplanned).imp fun test found => TestCase.planned_of_planAll

/-- When the tests of a file can be planned, they are one for every format of every test case that is
not disabled. The topics of each have distinct names, at least one partition and one replica each, and
no schema or one of a kind that registries keep; whatever the test case declares and whatever its
records name is among them. -/
theorem planned_tests_serve {file : File} {tests : List PlannedTest}
    (h : file.plan.result = .ok tests) :
    ∃ definition, file.read = .ok definition ∧
      List.Forall₂ (fun origin planned => Serves file.path origin.1 origin.2 planned)
        definition.origins tests := by
  obtain ⟨definition, hread, hplanned⟩ := File.planned_of_plan h
  have hpositive : ∀ origin ∈ definition.origins, ∀ declaration ∈ origin.1.topics,
      declaration.Positive := by
    intro origin horigin
    obtain ⟨test, htest, hmem⟩ := List.mem_flatMap.mp horigin
    rw [TestCase.fst_of_mem_origins hmem]
    exact File.positive_of_read hread test htest
  refine ⟨definition, hread, ?_⟩
  have hboth := (List.forall₂_and_left _ _).mpr ⟨hpositive, hplanned⟩
  exact hboth.imp fun origin planned hplan => serves_of_plan hplan.1 hplan.2

/-- A file with one test case, which declares a topic and, in its statement, a stream; a record names
another topic. -/
def sampleFile : File := plainFile "f.json"
  ("\x7b\"tests\":[\x7b\"name\":\"a\",\"topics\":[\x7b\"name\":\"t\",\"partitions\":2\x7d]," ++
    "\"statements\":[\"CREATE STREAM S (V INT) WITH (kafka_topic='s', format='AVRO')\"]," ++
    "\"inputs\":[\x7b\"topic\":\"r\"\x7d]\x7d]\x7d")

def outline (topic : Topic) : Topic :=
  { topic with schema := topic.schema.map fun schema => ⟨schema.kind, ""⟩ }

/-- The topics of the sample: one that is declared, one of a statement, and one of a record. -/
def sampleOutlines : List Topic :=
  [⟨"t", 2, 1, none⟩, ⟨"s", 1, 1, some ⟨.avro, ""⟩⟩, ⟨"r", 1, 1, none⟩]

theorem plan_sampleFile : ∃ tests, sampleFile.plan.result = .ok tests ∧
    tests.map (·.topics.map outline) = [sampleOutlines] :=
  plan_plainFile_parts (by decide +kernel) (by decide +kernel) (by decide +kernel)

theorem planned_tests_serve_sample : ∃ tests, sampleFile.plan.result = .ok tests ∧
    tests.map (·.topics.map outline) = [sampleOutlines] ∧
    ∃ definition, sampleFile.read = .ok definition ∧
      List.Forall₂ (fun origin planned => Serves "f.json" origin.1 origin.2 planned)
        definition.origins tests := by
  obtain ⟨tests, htests, houtlines⟩ := plan_sampleFile
  exact ⟨tests, htests, houtlines, planned_tests_serve htests⟩

end Suite
end TopicPlan
