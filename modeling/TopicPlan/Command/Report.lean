import TopicPlan.Command.Invocation
import TopicPlan.Provision.Cluster
import TopicPlan.Provision.Registry
import TopicPlan.Suite.Expansion

/-!
What a command does: what it prints, what it says beside that, which calls and requests it makes,
and how it exits. Schemas are only registered once all topics are there.
-/

namespace TopicPlan.Command

open Provision

structure Table where
  title : String
  columns : List String
  rows : List (List String)
deriving DecidableEq, Repr

inductive Printed where
  | line (text : String)
  | table (table : Table)
deriving DecidableEq, Repr

/-- What a command says beside its output. -/
inductive Remark where
  | line (text : String)
  | notice (notice : Notice)
deriving DecidableEq, Repr

structure Report where
  exit : Nat
  printed : List Printed
  remarks : List Remark
  calls : List ClusterCall
  requests : List Request
  cluster : Cluster

namespace Report

/-- The remarks that are shown; notices only on demand. -/
def shown (verbose : Bool) (report : Report) : List Remark :=
  report.remarks.filter fun
    | .line _ => true
    | .notice _ => verbose

def unusable (cluster : Cluster) : Report := ⟨2, [], [], [], [], cluster⟩

end Report

/-- The words for an error; one that is not expected is marked as such. -/
def errorLine (isExpected : Bool) (message : String) : Remark :=
  .line ("[red]ERROR[/red]: " ++ (if isExpected then "" else "Unexpected error: ") ++ message)

/-- The tests of a file, or the report of the error in it, which may be an expected one. -/
def planned (isExpected : Suite.PlanError → Bool) (file : Suite.File) (cluster : Cluster) :
    Except Report (List Suite.PlannedTest) × List Remark :=
  let plan := file.plan
  let notices := plan.notices.map Remark.notice
  match plan.result with
  | .ok tests => (.ok tests, notices)
  | .error error =>
    let line := errorLine (isExpected error) error.message
    (.error ⟨1, [], notices ++ [line], [], [], cluster⟩, notices)

/-- The topics of a test as a table, sorted by name. -/
def topicTable (test : Suite.PlannedTest) : Table where
  title := test.name
  columns := ["Topic", "Partitions", "Replicas", "Value Schema"]
  rows := (test.topics.mergeSort fun a b => Text.isBefore a.name b.name).map fun topic =>
    [topic.name, toString topic.partitions, toString topic.replicas,
      (topic.schema.map fun schema => schema.kind.name).getD "-"]

def isWritable (test : Suite.PlannedTest) : Bool :=
  test.topics.all fun topic =>
    !Data.isTooLong topic.partitions && !Data.isTooLong topic.replicas

def schemaLines (test : Suite.PlannedTest) : List Printed :=
  test.topics.flatMap fun topic =>
    match topic.schema with
    | some schema =>
      [.line s!"[bold]{topic.name}[/bold] ({schema.kind.name}):", .line schema.text]
    | none => []

/-- The tests for a format in any case; an empty filter is none. -/
def forFormat (format : Option String) (tests : List Suite.PlannedTest) :
    List Suite.PlannedTest :=
  match format.filter fun name => !name.isEmpty with
  | some name => tests.filter fun test => Text.upper (test.format.getD "") = Text.upper name
  | none => tests

/-- The report of the topics of tests. It stops at a test whose counts cannot be written. -/
def topicsReport (file : Suite.File) (format : Option String) (showSchemas : Bool)
    (cluster : Cluster) : Report :=
  match planned Suite.PlanError.isExpected file cluster with
  | (.error report, _) => report
  | (.ok tests, remarks) =>
    let tests := forFormat format tests
    let shown := tests.takeWhile isWritable
    let printed := if tests.isEmpty then [Printed.line "[yellow]No test cases found[/yellow]"]
      else shown.flatMap fun test =>
        .table (topicTable test) :: if showSchemas then schemaLines test else []
    ⟨if tests.all isWritable then 0 else 1, printed, remarks, [], [], cluster⟩

def namesReport (file : Suite.File) (cluster : Cluster) : Report :=
  match planned Suite.PlanError.isExpected file cluster with
  | (.error report, _) => report
  | (.ok tests, remarks) =>
    ⟨0, tests.map fun test => .line test.name, remarks, [], [], cluster⟩

def topicsOf (tests : List Suite.PlannedTest) : List Topic :=
  (OrderedMap.firstWins ((tests.flatMap Suite.PlannedTest.topics).map fun topic =>
    (topic.name, topic))).values

def actionLines (actions : OrderedMap String Action) : List Printed :=
  (actions.mergeSort fun a b => Text.isBefore a.1 b.1).map fun (name, action) =>
    let style := match action with
      | .created => "green"
      | .unchanged => "dim"
    .line s!"[{style}]{action.name}[/{style}] topic {name}"

def registeredLines (identifiers : OrderedMap String Json) : List Printed :=
  identifiers.map fun (subject, identifier) =>
    .line s!"[green]registered[/green] {subject} (id {identifierText identifier})"

/-- The tests to provision: all of them, or those of a name; an empty name is none. -/
def selected (test : Option String) (tests : List Suite.PlannedTest) :
    Except String (List Suite.PlannedTest) :=
  match test.filter fun name => !name.isEmpty with
  | none => .ok tests
  | some name =>
    match tests.filter fun test => test.name = name with
    | [] => .error name
    | found => .ok found

def withRegistration (registry : Option String) (topics : List Topic) (replies : Replies)
    (report : Report) : Report :=
  match registry.filter fun address => !address.isEmpty with
  | none => report
  | some address =>
    let registration := (Registry.ofAddress address none none).provision topics replies
    let report := { report with
      remarks := report.remarks ++ registration.notices.map Remark.notice
      requests := registration.requests }
    match registration.result with
    | .ok identifiers => { report with printed := report.printed ++ registeredLines identifiers }
    | .error error =>
      { report with
        exit := 1
        remarks := report.remarks ++ [errorLine false error.message] }

def provisionTopics (servers : String) (registry : Option String) (topics : List Topic)
    (remarks : List Remark) (cluster : Cluster) (replies : Replies) : Report :=
  let use := (Connection.connect (settings servers []) cluster).bind fun _ connection =>
    connection.provision topics
  let report : Report := {
    exit := 0
    printed := []
    remarks := remarks ++ use.notices.map Remark.notice
    calls := use.calls
    requests := []
    cluster := use.connection.cluster }
  match use.result with
  | .error error =>
    { report with
      exit := 1
      remarks := report.remarks ++ [errorLine error.isExpected error.message] }
  | .ok actions =>
    withRegistration registry topics replies { report with printed := actionLines actions }

/-- The report of a provisioning. Beside the errors that are expected of all files, it expects those
of files that nest too deep. -/
def provisionReport (file : Suite.File) (servers : String) (registry test : Option String)
    (cluster : Cluster) (replies : Replies) : Report :=
  match planned (fun error => error.isExpected || error.isTooDeep) file cluster with
  | (.error report, _) => report
  | (.ok tests, remarks) =>
    match selected test tests with
    | .error name =>
      ⟨1, [], remarks ++ [errorLine true s!"Test '{name}' not found"], [], [], cluster⟩
    | .ok tests => provisionTopics servers registry (topicsOf tests) remarks cluster replies

def Invocation.report (invocation : Invocation) (file : Suite.File) (cluster : Cluster)
    (replies : Replies) : Report :=
  if file.bytes.isNone then .unusable cluster
  else match invocation.order with
    | .topics format showSchemas => topicsReport file format showSchemas cluster
    | .names => namesReport file cluster
    | .provision servers registry test =>
      provisionReport file servers registry test cluster replies

def versionText : String := "main, version 0.1.0\n"

end TopicPlan.Command
