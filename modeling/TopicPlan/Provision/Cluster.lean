import TopicPlan.Notice
import TopicPlan.OrderedMap
import TopicPlan.Provision.Demand

/-!
Creating topics on a cluster. A use of a cluster records the calls it makes, in order; topics that
the cluster already has are left alone. A creation that the cluster refuses ends the use, and of the
topics asked for those after the refused one are not created either.
-/

namespace TopicPlan.Provision

/-- A cluster: the topics it has, and for some names the reason why it creates no topic of that
name. -/
structure Cluster where
  topics : List String
  refusals : List (String × String)
deriving DecidableEq, Repr

namespace Cluster

def add (name : String) (cluster : Cluster) : Cluster :=
  if name ∈ cluster.topics then cluster else { cluster with topics := cluster.topics ++ [name] }

/-- Creates topics one after the other up to the first refusal, which is given with its reason. -/
def create : List String → Cluster → Cluster × Option (String × String)
  | [], cluster => (cluster, none)
  | name :: names, cluster =>
    match cluster.refusals.lookup name with
    | some reason => (cluster, some (name, reason))
    | none => create names (cluster.add name)

end Cluster

/-- The names in order of their first appearance. -/
def distinct (names : List String) : List String :=
  (OrderedMap.firstWins (names.map fun name => (name, ()))).keys

def callTimeout : Nat := 10

inductive ClusterCall where
  | connect (settings : OrderedMap String String)
  | list (timeout : Nat)
  | create (topics : List Topic)
deriving DecidableEq, Repr

inductive ClusterError where
  | closedForListing
  | closedForCreation
  | undemandable (fault : DemandFault)
  | refused (topic reason : String)
deriving DecidableEq, Repr

def ClusterError.message : ClusterError → String
  | .closedForListing => "'NoneType' object has no attribute 'list_topics'"
  | .closedForCreation => "'NoneType' object has no attribute 'create_topics'"
  | .undemandable fault => fault.message
  | .refused topic reason => s!"Failed to create topic '{topic}': {reason}"

/-- Whether an error is one that clusters are expected to give; all others are surprises. -/
def ClusterError.isExpected : ClusterError → Bool
  | .refused .. => true
  | .closedForListing | .closedForCreation | .undemandable _ => false

inductive Action where
  | created
  | unchanged
deriving DecidableEq, Repr

def Action.name : Action → String
  | .created => "created"
  | .unchanged => "unchanged"

/-- A connection to a cluster; once closed it makes no more calls. -/
structure Connection where
  cluster : Cluster
  isOpen : Bool
deriving DecidableEq, Repr

/-- A use of a connection: its calls and notices, its result, and the connection after it. -/
structure Use (α : Type) where
  calls : List ClusterCall
  notices : List Notice
  result : Except ClusterError α
  connection : Connection

namespace Use

def bind (use : Use α) (next : α → Connection → Use β) : Use β :=
  match use.result with
  | .error error => ⟨use.calls, use.notices, .error error, use.connection⟩
  | .ok a =>
    let after := next a use.connection
    ⟨use.calls ++ after.calls, use.notices ++ after.notices, after.result, after.connection⟩

end Use

/-- Names that are taken by what a provisioner is made of. No setting can have one. -/
def takenNames : List String := ["self", "bootstrap_servers"]

def takenName? (others : List (String × String)) : Option String :=
  (others.map fun setting => setting.1).find? fun name => takenNames.contains name

def takenMessage (name : String) : String :=
  s!"KafkaProvisioner.__init__() got multiple values for argument '{name}'"

def settings (servers : String) (others : List (String × String)) : OrderedMap String String :=
  OrderedMap.lastWins (("bootstrap.servers", servers) :: others)

namespace Connection

def connect (settings : OrderedMap String String) (cluster : Cluster) : Use Unit :=
  ⟨[.connect settings], [], .ok (), ⟨cluster, true⟩⟩

def close (connection : Connection) : Connection := { connection with isOpen := false }

/-- Whether a topic is the cluster's own. -/
def isInternal (name : String) : Bool := name.toList.head? == some '_'

/-- The topics of the cluster that are not its own. -/
def list (connection : Connection) : Use (List String) :=
  if connection.isOpen then
    let names := (distinct connection.cluster.topics).filter fun name => !isInternal name
    ⟨[.list callTimeout], [], .ok names, connection⟩
  else ⟨[], [], .error .closedForListing, connection⟩

/-- Creates topics, all of which have to be ones that can be asked for. Nothing to create is no
call. -/
def create (topics : List Topic) (connection : Connection) : Use Unit :=
  match topics.findSome? demandFault? with
  | some fault => ⟨[], [], .error (.undemandable fault), connection⟩
  | none =>
    if topics.isEmpty then ⟨[], [], .ok (), connection⟩
    else if connection.isOpen then
      let (cluster, refusal) := connection.cluster.create (distinct (topics.map Topic.name))
      let result := match refusal with
        | some (topic, reason) => .error (.refused topic reason)
        | none => .ok ()
      ⟨[.create topics], [], result, { connection with cluster }⟩
    else ⟨[], [], .error .closedForCreation, connection⟩

def actions (existing : List String) (topics : List Topic) : OrderedMap String Action :=
  OrderedMap.lastWins (topics.map fun topic =>
    (topic.name, if topic.name ∈ existing then .unchanged else .created))

def provision (topics : List Topic) (connection : Connection) :
    Use (OrderedMap String Action) :=
  connection.list.bind fun existing connection =>
    let present := topics.filter fun topic => topic.name ∈ existing
    let missing := topics.filter fun topic => topic.name ∉ existing
    let creation := connection.create missing
    { creation with
      notices := present.map (fun topic => .topicExists topic.name) ++ creation.notices
      result := creation.result.map fun _ => actions existing topics }

end Connection

end TopicPlan.Provision
