import TopicPlan.Command.Arguments

/-!
What a command line asks for. Switches that have no value on the command line can have one in the
environment, where an empty value is none.
-/

namespace TopicPlan.Command

inductive Order where
  | topics (format : Option String) (showSchemas : Bool)
  | names
  | provision (servers : String) (registry test : Option String)
deriving DecidableEq, Repr

structure Invocation where
  verbose : Bool
  file : String
  order : Order
deriving DecidableEq, Repr

inductive Reading where
  | invocation (invocation : Invocation)
  | version
  | help
  | unusable
deriving DecidableEq, Repr

namespace Reading

def helpSwitch : Switch := ⟨"--help", none, false⟩
def versionSwitch : Switch := ⟨"--version", none, false⟩
def verboseSwitch : Switch := ⟨"--verbose", some 'v', false⟩
def formatSwitch : Switch := ⟨"--format-filter", some 'f', true⟩
def schemasSwitch : Switch := ⟨"--show-schemas", none, false⟩
def serversSwitch : Switch := ⟨"--bootstrap-servers", some 'b', true⟩
def registrySwitch : Switch := ⟨"--schema-registry", some 's', true⟩
def testSwitch : Switch := ⟨"--test", some 't', true⟩

/-- The variables of the environment that stand in for switches. -/
def serversVariable : String := "KAFKA_BOOTSTRAP_SERVERS"

def registryVariable : String := "SCHEMA_REGISTRY_URL"

/-- The value of a switch, or else of a variable that is not empty. -/
def valueOr (environment : String → Option String) (setting? : Option String)
    (arguments : Arguments) (switch : Switch) : Option String :=
  (arguments.value? switch.long).or
    ((setting?.bind environment).filter fun value => !value.isEmpty)

def command (verbose : Bool) (switches : List Switch) (order? : Arguments → Option Order)
    (arguments : List String) : Reading :=
  match takeApart (helpSwitch :: switches) true arguments with
  | none => .unusable
  | some arguments =>
    if arguments.has helpSwitch.long then .help
    else match order? arguments, arguments.rest with
      | some order, [file] => .invocation ⟨verbose, file, order⟩
      | _, _ => .unusable

def ofCommand (environment : String → Option String) (verbose : Bool) (name : String)
    (arguments : List String) : Reading :=
  match name with
  | "topics" =>
    command verbose [formatSwitch, schemasSwitch]
      (fun a => some (.topics (a.value? formatSwitch.long) (a.has schemasSwitch.long))) arguments
  | "names" => command verbose [] (fun _ => some .names) arguments
  | "provision" =>
    command verbose [serversSwitch, registrySwitch, testSwitch]
      (fun a => do
        let servers ← valueOr environment (some serversVariable) a serversSwitch
        let registry := valueOr environment (some registryVariable) a registrySwitch
        return .provision servers registry (a.value? testSwitch.long)) arguments
  | _ => .unusable

def ofArguments (environment : String → Option String) (arguments : List String) : Reading :=
  match takeApart [verboseSwitch, versionSwitch, helpSwitch] false arguments with
  | none => .unusable
  | some outer =>
    let early := outer.given.find? fun entry =>
      entry.1 == versionSwitch.long || entry.1 == helpSwitch.long
    match early, outer.rest with
    | some (long, _), _ => if long = versionSwitch.long then .version else .help
    | none, name :: rest => ofCommand environment (outer.has verboseSwitch.long) name rest
    | none, [] => .unusable

end Reading

end TopicPlan.Command
