import TopicPlan.Json.Basic
import TopicPlan.Notice
import TopicPlan.OrderedMap
import TopicPlan.Topic.Basic

/-!
Registering the schemas of topics. Each schema is one request under the topic's subject; the reply
has the identifier of the schema. A reply that reports an error, or has no identifier, ends the
registration.
-/

namespace TopicPlan.Provision

def valueSubject (topic : String) : String := topic ++ "-value"

/-- A registry: where it is, and the user and password it asks for. -/
structure Registry where
  url : String
  credentials : Option (String × String)
deriving DecidableEq, Repr

namespace Registry

/-- A registry at an address, slashes at whose end do not count. Credentials need both parts. -/
def ofAddress (address : String) (user password : Option String) : Registry :=
  let url := String.ofList (address.toList.reverse.dropWhile (· == '/')).reverse
  let credentials := match user, password with
    | some user, some password =>
      if user.isEmpty || password.isEmpty then none else some (user, password)
    | _, _ => none
  ⟨url, credentials⟩

end Registry

structure Request where
  url : String
  schema : Schema.ValueSchema
  credentials : Option (String × String)
deriving DecidableEq, Repr

namespace Request

def method : String := "POST"

def timeout : Nat := 30

def headers : List (String × String) :=
  [("Content-Type", "application/vnd.schemaregistry.v1+json")]

end Request

structure Reply where
  status : Nat
  reason : String
  body : Json
deriving Repr

/-- The replies to come. When there are none left, schemas are numbered by the requests so far. -/
structure Replies where
  queue : List Reply
  made : Nat

namespace Replies

def next (replies : Replies) : Reply × Replies :=
  let made := replies.made + 1
  match replies.queue with
  | reply :: queue => (reply, ⟨queue, made⟩)
  | [] => (⟨200, "OK", .object [("id", .int made)]⟩, ⟨[], made⟩)

end Replies

inductive RegistryError where
  | status (code : Nat) (reason url : String)
  | identifierMissing
  /-- The body of the reply has no members. -/
  | bodyShapeless (body : Json)
deriving Repr

def shapelessMessage : Json → String
  | .null => "'NoneType' object is not subscriptable"
  | .bool _ => "'bool' object is not subscriptable"
  | .int _ => "'int' object is not subscriptable"
  | .real _ => "'float' object is not subscriptable"
  | .text _ => "string indices must be integers, not 'str'"
  | .array _ => "list indices must be integers or slices, not str"
  | .object _ => "'id'"

def RegistryError.message : RegistryError → String
  | .status code reason url =>
    let party := if code < 500 then "Client" else "Server"
    s!"{code} {party} Error: {reason} for url: {url}"
  | .identifierMissing => "'id'"
  | .bodyShapeless body => shapelessMessage body

def Reply.identifier (url : String) (reply : Reply) : Except RegistryError Json :=
  if 400 ≤ reply.status ∧ reply.status < 600 then
    .error (.status reply.status reply.reason url)
  else match reply.body with
    | .object members =>
      match OrderedMap.get? "id" members with
      | some identifier => .ok identifier
      | none => .error .identifierMissing
    | body => .error (.bodyShapeless body)

mutual

/-- The text of a value inside another one: strings between quotes. -/
def innerText : Json → String
  | .null => "None"
  | .bool value => if value then "True" else "False"
  | .int value => toString value
  | .real value => value.text
  | .text value => Text.quoted value
  | .array items => "[" ++ ", ".intercalate (innerTexts items) ++ "]"
  | .object members => "\x7b" ++ ", ".intercalate (memberTexts members) ++ "\x7d"

def innerTexts : List Json → List String
  | [] => []
  | item :: items => innerText item :: innerTexts items

def memberTexts : List (String × Json) → List String
  | [] => []
  | (name, value) :: members =>
    (Text.quoted name ++ ": " ++ innerText value) :: memberTexts members

end

def identifierText : Json → String
  | .text value => value
  | value => innerText value

/-- A registration of schemas: its requests and notices, its result, and the replies after it. -/
structure Registration (α : Type) where
  requests : List Request
  notices : List Notice
  result : Except RegistryError α
  replies : Replies

namespace Registry

def request (registry : Registry) (topic : String) (schema : Schema.ValueSchema) : Request :=
  ⟨registry.url ++ "/subjects/" ++ valueSubject topic ++ "/versions", schema,
    registry.credentials⟩

/-- Registers the schema of a topic, if it has one, and gives its identifier, if the reply has one
other than null. -/
def register (registry : Registry) (topic : Topic) (replies : Replies) :
    Registration (Option Json) :=
  match topic.schema with
  | none => ⟨[], [], .ok none, replies⟩
  | some schema =>
    let request := registry.request topic.name schema
    let (reply, replies) := replies.next
    match reply.identifier request.url with
    | .error error => ⟨[request], [], .error error, replies⟩
    | .ok identifier =>
      let notice := Notice.schemaRegistered (identifierText identifier) (valueSubject topic.name)
      let identifier? := match identifier with
        | .null => none
        | identifier => some identifier
      ⟨[request], [notice], .ok identifier?, replies⟩

/-- Registers topics one after the other, and gives the identifier of each. -/
def registerAll (registry : Registry) : List Topic → Replies → Registration (List (Option Json))
  | [], replies => ⟨[], [], .ok [], replies⟩
  | topic :: topics, replies =>
    let first := registry.register topic replies
    match first.result with
    | .error error => ⟨first.requests, first.notices, .error error, first.replies⟩
    | .ok identifier =>
      let rest := registry.registerAll topics first.replies
      ⟨first.requests ++ rest.requests, first.notices ++ rest.notices,
        rest.result.map (identifier :: ·), rest.replies⟩

/-- Registers the schemas of topics and gives the identifier under each subject. -/
def provision (registry : Registry) (topics : List Topic) (replies : Replies) :
    Registration (OrderedMap String Json) :=
  let all := registry.registerAll topics replies
  { all with
    result := all.result.map fun identifiers =>
      OrderedMap.lastWins ((topics.zip identifiers).filterMap fun (topic, identifier?) =>
        identifier?.map fun identifier => (valueSubject topic.name, identifier)) }

end Registry

end TopicPlan.Provision
