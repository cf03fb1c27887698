import TopicSink.Event.Basic
import TopicSink.Log.Registry
import TopicSink.Record.Message
import TopicSink.Response
import TopicSink.Sink

namespace TopicSink

namespace Handler

def logger : Text := "injector"

inductive Operation where
  | insert
  | readiness
deriving DecidableEq, Repr

def Operation.ofName? (name : Text) : Option Operation :=
  if name = "insert" then some .insert else if name = "readiness" then some .readiness else none

variable [Stack]

def operationName (event : Members) : Except Fault Text :=
  match Json.nonempty? (Json.lookup "operation" event) with
  | none => .ok "insert"
  | some v => (Record.text v).map Text.lower

/-- The records of an event, in the order in which they are written. -/
def decode (event : InsertEvent) : Except Fault (List Record) :=
  event.inOrder.mapM fun m => Record.ofMessage m.members

def respond (status : Int) (message : Text) (f : Fault) : Act Connection Response :=
  Response.ofFault logger (.int status) message f

/-- The response to a fault of an insertion, if there is one. -/
def onInsertFault (f : Fault) : Act Connection Response :=
  if f.kind = .fieldNotFound then respond 422 "Record is missing a configured column" f
  else if f.kind = .datastoreConnection then respond 503 "Elasticsearch is unavailable" f
  else if f.kind.isWrite then respond 502 "Failed to index records" f
  else Act.fail f

def write (cluster : Cluster) (settings : Settings) (records : List Record) :
    Act Connection Response := do
  let outcome ← Act.attempt (Sink.insert cluster settings records)
  match outcome with
  | .ok () => pure ⟨.int 200, .obj [("inserted", .int records.length)]⟩
  | .error f => onInsertFault f

/-- The response to a fault of checking an event or of decoding its messages, if there is one. -/
def onEventFault (f : Fault) : Act Connection Response :=
  if f.kind = .validation then respond 400 "Invalid event" f
  else if f.kind = .recordDecode then respond 400 "Could not decode Kafka message" f
  else Act.fail f

/-- Checks an event, decodes its messages and writes their records. -/
def insert (validate : Validator) (cluster : Cluster) (settings : Settings) (event : Members) :
    Act Connection Response :=
  match validate event >>= decode with
  | .ok records => write cluster settings records
  | .error f => onEventFault f

def readiness (cluster : Cluster) (settings : Settings) : Act Connection Response := do
  let ready ← Sink.readiness cluster settings
  pure ⟨.int (if ready then 200 else 503), .obj [("ready", .bool ready)]⟩

/-- A refusal of an event that names no operation of the handler. Nothing is logged of it. -/
def refusal (message : Text) : Response := ⟨.int 400, Response.failureBody message none⟩

def handle (validate : Validator) (cluster : Cluster) (settings : Settings) (event : Json) :
    Act Connection Response :=
  match event with
  | .obj members => do
    let name ← Act.ofExcept (operationName members)
    match Operation.ofName? name with
    | some .insert => insert validate cluster settings members
    | some .readiness => readiness cluster settings
    | none => pure (refusal "unsupported operation")
  | _ => pure (refusal "event must be an object")

/-- Prepares the handler: configures its logger and loads the settings. -/
def load (w : Surroundings) : Act Logging Settings := do
  let _ ← Logging.configure w logger "INFO"
  Logging.lookUp (Settings.load w)

end Handler

end TopicSink
