import TopicSink.Connection
import TopicSink.Record.Basic

/-!
The sink writes batches of records to the cluster, each batch in one bulk request. Index names and
document ids are derived from all records of a batch before anything is sent, and every document
that the cluster rejects is reported.
-/

namespace TopicSink

namespace Sink

def logger : Text := "record_sink.sink"

variable [Stack] {σ : Type}

/-- A column of a record. That it is missing is logged under the given heading. -/
def columnFor (heading : Text) (r : Record) (name : Text) : Act σ Text :=
  match r.column name with
  | .ok t => pure t
  | .error fault => do
    if fault.kind = .fieldNotFound then Act.log (.ofFault logger heading fault)
    Act.fail fault

/-- The index of a record: the configured one or its topic, then its day or the index column. -/
def indexName (settings : Settings) (r : Record) : Act σ Text := do
  let lead := (Text.nonempty? settings.index).getD r.topic
  match Text.nonempty? settings.indexColumn with
  | none => pure (lead ++ "-" ++ r.day)
  | some column => do
    let value ← columnFor "Could not get column value from record" r column
    pure (lead ++ "-" ++ value)

/-- The document id of a record: its own id, or the value of the id column. -/
def docId (settings : Settings) (r : Record) : Act σ Text :=
  match Text.nonempty? settings.docIdColumn with
  | none => Act.ofExcept r.id
  | some column => columnFor "Could not get doc id value from record" r column

def indexAction (settings : Settings) (r : Record) (index id : Text) : Json :=
  let target : Members := [("_index", .str index), ("_id", .str id)]
  let docType : Members := if settings.includeDocType then [("_type", .str r.topic)] else []
  .obj [("index", .obj (target ++ docType))]

/-- What a bulk request says of one record: the index action, and the document without the hidden
columns. -/
def actionsOf (settings : Settings) (r : Record) : Act σ (List Json) := do
  let index ← indexName settings r
  let id ← docId settings r
  pure [indexAction settings r index id, .obj (r.without settings.hiddenColumns)]

def buildActions (settings : Settings) : List Record → Act σ (List Json)
  | [] => pure []
  | r :: rest => do
    let first ← actionsOf settings r
    let others ← buildActions settings rest
    pure (first ++ others)

def membersOf : Json → Except Fault Members
  | .obj members => .ok members
  | _ => .error .notAnObject

/-- The items of a bulk answer. Looking into a string or an object gives texts, which hold no
results. -/
def itemsOf : Json → Except Fault (List Json)
  | .arr items => .ok items
  | .str t => .ok (t.map fun c => .str [c])
  | .obj members => .ok (members.map fun m => .str m.1)
  | _ => .error .wrongType

def statusOf (result : Members) : Except Fault Int :=
  Record.integer ((Json.lookup "status" result).getD (.int 0))

def rejection (op : Text) (result : Members) (status : Int) : Json :=
  let part (name : Text) : Json := (Json.lookup name result).getD .null
  .obj [("op", .str op), ("index", part "_index"), ("id", part "_id"), ("status", .int status),
    ("error", part "error")]

/-- Whether a result tells of a rejection: it has an error, or no status of success. -/
def isRejected (result : Members) (status : Int) : Bool :=
  (Json.lookup "error" result).isSome || !(200 ≤ status && status ≤ 299)

def rejectionsOf : Members → Except Fault (List Json)
  | [] => .ok []
  | (op, result) :: rest => do
    let result ← membersOf result
    let status ← statusOf result
    let others ← rejectionsOf rest
    pure (if isRejected result status then rejection op result status :: others else others)

def rejections : List Json → Except Fault (List Json)
  | [] => .ok []
  | item :: rest => do
    let results ← membersOf item
    let first ← rejectionsOf results
    let others ← rejections rest
    pure (first ++ others)

/-- The rejections that the body of a bulk answer reports; nothing without its flag of errors. -/
def reported (body : Json) : Except Fault (Option (List Json)) := do
  let members ← membersOf body
  match Json.nonempty? (Json.lookup "errors" members) with
  | none => pure none
  | some _ => do
    let items ← itemsOf ((Json.lookup "items" members).getD (.arr []))
    let failures ← rejections items
    pure (some failures)

def firstOf : List Json → Except Fault Members
  | [] => .ok []
  | .obj members :: _ => .ok members
  | v :: _ => .error (.noMembers v)

/-- The fault of a batch of which documents were rejected. Its message tells of the first of them.
-/
def partialWrite (failures : List Json) : Except Fault Fault := do
  let members ← firstOf failures
  let part (name : Text) : Except Fault Text := Record.text ((Json.lookup name members).getD .null)
  let _ ← part "id"
  let _ ← part "index"
  let _ ← part "error"
  pure (.rejected failures)

def checkRejections (n : Nat) (failures : List Json) : Act σ Unit :=
  if failures.isEmpty then
    Act.log (.warning logger "Bulk response flagged errors but no failed items were reported")
  else do
    let fault ← Act.ofExcept (partialWrite failures)
    Act.log (.ofFault logger ("Elasticsearch rejected " ++ Text.ofNat failures.length ++ " of "
      ++ Text.ofNat n ++ " documents") fault)
    Act.fail fault

def submit (cluster : Cluster) (settings : Settings) (n : Nat) (operations : List Json) :
    Act Connection Unit := do
  let client ← Connection.client cluster settings
  Act.ask (.bulk client settings.bulkTimeout operations)
  match cluster.bulk with
  | .error fault =>
    if fault.kind.isTransport || fault.kind.isApi then do
      Act.log (.ofFault logger "Bulk request to Elasticsearch failed" fault)
      Act.failAfter fault (.bulkFailed fault)
    else Act.fail fault
  | .ok answer => do
    let failures ← Act.ofExcept (reported answer.body)
    match failures with
    | some failures => checkRejections n failures
    | none => pure ()
    Act.log (.info logger ("Indexed " ++ Text.ofNat n ++ " records"))

/-- Writes a batch of records. Nothing is sent for an empty batch, or before every record has an
index name and a document id. -/
def insert (cluster : Cluster) (settings : Settings) (records : List Record) :
    Act Connection Unit := do
  let operations ← buildActions settings records
  if operations.isEmpty then Act.log (.debug logger "No records to insert")
  else submit cluster settings records.length operations

def ping (cluster : Cluster) (settings : Settings) : Act Connection Answer := do
  let client ← Connection.client cluster settings
  Act.ask (.info client)
  Act.ofExcept cluster.info

def versionOf (body : Json) : Except Fault Json := do
  let members ← membersOf body
  match Json.nonempty? (Json.lookup "version" members) with
  | none => pure .null
  | some version => do
    let members ← membersOf version
    pure ((Json.lookup "number" members).getD .null)

/-- What comes of showing a value in a line of information. The handler of the log keeps to itself
whatever goes wrong with a line, but not that a value in it is nested too deeply. -/
def informed (v : Json) : Except Fault Unit :=
  match Stack.logging with
  | none => .ok ()
  | some room =>
    match v.hindrance 0 room with
    | some .tooDeep => .error .tooDeepToShow
    | _ => .ok ()

def readiness (cluster : Cluster) (settings : Settings) : Act Connection Bool := do
  let outcome ← Act.attempt (ping cluster settings)
  match outcome with
  | .error fault => do
    Act.log ⟨.error, logger, .ok "error pinging elasticsearch", some fault⟩
    pure false
  | .ok answer => do
    let version ← Act.ofExcept (versionOf answer.body)
    Act.log ⟨.info, logger, (Record.text version).map fun t => "connected to es version " ++ t, none⟩
    Act.ofExcept (informed version)
    pure true

end Sink

end TopicSink
