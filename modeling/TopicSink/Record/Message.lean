import TopicSink.Record.Basic

namespace TopicSink

namespace Record

variable [Stack]

/-- Topic, partition and offset of a message as they stand, for the faults that name it. -/
def source (message : Members) : Except Fault Text := do
  let part (name : Text) : Except Fault Text := text ((Json.lookup name message).getD .null)
  let topic ← part "topic"
  let partition ← part "partition"
  let offset ← part "offset"
  pure (topic ++ ":" ++ partition ++ ":" ++ offset)

def blame {α : Type} (message : Members) (fault : Text → Fault) : Except Fault α :=
  match source message with
  | .ok s => .error (fault s)
  | .error e => .error e

def payloadLimits : Json.Limits := ⟨some Numeral.limit, some Stack.reading⟩

/-- The JSON document of a byte sequence; no bytes stand for an empty object. -/
def parseBytes (bytes : Bytes) : Except Fault Json :=
  if bytes.isEmpty then .ok (.obj [])
  else match Encoding.decodeDocument bytes with
    | .error why => .error (.badEncoding why)
    | .ok document =>
      match Json.read payloadLimits document with
      | .error why => .error (.badJson why)
      | .ok v => .ok v

def parsePayload (t : Text) : Except Fault Json :=
  match Base64.decode t with
  | .error why => .error (.badBase64 why)
  | .ok bytes => parseBytes bytes

/-- The fields of a message; an absent or empty payload has none. One that is nested too deeply is a
fault that tells nothing of the message. -/
def payload (message : Members) : Except Fault Members :=
  let document : Except Fault Json :=
    match Json.nonempty? (Json.lookup "value" message) with
    | none => .ok (.obj [])
    | some (.str t) =>
      match parsePayload t with
      | .ok v => .ok v
      | .error cause =>
        if cause.kind = .recursion then .error cause
        else blame message fun s => .unreadablePayload s cause
    | some _ => .error .wrongType
  match document with
  | .ok (.obj members) => .ok members
  | .ok _ => blame message .payloadNotAnObject
  | .error e => .error e

/-- The instant of a message; an absent or empty timestamp is zero. -/
def instant (message : Members) : Except Fault Instant :=
  let given := (Json.nonempty? (Json.lookup "timestamp" message)).getD (.int 0)
  match integer given with
  | .error e => .error e
  | .ok millis =>
    match Instant.ofMillis millis with
    | .ok t => .ok t
    | .error why =>
      if Numeral.fits millis then blame message fun s => .badTimestamp s millis (.badInstant why)
      else .error .numeralTooLong

def required (message : Members) (name : Text) : Except Fault Json :=
  match Json.lookup name message with
  | some v => .ok v
  | none => .error (.missingMember name)

def ofMessage (message : Members) : Except Fault Record := do
  let fields ← payload message
  let time ← instant message
  let topic ← required message "topic"
  let topic ← text topic
  let partition ← required message "partition"
  let partition ← integer partition
  let offset ← required message "offset"
  let offset ← integer offset
  pure ⟨topic, .int partition, .int offset, time, fields⟩

def ofJson : Json → Except Fault Record
  | .obj members => ofMessage members
  | _ => .error .notAnObject

end Record

end TopicSink
