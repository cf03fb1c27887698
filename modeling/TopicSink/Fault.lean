import TopicSink.Bytes.Base64
import TopicSink.Bytes.Encoding
import TopicSink.Calendar
import TopicSink.Json.Display
import TopicSink.Json.Reader

/-!
Faults. A fault says why an operation did not end; its kind is what handlers choose by, and its
message is what callers and logs are told. Faults that a cluster, a store or another collaborator
reports are data like the library's own.
-/

namespace TopicSink

inductive Kind where
  | type | member | value | key | overflow | system | runtime | recursion
  | unicodeDecode | unicodeEncode | jsonDecode | base64 | location
  | storeCore | storeClient
  | transport | serialization | connection | tls | timeout
  | api | notFound | badRequest | conflict | unsupportedProduct
  | validation
  | sink | fieldNotFound | recordDecode | datastoreConnection | write | partialWrite
deriving DecidableEq, Repr

namespace Kind

def name : Kind → Text
  | type => "TypeError"
  | member => "AttributeError"
  | value => "ValueError"
  | key => "KeyError"
  | overflow => "OverflowError"
  | system => "OSError"
  | runtime => "RuntimeError"
  | recursion => "RecursionError"
  | unicodeDecode => "UnicodeDecodeError"
  | unicodeEncode => "UnicodeEncodeError"
  | jsonDecode => "JSONDecodeError"
  | base64 => "Error"
  | location => "LocationParseError"
  | storeCore => "BotoCoreError"
  | storeClient => "ClientError"
  | transport => "TransportError"
  | serialization => "SerializationError"
  | connection => "ConnectionError"
  | tls => "TlsError"
  | timeout => "ConnectionTimeout"
  | api => "ApiError"
  | notFound => "NotFoundError"
  | badRequest => "BadRequestError"
  | conflict => "ConflictError"
  | unsupportedProduct => "UnsupportedProductError"
  | validation => "ValidationError"
  | sink => "SinkError"
  | fieldNotFound => "FieldNotFound"
  | recordDecode => "RecordDecodeError"
  | datastoreConnection => "DatastoreConnectionError"
  | write => "WriteError"
  | partialWrite => "PartialWriteError"

def package : Kind → Text
  | type | member | value | key | overflow | system | runtime | recursion => []
  | unicodeDecode | unicodeEncode => []
  | jsonDecode => "json.decoder."
  | base64 => "binascii."
  | location => "urllib3.exceptions."
  | storeCore | storeClient => "botocore.exceptions."
  | transport | serialization | connection | tls | timeout => "elastic_transport."
  | api | notFound | badRequest | conflict | unsupportedProduct => "elasticsearch."
  | validation => "pydantic_core._pydantic_core."
  | sink | fieldNotFound | recordDecode | datastoreConnection | write | partialWrite =>
    "record_sink.errors."

def all : List Kind :=
  [type, member, value, key, overflow, system, runtime, recursion, unicodeDecode, unicodeEncode,
   jsonDecode, base64, location, storeCore, storeClient, transport, serialization, connection, tls,
   timeout, api, notFound, badRequest, conflict, unsupportedProduct, validation, sink,
   fieldNotFound, recordDecode, datastoreConnection, write, partialWrite]

def ofName? (t : Text) : Option Kind := all.find? fun k => k.name = t

def isTransport : Kind → Bool
  | transport | serialization | connection | tls | timeout => true
  | _ => false

def isApi : Kind → Bool
  | api | notFound | badRequest | conflict | unsupportedProduct => true
  | _ => false

def isSink : Kind → Bool
  | sink | fieldNotFound | recordDecode | datastoreConnection | write | partialWrite => true
  | _ => false

def isWrite : Kind → Bool
  | write | partialWrite => true
  | _ => false

end Kind

inductive Fault where
  /-- a value of a type that the operation does not take -/
  | wrongType
  /-- a member looked up in a value that is no object -/
  | notAnObject
  | badDuration (text : Text)
  | badInteger (text : Text)
  | numeralTooLong
  | numeralTooLongToRead (digits : Nat)
  /-- a value that is nested too deeply to be written as JSON -/
  | tooDeepToWrite
  /-- a value that is nested too deeply to be shown -/
  | tooDeepToShow
  | noInteger (why : Binary64.NotFinite)
  | beyondBinary64
  | badBase64 (why : Base64.Fault)
  | badEncoding (why : Encoding.Fault)
  | badJson (why : Json.Fault)
  | badInstant (why : Instant.Fault)
  | missingMember (name : Text)
  | unknownLevel (text : Text)
  | fieldNotFound (field : Text)
  | unreadablePayload (source : Text) (cause : Fault)
  | payloadNotAnObject (source : Text)
  | badTimestamp (source : Text) (millis : Int) (cause : Fault)
  | noClient (host : Text) (cause : Fault)
  | bulkFailed (cause : Fault)
  | rejected (failures : List Json)
  | secretRefused (code : Text)
  | secretStoreFailed
  /-- a fault of a collaborator, and what it says of itself -/
  | raised (kind : Kind) (message : Text)
  /-- a fault of a collaborator that fails to say what it is -/
  | untellable (kind : Kind) (why : Fault)
deriving Inhabited

namespace Fault

def kind : Fault → Kind
  | wrongType => .type
  | notAnObject => .member
  | badDuration _ | badInteger _ | numeralTooLong | numeralTooLongToRead _ => .value
  | tooDeepToWrite | tooDeepToShow => .recursion
  | noInteger .nan => .value
  | noInteger .infinite => .overflow
  | beyondBinary64 => .overflow
  | badBase64 .notAscii => .value
  | badBase64 _ => .base64
  | badEncoding _ => .unicodeDecode
  | badJson (.malformed ..) => .jsonDecode
  | badJson (.numeralTooLong _) => .value
  | badJson (.tooDeep _) => .recursion
  | badInstant .beyondBinary64 | badInstant .beyondClock => .overflow
  | badInstant .beyondClockYear => .system
  | badInstant .wrongPartCount => .type
  | badInstant _ => .value
  | missingMember _ => .key
  | unknownLevel _ => .value
  | fieldNotFound _ => .fieldNotFound
  | unreadablePayload .. | payloadNotAnObject _ | badTimestamp .. => .recordDecode
  | noClient .. => .datastoreConnection
  | bulkFailed _ => .write
  | rejected _ => .partialWrite
  | secretRefused _ => .storeClient
  | secretStoreFailed => .storeCore
  | raised k _ | untellable k _ => k

def cause : Fault → Option Fault
  | unreadablePayload _ c | badTimestamp _ _ c | noClient _ c | bulkFailed c => some c
  | _ => none

def failures : Fault → Option (List Json)
  | rejected fs => some fs
  | _ => none

def field : Fault → Option Text
  | fieldNotFound f => some f
  | _ => none

def numeralTooLongText : Text := "Exceeds the limit (4300 digits) for integer string conversion"

def limitHint : Text := "use sys.set_int_max_str_digits() to increase the limit"

def numeralTooLongToReadText (digits : Nat) : Text :=
  numeralTooLongText ++ ": value has " ++ Text.ofNat digits ++ " digits; " ++ limitHint

def tooDeepText (task : Text) : Text := "maximum recursion depth exceeded while " ++ task

def noMembers (v : Json) : Fault :=
  raised .member ("'" ++ v.typeName ++ "' object has no attribute 'get'")

def shown (name : Text) (failures : List Json) : Text :=
  ((failures.head?.bind (Json.member? name)).getD .null).display

def rejectedText (failures : List Json) : Text :=
  let first := "failed to index document " ++ shown "id" failures ++ " into "
    ++ shown "index" failures ++ ": " ++ shown "error" failures
  if 1 < failures.length then
    first ++ " (and " ++ Text.ofNat (failures.length - 1) ++ " more failed documents)"
  else first

def instantText : Instant.Fault → Text
  | .beyondBinary64 => "integer division result too large for a float"
  | .beyondClock => "timestamp out of range for platform time_t"
  | .beyondClockYear => "[Errno 75] Value too large for defined data type"
  | .yearOutOfRange y => "year " ++ Text.ofInt (y.bmod (2 ^ 32)) ++ " is out of range"
  | .monthOutOfRange => "month must be in 1..12"
  | .dayOutOfRange => "day is out of range for month"
  | .timeOutOfRange part greatest => part ++ " must be in 0.." ++ Text.ofNat greatest
  | .wrongPartCount => []

/-- What is said of a fault. Nothing is said of one that fails to say what it is. -/
def message : Fault → Text
  | wrongType | notAnObject => []
  | badDuration t => "invalid duration: " ++ t.quoted
  | badInteger t => "invalid literal for int() with base 10: " ++ t.quoted.take 200
  | numeralTooLong => numeralTooLongText ++ "; " ++ limitHint
  | numeralTooLongToRead digits => numeralTooLongToReadText digits
  | tooDeepToWrite => tooDeepText "encoding a JSON object"
  | tooDeepToShow => tooDeepText "getting the repr of an object"
  | noInteger .nan => "cannot convert float NaN to integer"
  | noInteger .infinite => "cannot convert float infinity to integer"
  | beyondBinary64 => "int too large to convert to float"
  | badBase64 why => why.message
  | badEncoding why => why.message
  | badJson (.malformed expected line column position) =>
    Json.malformedMessage expected line column position
  | badJson (.numeralTooLong digits) => numeralTooLongToReadText digits
  | badJson (.tooDeep container) => tooDeepText (Json.tooDeepTask container)
  | badInstant why => instantText why
  | missingMember name => name.quoted
  | unknownLevel t => "Unknown level: " ++ t.quoted
  | fieldNotFound f => "field " ++ f ++ " not found in record"
  | unreadablePayload source cause => "cannot decode message " ++ source ++ ": " ++ cause.message
  | payloadNotAnObject source => "message " ++ source ++ " is not a JSON object"
  | badTimestamp source millis cause =>
    "message " ++ source ++ " has invalid timestamp " ++ Text.ofInt millis ++ ": " ++ cause.message
  | noClient host cause =>
    "could not init elasticsearch client for " ++ host ++ ": " ++ cause.message
  | bulkFailed cause => "bulk request failed: " ++ cause.message
  | rejected failures => rejectedText failures
  | secretRefused code =>
    "An error occurred (" ++ code ++ ") when calling the GetSecretValue operation: Unknown"
  | secretStoreFailed => "An unspecified error occurred"
  | raised kind text => if kind = .key then text.quoted else text
  | untellable .. => []

/-- Why a fault fails to say what it is, if it does. -/
def untold : Fault → Option Fault
  | untellable _ why => some why
  | _ => none

/-- The message of a fault, or the fault of asking for it. -/
def told (f : Fault) : Except Fault Text :=
  match f.untold with
  | some why => .error why
  | none => .ok f.message

def titled (f : Fault) : Text := f.kind.name ++ ": " ++ f.message

/-- The last line of a fault's trace: its kind in full, alone when it has no message. -/
def traceLine (f : Fault) : Text :=
  let kind := f.kind.package ++ f.kind.name
  if f.untold.isSome then kind ++ ": <exception str() failed>"
  else if f.message.isEmpty then kind
  else kind ++ ": " ++ f.message

end Fault

end TopicSink
