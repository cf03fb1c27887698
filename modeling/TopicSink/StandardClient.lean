import TopicSink.Act
import TopicSink.Address
import TopicSink.Fault

/-!
The usual client of a cluster: why it takes no address or user, and what its faults say of
themselves. Nothing else depends on these; a connection works with whatever its factory does, and
with faults of any kind and message.
-/

namespace TopicSink

namespace StandardClient

def addressText (address : Text) : Address.Fault → Text
  | .unparsable => "Could not parse URL " ++ address.quoted
  | .incomplete =>
    "URL must include a 'scheme', 'host', and 'port' component (ie 'https://localhost:9200')"
  | .invalidHost host => "Failed to parse: " ++ host.quoted ++ " is not a valid host"
  | .controlInHost host escape =>
    "Failed to parse: Host " ++ host.quoted ++ " contains invalid percent-encoded control character "
      ++ escape.quoted
  | .foreignHost => "Failed to parse: Unable to parse URL without the 'idna' module"

def beyondAsciiText (t : Text) : Text :=
  let position := (t.takeWhile CodePoint.isAscii).length
  let run := (t.dropWhile CodePoint.isAscii).takeWhile fun c => !c.isAscii
  let subject : Text := match run with
    | [c] => "character '" ++ Text.numbered c ++ "' in position " ++ Text.ofNat position
    | run => "characters in position " ++ Text.ofNat position ++ "-"
        ++ Text.ofNat (position + run.length - 1)
  "'ascii' codec can't encode " ++ subject ++ ": ordinal not in range(128)"

def addressFault (address : Text) (why : Address.Fault) : Fault :=
  let kind := match why with
    | .unparsable | .incomplete => Kind.value
    | _ => .location
  .raised kind (addressText address why)

/-- Why no client is made for a host, if none is. The user is named to the cluster in ASCII. -/
def factory (host : Text) (options : ClientOptions) : Option Fault :=
  match Address.parse host with
  | .error why => some (addressFault host why)
  | .ok _ =>
    options.basicAuth.bind fun (user, password) =>
      let sent : Text := user ++ ":" ++ password
      if sent.isAscii then none else some (.raised .unicodeEncode (beyondAsciiText sent))

def transportText (kind : Kind) (message : Text) : Text :=
  match kind with
  | .connection => "Connection error"
  | .tls => "TLS error"
  | .timeout => "Connection timed out"
  | _ => message

def transportLead (kind : Kind) : Text :=
  match kind with
  | .connection => "Connection error caused by: "
  | .tls => "TLS error caused by: "
  | .timeout => "Connection timeout caused by: "
  | _ => []

def transport (kind : Kind) (message : Text) (earlier : Option Fault) : Fault :=
  match earlier with
  | none => .raised kind (transportText kind message)
  | some cause =>
    if (transportLead kind).isEmpty then .raised kind message
    else match cause.told with
      | .error why => .untellable kind why
      | .ok told => .raised kind (transportLead kind ++ cause.kind.name ++ "(" ++ told ++ ")")

def noParts (v : Json) : Fault :=
  .raised .type ("'" ++ v.typeName ++ "' object is not subscriptable")

def rootCause (error : Members) : Except Fault (Option Json) :=
  match Json.lookup "root_cause" error with
  | none | some (.obj _) => .ok none
  | some (.arr causes) => .ok causes.head?
  | some (.str t) => .ok (t.head?.map fun c => .str [c])
  | some v => .error (noParts v)

def rootMembers : Json → Except Fault Members
  | .obj members => .ok members
  | .str _ => .error (.raised .type "string indices must be integers, not 'str'")
  | .arr _ => .error (.raised .type "list indices must be integers or slices, not str")
  | v => .error (noParts v)

def earlierReason (error : Members) : Except Fault (Option Json) :=
  match Json.lookup "caused_by" error with
  | none => .ok none
  | some (.obj members) => .ok (Json.lookup "reason" members)
  | some v => .error (.noMembers v)

def textsOf (parts : List Json) : Except Fault (List Text) :=
  parts.zipIdx.mapM fun
    | (.str t, _) => .ok t
    | (v, i) => .error (.raised .type ("sequence item " ++ Text.ofNat i
        ++ ": expected str instance, " ++ v.typeName ++ " found"))

/-- What a described error says: the reason of its first root cause, what that concerns, and the
reason of an earlier error. It says nothing without a reason of a root cause. -/
def describedCause (error : Members) : Except Fault Text := do
  match ← rootCause error with
  | none => pure []
  | some root =>
    let root ← rootMembers root
    match Json.lookup "reason" root with
    | none => pure []
    | some reason =>
      let earlier ← earlierReason error
      let further := [Json.lookup "resource.id" root, Json.lookup "resource.type" root, earlier]
      let texts ← textsOf (.str reason.inspect :: further.filterMap Json.nonempty?)
      pure (Text.joinWith ", " texts)

/-- The reason that the body of a refusal gives. An error that is not described by members is shown
as it is. A description that is not made of the parts it should have cannot be told. -/
def refusalCause (body : Json) : Except Fault Text :=
  match Json.member? "error" body with
  | none => .ok []
  | some (.obj error) => describedCause error
  | some error => .ok error.inspect

def refusal (kind : Kind) (status : Json) (message : Text) (body : Json) : Fault :=
  if kind = .unsupportedProduct then .raised kind message
  else match refusalCause body with
    | .error why => .untellable kind why
    | .ok reason =>
      let parts := [status.display, message.quoted, reason]
      .raised kind (kind.name ++ "(" ++ Text.joinWith ", " (parts.filter fun p => !p.isEmpty) ++ ")")

end StandardClient

end TopicSink
