import TopicSink.Event.Numeral
import TopicSink.Fault

namespace TopicSink

structure Message where
  topic : Text
  partition : Int
  offset : Int
  timestamp : Int
  value : Option Text

abbrev InsertEvent := List (Text × List Message)

/-- How events are checked: by what turns the members of an event into its messages, or fails. -/
abbrev Validator := Members → Except Fault InsertEvent

/-- A checked value, or the issues that it has. -/
abbrev Checked (α : Type) := Except (List Issue) α

namespace Checked

variable {α β : Type}

def both (x : Checked α) (y : Checked β) : Checked (α × β) :=
  match x, y with
  | .ok a, .ok b => .ok (a, b)
  | .ok _, .error ys => .error ys
  | .error xs, .ok _ => .error xs
  | .error xs, .error ys => .error (xs ++ ys)

def all : List (Checked α) → Checked (List α)
  | [] => .ok []
  | x :: xs => (both x (all xs)).map fun p => p.1 :: p.2

end Checked

namespace InsertEvent

def flawed {α : Type} (path : List Text) (flaw : Flaw) (value : Json) : Checked α :=
  .error [⟨path, flaw, value⟩]

/-- Whether an integer lies strictly between the bounds of 64 bits. -/
def fitsWord (i : Int) : Bool := -2 ^ 63 < i && i < 2 ^ 63

def integer (path : List Text) (value : Json) : Checked Int :=
  match value with
  | .int i => .ok i
  | .bool b => .ok (if b then 1 else 0)
  | .float x =>
    match x.truncate with
    | .error _ => flawed path .notFinite value
    | .ok i =>
      if !x.isWhole then flawed path .fractional value
      else if fitsWord i then .ok i
      else flawed path .tooLarge value
  | .str t =>
    if t.any CodePoint.isSurrogate then flawed path .surrogateText value
    else match EventNumeral.read t with
      | .ok i => .ok i
      | .error flaw => flawed path flaw value
  | _ => flawed path .notInteger value

def text (path : List Text) (value : Json) : Checked Text :=
  match value with
  | .str t => .ok t
  | _ => flawed path .notText value

def optionalText (path : List Text) (value : Json) : Checked (Option Text) :=
  match value with
  | .null => .ok none
  | _ => (text path value).map some

def required {α : Type} (check : List Text → Json → Checked α) (path : List Text) (members : Members)
    (name : Text) : Checked α :=
  match Json.lookup name members with
  | some v => check (path ++ [name]) v
  | none => flawed (path ++ [name]) .missing (.obj members)

def optional {α : Type} (check : List Text → Json → Checked α) (absent : α) (path : List Text)
    (members : Members) (name : Text) : Checked α :=
  match Json.lookup name members with
  | some v => check (path ++ [name]) v
  | none => .ok absent

/-- The first name of a member that holds a surrogate. -/
def surrogateName? (members : Members) : Option Text :=
  (members.map Prod.fst).find? fun name => name.any CodePoint.isSurrogate

def wellNamed {α : Type} (path : List Text) (members : Members) (check : Checked α) : Checked α :=
  match surrogateName? members with
  | some name => flawed path .surrogateText (.str name)
  | none => check

/-- One message. Members that it does not need are passed over, but for their names. -/
def message (path : List Text) (value : Json) : Checked Message :=
  match value with
  | .obj members => wellNamed path members <|
    let topic := required text path members "topic"
    let partition := required integer path members "partition"
    let offset := required integer path members "offset"
    let timestamp := optional integer 0 path members "timestamp"
    let payload := optional optionalText none path members "value"
    (topic.both (partition.both (offset.both (timestamp.both payload)))).map
      fun (topic, partition, offset, timestamp, payload) =>
        ⟨topic, partition, offset, timestamp, payload⟩
  | _ => flawed path .notMessage value

def messages (path : List Text) (value : Json) : Checked (List Message) :=
  match value with
  | .arr vs => Checked.all (vs.zipIdx.map fun (v, i) => message (path ++ [Text.ofNat i]) v)
  | _ => flawed path .notList value

def records (event : Members) : Checked InsertEvent :=
  match Json.lookup "records" event with
  | none => .ok []
  | some (.obj keys) =>
    Checked.all (keys.map fun (key, v) => (messages ["records", key] v).map fun ms => (key, ms))
  | some v => flawed ["records"] .notObject v

def validate (event : Members) : Checked InsertEvent := wellNamed [] event (records event)

def refusal (issues : List Issue) : Fault := .raised .validation (Issue.report issues)

def validator : Validator := fun event => (validate event).mapError refusal

def atMost (a b : Text) : Bool := !decide (b < a)

/-- All messages of an event, the keys in ascending order and the messages under a key as they were
delivered. -/
def inOrder (event : InsertEvent) : List Message :=
  (event.mergeSort fun a b => atMost a.1 b.1).flatMap Prod.snd

end InsertEvent

def Message.members (m : Message) : Members :=
  [("topic", .str m.topic), ("partition", .int m.partition), ("offset", .int m.offset),
    ("timestamp", .int m.timestamp), ("value", (m.value.map Json.str).getD .null)]

end TopicSink
