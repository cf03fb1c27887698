import TopicSink.Fault
import TopicSink.Json.Printer

namespace TopicSink

/-- One message of a topic: where it stands, when it was written, and its fields in order. -/
structure Record where
  topic : Text
  partition : Json
  offset : Json
  time : Instant
  fields : Members

/-- How many arrays and objects may stand inside each other where the interpreter's stack leaves
room for them: where a payload is read, where a column is written as JSON, inside of a value that is
shown, and inside of one that a line of information shows, unless the level of the log keeps these
lines back. -/
class Stack where
  reading : Nat
  writing : Nat
  telling : Nat
  logging : Option Nat

/-- A stack of a thousand calls, less the ones that lead through the handler of events to where a
value is taken apart. -/
@[reducible]
def Stack.usual : Stack := ⟨986, 984, 988, some 981⟩

namespace Record

section

variable [Stack]

/-- The text of a value, unless an integer in it has too many digits or it is nested too deeply. An
array or an object that holds nothing is shown without looking inside. -/
def text (v : Json) : Except Fault Text :=
  match v.hindrance 0 Stack.telling with
  | none => .ok v.display
  | some .numeralTooLong => .error .numeralTooLong
  | some .tooDeep => .error .tooDeepToShow

/-- The compact JSON text of a value, with the same exceptions. -/
def compactText (v : Json) : Except Fault Text :=
  match v.hindrance 1 Stack.writing with
  | none => .ok v.compact
  | some .numeralTooLong => .error .numeralTooLong
  | some .tooDeep => .error .tooDeepToWrite

end

/-- A value as an integer: numerals are read and fractions are dropped. -/
def integer : Json → Except Fault Int
  | .int i => .ok i
  | .bool b => .ok (if b then 1 else 0)
  | .float x =>
    match x.truncate with
    | .ok i => .ok i
    | .error why => .error (.noInteger why)
  | .str t =>
    match Numeral.read t with
    | .ok i => .ok i
    | .error .malformed => .error (.badInteger t)
    | .error (.tooLong digits) => .error (.numeralTooLongToRead digits)
  | _ => .error .wrongType

variable [Stack]

def id (r : Record) : Except Fault Text := do
  let partition ← text r.partition
  let offset ← text r.offset
  pure (r.topic ++ ":" ++ partition ++ ":" ++ offset)

def day (r : Record) : Text := r.time.date.render

/-- A field as the text of a name: a string is that text, arrays and objects are written as JSON. -/
def column (r : Record) (name : Text) : Except Fault Text :=
  match Json.lookup name r.fields with
  | none => .error (.fieldNotFound name)
  | some (.arr elements) => compactText (.arr elements)
  | some (.obj members) => compactText (.obj members)
  | some v => text v

def without (r : Record) (hidden : List Text) : Members :=
  r.fields.filter fun m => !hidden.contains m.1

/-- The names that a value lists: the strings of an array, the names of an object's members, or the
code points of a string. Arrays and objects are no names. -/
def namesOf : Json → Except Fault (List Text)
  | .arr elements =>
    if elements.any fun | .arr _ => true | .obj _ => true | _ => false then .error .wrongType
    else .ok (elements.filterMap fun | .str t => some t | _ => none)
  | .obj members => .ok (members.map Prod.fst)
  | .str t => .ok (t.map fun c => [c])
  | _ => .error .wrongType

end Record

end TopicSink
