import TopicSink.Json.Display

namespace TopicSink

inductive Flaw where
  | missing
  | notText
  | surrogateText
  | notInteger
  | notNumeral
  | fractional
  | notFinite
  | tooLarge
  | notObject
  | notList
  | notMessage
deriving DecidableEq, Repr

namespace Flaw

def name : Flaw → Text
  | missing => "missing"
  | notText => "string_type"
  | surrogateText => "string_unicode"
  | notInteger => "int_type"
  | notNumeral => "int_parsing"
  | fractional => "int_from_float"
  | notFinite => "finite_number"
  | tooLarge => "int_parsing_size"
  | notObject => "dict_type"
  | notList => "list_type"
  | notMessage => "model_type"

def message : Flaw → Text
  | missing => "Field required"
  | notText => "Input should be a valid string"
  | surrogateText => "Input should be a valid string, unable to parse raw data as a unicode string"
  | notInteger => "Input should be a valid integer"
  | notNumeral => "Input should be a valid integer, unable to parse string as an integer"
  | fractional => "Input should be a valid integer, got a number with a fractional part"
  | notFinite => "Input should be a finite number"
  | tooLarge => "Unable to parse input string as an integer, exceeded maximum size"
  | notObject => "Input should be a valid dictionary"
  | notList => "Input should be a valid list"
  | notMessage => "Input should be a valid dictionary or instance of KafkaMessage"

end Flaw

/-- A flaw, the path to the value that has it, and the value. -/
structure Issue where
  path : List Text
  flaw : Flaw
  value : Json

namespace Issue

def takeBytes : (budget : Nat) → Text → Text
  | _, [] => []
  | budget, c :: t =>
    if c.utf8Size ≤ budget then c :: takeBytes (budget - c.utf8Size) t else []

/-- A text of more than 50 bytes with its middle left out. -/
def abridge (t : Text) : Text :=
  if t.utf8Size ≤ 50 then t
  else takeBytes 25 t ++ "..." ++ (takeBytes 24 t.reverse).reverse

/-- A text with three replacement characters for each surrogate. -/
def withoutSurrogates (t : Text) : Text :=
  t.flatMap fun c => if c.isSurrogate then List.replicate 3 CodePoint.replacement else [c]

/-- One step of a path; a name that holds a dot stands between backquotes. -/
def step (t : Text) : Text :=
  let name := withoutSurrogates t
  if name.contains (CodePoint.ofChar '.') then "\x60" ++ name ++ "\x60" else name

/-- Where an issue is, on a line of its own; an issue of the event as a whole has no such line. -/
def location (path : List Text) : Text :=
  if path.isEmpty then [] else Text.joinWith "." (path.map step) ++ "\n"

def lines (i : Issue) : Text :=
  location i.path ++ "  " ++ i.flaw.message ++ " [type=" ++ i.flaw.name ++ ", input_value="
    ++ abridge i.value.inspect ++ ", input_type=" ++ i.value.typeName ++ "]"

def report (issues : List Issue) : Text :=
  let noun : Text := if issues.length = 1 then " validation error" else " validation errors"
  Text.joinWith "\n"
    ((Text.ofNat issues.length ++ noun ++ " for InsertEvent") :: issues.map lines)

end Issue

end TopicSink
