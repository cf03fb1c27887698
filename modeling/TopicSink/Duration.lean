import TopicSink.Fault

namespace TopicSink

namespace Duration

inductive Scale where
  | milliseconds | seconds | minutes | hours
deriving DecidableEq, Repr

def Scale.factor : Scale → Binary64
  | .milliseconds => .ofDecimal false 1 (-3)
  | .seconds => .ofInt 1
  | .minutes => .ofInt 60
  | .hours => .ofInt 3600

def scale? (t : Text) : Option Scale :=
  if t = [] then some .seconds
  else if t = "ms" then some .milliseconds
  else if t = "s" then some .seconds
  else if t = "m" then some .minutes
  else if t = "h" then some .hours
  else none

/-- A written duration: the digits before and after the point, and the unit. -/
structure Written where
  whole : Text
  fraction : Text
  scale : Scale
deriving DecidableEq, Repr

def splitFraction (t : Text) : Text × Text :=
  match t with
  | c :: rest =>
    let digits := rest.takeWhile CodePoint.isDecimal
    if c = '.' ∧ digits ≠ [] then (digits, rest.dropWhile CodePoint.isDecimal) else ([], t)
  | [] => ([], t)

def read? (t : Text) : Option Written :=
  let body := t.trim CodePoint.isSpace
  let whole := body.takeWhile CodePoint.isDecimal
  let (fraction, rest) := splitFraction (body.dropWhile CodePoint.isDecimal)
  if whole = [] then none
  else (scale? (rest.dropWhile CodePoint.isSpace)).map fun scale => ⟨whole, fraction, scale⟩

def Written.number (w : Written) : Binary64 :=
  let digits := (w.whole ++ w.fraction).map CodePoint.toAsciiDigit
  .ofDecimal false (Text.digits digits) (-(w.fraction.length : Int))

def Written.seconds (w : Written) : Binary64 := w.number.mul w.scale.factor

def ofInt (i : Int) : Except Fault Binary64 :=
  match Binary64.ofInt i with
  | .infinite _ => .error .beyondBinary64
  | x => .ok x

/-- A setting as a number of seconds. An absent or empty one gives the default as it is. -/
def parse (value fallback : Json) : Except Fault Json :=
  match value with
  | .null => .ok fallback
  | .bool b => .ok (.float (.ofInt (if b then 1 else 0)))
  | .int i => (ofInt i).map .float
  | .float x => .ok (.float x)
  | .str t =>
    if t = [] then .ok fallback
    else match read? t with
      | some w => .ok (.float w.seconds)
      | none => .error (.badDuration t)
  | .arr _ | .obj _ => .error .wrongType

end Duration

end TopicSink
