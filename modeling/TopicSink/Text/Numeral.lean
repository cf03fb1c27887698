import TopicSink.Text.Blank
import TopicSink.Text.Digit

namespace TopicSink

namespace Numeral

/-- The most digits that a numeral may have. -/
def limit : Nat := 4300

inductive Fault where
  | malformed
  | tooLong (digits : Nat)
deriving DecidableEq, Repr

def fits (i : Int) : Bool := i.natAbs < Nat.pow 10 limit

def splitSign (t : Text) : Bool × Text :=
  match t with
  | [] => (false, [])
  | c :: rest =>
    if c = '-' then (true, rest) else if c = '+' then (false, rest) else (false, t)

def wellGrouped (t : Text) : Bool := (Text.splitOn '_' t).all fun piece => !piece.isEmpty

def splitRun (t : Text) : Text × Text :=
  let inRun := fun c : CodePoint => c.isDigit || c = '_'
  (t.takeWhile inRun, t.dropWhile inRun)

/-- Reads an integer numeral. A run of too many digits is refused before what follows it is seen. -/
def read (t : Text) : Except Fault Int :=
  let (negative, body) := splitSign ((t.trim CodePoint.isBlank).map CodePoint.toAsciiDigit)
  let (run, rest) := splitRun body
  let digits := run.filter CodePoint.isDigit
  if !wellGrouped run then .error .malformed
  else if limit < digits.length then .error (.tooLong digits.length)
  else if !rest.isEmpty then .error .malformed
  else .ok (if negative then -(Text.digits digits : Int) else Text.digits digits)

end Numeral

end TopicSink
