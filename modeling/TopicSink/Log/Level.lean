import TopicSink.Fault
import TopicSink.Text.Case

namespace TopicSink

/-- The rank of an entry among the levels. A truth value stands for one or zero. -/
inductive Rank where
  | whole (i : Int)
  | real (x : Binary64)
  | truth (b : Bool)
deriving DecidableEq, Repr

namespace Rank

def ofJson : Json → Except Fault Rank
  | .int i => .ok (.whole i)
  | .float x => .ok (.real x)
  | .bool b => .ok (.truth b)
  | _ => .error .wrongType

def toJson : Rank → Json
  | whole i => .int i
  | real x => .float x
  | truth b => .bool b

/-- The number of a rank in one form for all ranks that are equal: an integer where it is whole. -/
def number : Rank → Rank
  | whole i => whole i
  | truth b => whole (if b then 1 else 0)
  | real x =>
    match x.floor with
    | .ok i => if x.isWhole then whole i else real x
    | .error _ => real x

/-- Whether a rank is at a level or above it. An integer is at most a number where it is at most the
greatest integer that is not above that number. What is no number reaches no level. -/
def reaches (level : Int) (r : Rank) : Bool :=
  match r.number with
  | real (.infinite negative) => !negative
  | real x => x.floor.toOption.any fun i => level ≤ i
  | whole i => level ≤ i
  | truth _ => false

def isPositive (r : Rank) : Bool := r.reaches 0 && r.number != whole 0

end Rank

namespace Level

def standard : List (String × Int) :=
  [("CRITICAL", 50), ("FATAL", 50), ("ERROR", 40), ("WARNING", 30), ("WARN", 30), ("INFO", 20),
   ("DEBUG", 10), ("NOTSET", 0)]

def usual : Int := 20

def standard? (name : Text) : Option Int :=
  (standard.find? fun e => Text.ofString e.1 = name).map Prod.snd

/-- The level that a setting names, in either case; the usual one where it names none. The names of
the basic pattern of lines and of the table of pattern styles are taken, and name no level. -/
def ofSetting (t : Text) : Except Fault Int :=
  let name := t.upper
  if name = "BASIC_FORMAT" then .error (.unknownLevel "%(levelname)s:%(name)s:%(message)s")
  else if name = "_STYLES" then .error .wrongType
  else .ok ((standard? name).getD usual)

/-- The name of a rank: the first name of the standard level at which it is, or its number. -/
def name (r : Rank) : Text :=
  match standard.find? fun e => Rank.whole e.2 = r.number with
  | some e => Text.ofString e.1
  | none => "Level " ++ r.toJson.display

end Level

end TopicSink
