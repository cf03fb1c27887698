import TopicSink.Text.Numeral
import TopicSink.Binary64.Basic

namespace TopicSink

/-- A JSON value. Numbers written without point and exponent are integers of any size. -/
inductive Json where
  | null
  | bool (b : Bool)
  | int (i : Int)
  | float (x : Binary64)
  | str (t : Text)
  | arr (elements : List Json)
  | obj (members : List (Text × Json))
deriving Inhabited

abbrev Members := List (Text × Json)

namespace Json

instance : Coe Text Json := ⟨str⟩

def lookup (name : Text) (members : Members) : Option Json :=
  (members.find? fun m => m.1 = name).map Prod.snd

/-- A member written: a present name keeps its place, a new one goes to the end. -/
def insert (name : Text) (value : Json) : Members → Members
  | [] => [(name, value)]
  | m :: members => if m.1 = name then (name, value) :: members else m :: insert name value members

def member? (name : Text) : Json → Option Json
  | obj members => lookup name members
  | _ => none

/-- Whether a value counts as absent where a default takes its place: null, false, zero, and the
empty text, array and object. -/
def isEmpty : Json → Bool
  | null => true
  | bool b => !b
  | int i => i = 0
  | float x => x.isZero
  | str t => List.isEmpty t
  | arr elements => elements.isEmpty
  | obj members => members.isEmpty

def nonempty? : Option Json → Option Json
  | some v => if v.isEmpty then none else some v
  | none => none

mutual

/-- Whether every integer in a value has a numeral within the limit. -/
def writable : Json → Bool
  | int i => Numeral.fits i
  | arr elements => writableAll elements
  | obj members => writableMembers members
  | _ => true

def writableAll : List Json → Bool
  | [] => true
  | v :: rest => writable v && writableAll rest

def writableMembers : Members → Bool
  | [] => true
  | m :: rest => writable m.2 && writableMembers rest

end

mutual

/-- How many arrays and objects of a value stand inside each other. One that holds nothing counts as
`bare`, since not every writer goes into it. -/
def nesting (bare : Nat) : Json → Nat
  | arr [] | obj [] => bare
  | arr (v :: rest) => max (nesting bare v) (nestingAll bare rest) + 1
  | obj (m :: rest) => max (nesting bare m.2) (nestingMembers bare rest) + 1
  | _ => 0

def nestingAll (bare : Nat) : List Json → Nat
  | [] => 0
  | v :: rest => max (nesting bare v) (nestingAll bare rest)

def nestingMembers (bare : Nat) : Members → Nat
  | [] => 0
  | m :: rest => max (nesting bare m.2) (nestingMembers bare rest)

end

inductive Hindrance where
  | numeralTooLong
  | tooDeep
deriving DecidableEq, Repr

mutual

/-- What a writer first meets in a value that it cannot write, with room for so many arrays and
objects inside each other. -/
def hindrance (bare : Nat) : (room : Nat) → Json → Option Hindrance
  | _, int i => if Numeral.fits i then none else some .numeralTooLong
  | room, arr [] | room, obj [] => if bare ≤ room then none else some .tooDeep
  | 0, arr (_ :: _) | 0, obj (_ :: _) => some .tooDeep
  | room + 1, arr (v :: rest) => (hindrance bare room v).or (hindranceAll bare room rest)
  | room + 1, obj (m :: rest) => (hindrance bare room m.2).or (hindranceMembers bare room rest)
  | _, _ => none

def hindranceAll (bare : Nat) : (room : Nat) → List Json → Option Hindrance
  | _, [] => none
  | room, v :: rest => (hindrance bare room v).or (hindranceAll bare room rest)

def hindranceMembers (bare : Nat) : (room : Nat) → Members → Option Hindrance
  | _, [] => none
  | room, m :: rest => (hindrance bare room m.2).or (hindranceMembers bare room rest)

end

end Json

end TopicSink
