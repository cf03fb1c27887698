import TopicSink.Log.Form

namespace TopicSink

namespace Template

inductive Extent where
  | number (n : Nat)
  | argument
deriving DecidableEq, Repr

structure Place where
  key : Option Text
  flags : Flags
  width : Option Extent
  precision : Option Extent
  form : Form
deriving DecidableEq, Repr

inductive Piece where
  | literal (c : CodePoint)
  | place (p : Place)
deriving DecidableEq, Repr

/-- The key inside `unclosed` further parentheses, up to where the first one is closed, and the
rest. -/
def keyWithin : (unclosed : Nat) → Text → Option (Text × Text)
  | _, [] => none
  | unclosed, c :: t =>
    if c = ')' then
      if unclosed = 0 then some ([], t)
      else (keyWithin (unclosed - 1) t).map fun p => (c :: p.1, p.2)
    else if c = '(' then (keyWithin (unclosed + 1) t).map fun p => (c :: p.1, p.2)
    else (keyWithin unclosed t).map fun p => (c :: p.1, p.2)

/-- The key between parentheses, if there is one, and the rest; `none` where it is not closed. -/
def key? (t : Text) : Option (Option Text × Text) :=
  match t with
  | [] => some (none, t)
  | c :: rest =>
    if c = '(' then (keyWithin 0 rest).map fun p => (some p.1, p.2) else some (none, t)

def flags (f : Flags) : Text → Flags × Text
  | [] => (f, [])
  | c :: t =>
    match f.with? c with
    | some f => flags f t
    | none => (f, c :: t)

def extent (t : Text) : Option Extent × Text :=
  match t with
  | [] => (none, t)
  | c :: rest =>
    if c = '*' then (some .argument, rest)
    else if c.isDigit then
      (some (.number (Text.digits (t.takeWhile CodePoint.isDigit))), t.dropWhile CodePoint.isDigit)
    else (none, t)

def precision (t : Text) : Option Extent × Text :=
  match t with
  | [] => (none, t)
  | c :: rest =>
    if c = '.' then
      let (given, rest) := extent rest
      (some (given.getD (.number 0)), rest)
    else (none, t)

def skipSize (t : Text) : Text :=
  match t with
  | [] => t
  | c :: rest => if c = 'h' ∨ c = 'l' ∨ c = 'L' then rest else t

def place? (t : Text) : Option (Place × Text) := do
  let (key, t) ← key? t
  let (flags, t) := flags .none t
  let (width, t) := extent t
  let (precision, t) := precision t
  match skipSize t with
  | [] => none
  | c :: t =>
    (Form.ofLetter? c).map fun form => (⟨key, flags, width, precision, form⟩, t)

def piece? (c : CodePoint) (t : Text) : Option (Piece × Text) :=
  if c != '%' then some (.literal c, t)
  else if t.head? = some ('%' : Char) then some (.literal '%', t.drop 1)
  else (place? t).map fun p => (.place p.1, p.2)

/-- Reads the pieces of a template. Each takes a code point at least, so the length is fuel enough.
-/
def pieces : (fuel : Nat) → Text → Option (List Piece)
  | _, [] => some []
  | 0, _ :: _ => none
  | fuel + 1, c :: t => do
    let (piece, t) ← piece? c t
    let others ← pieces fuel t
    pure (piece :: others)

def read (t : Text) : Option (List Piece) := pieces t.length t

/-- What is left to fill places with: arguments one after another; or the members of one object and
the value that the next place takes, at first the object as a whole. -/
inductive Feed where
  | inOrder (arguments : List Json)
  | byName (object : Members) (next : Option Json)

namespace Feed

/-- A single object that has members fills places by name. -/
def ofList : List Json → Feed
  | [.obj (m :: rest)] => .byName (m :: rest) (some (.obj (m :: rest)))
  | arguments => .inOrder arguments

def take : Feed → Option (Json × Feed)
  | .inOrder (v :: rest) => some (v, .inOrder rest)
  | .byName object (some v) => some (v, .byName object none)
  | _ => none

def select : Option Text → Feed → Option Feed
  | none, feed => some feed
  | some key, .byName object _ => (Json.lookup key object).map fun v => .byName object (some v)
  | some _, .inOrder _ => none

def isSpent : Feed → Bool
  | .inOrder arguments => arguments.isEmpty
  | .byName .. => true

end Feed

def Extent.resolve (feed : Feed) : Extent → Option (Int × Feed)
  | .number n => if n < 2 ^ 31 then some (n, feed) else none
  | .argument => do
    let (v, feed) ← feed.take
    let i ← Form.integer? v
    if -2 ^ 31 ≤ i ∧ i < 2 ^ 31 then some (i, feed) else none

def resolve (feed : Feed) : Option Extent → Option (Option Int × Feed)
  | none => some (none, feed)
  | some extent => (extent.resolve feed).map fun p => (some p.1, p.2)

/-- Fills a place. A width below zero fills behind the text, and a precision below zero is zero. -/
def Place.fill (p : Place) (feed : Feed) : Option (Text × Feed) := do
  let feed ← feed.select p.key
  let (width, feed) ← resolve feed p.width
  let (precision, feed) ← resolve feed p.precision
  let width := width.getD 0
  let flags := { p.flags with left := p.flags.left || width < 0 }
  let (v, feed) ← feed.take
  let written ← p.form.write flags (precision.map Int.toNat) v
  some (written.fill flags width.natAbs, feed)

def fill : List Piece → Feed → Option Text
  | [], feed => if feed.isSpent then some [] else none
  | .literal c :: rest, feed => (fill rest feed).map (c :: ·)
  | .place p :: rest, feed => do
    let (t, feed) ← p.fill feed
    let others ← fill rest feed
    pure (t ++ others)

/-- The message of a template, unless the arguments do not fit. Without arguments it is the template
as it stands. -/
def expand (template : Text) (arguments : List Json) : Option Text :=
  if arguments.isEmpty then some template
  else (read template).bind fun ps => fill ps (.ofList arguments)

end Template

end TopicSink
