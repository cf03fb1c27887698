import TopicSink.Log.Entry
import TopicSink.Log.Level
import TopicSink.Log.Template
import TopicSink.Settings.Store

/-!
Loggers by name. The names form a tree: dots separate a logger from the ones above it, and the root
stands above all. A logger without a level takes the one of the nearest logger above that has one,
and entries reach the handlers of a logger and of all loggers above it. Whether a logger lets
entries of a rank through is decided once and then remembered until the level of any logger is set,
even if a nearer logger with a level of its own comes up in between. `Logging.configure` gives a
logger the level that the settings name and, unless it has one, a handler in the form that they ask
for.
-/

namespace TopicSink

/-- A logger: the name of the one above it, which only the root lacks, its level, where zero stands
for none, its handlers, and whether it lets through the ranks that it was asked about. -/
structure Logger where
  parent : Option Text
  level : Int
  handlers : List LogForm
  verdicts : List (Rank × Bool)
deriving DecidableEq, Repr

abbrev Registry := List (Text × Logger)

namespace Registry

def rootName : Text := "root"

def initial : Registry := [(rootName, ⟨none, 30, [], []⟩)]

def nameOf (name : Text) : Text := if name.isEmpty then rootName else name

def get (r : Registry) (name : Text) : Logger := (r.lookup name).getD ⟨some rootName, 0, [], []⟩

def contains (r : Registry) (name : Text) : Bool := (r.lookup name).isSome

def put (name : Text) (logger : Logger) : Registry → Registry
  | [] => [(name, logger)]
  | e :: rest => if e.1 = name then (name, logger) :: rest else e :: put name logger rest

/-- The names above a name, nearest first, read from its last code point on: what stands before each
dot. Of adjacent dots only the last one counts, and nothing stands before a dot at the beginning. -/
def above : (reversed : Text) → List Text
  | [] | [_] => []
  | c :: d :: rest =>
    if c = '.' then (d :: rest).reverse :: above rest else above (d :: rest)

/-- The nearest logger above a name. The root is so only by standing above all. -/
def nearest (r : Registry) (name : Text) : Text :=
  ((above name.reverse).find? fun n => n ≠ rootName && r.contains n).getD rootName

/-- A logger put below a new one of the given name, if it belongs there. One whose parent's name
begins with the given name already stands below a nearer logger, and stays there; so does one below
the root where the root's own name begins with it. -/
def adopt (name : Text) (e : Text × Logger) : Text × Logger :=
  let stays := e.2.parent.any fun parent => name.isPrefixOf parent
  if (above e.1.reverse).contains name && !stays then (e.1, { e.2 with parent := some name }) else e

def touch (name : Text) (r : Registry) : Registry :=
  if r.contains name then r
  else r.map (adopt name) ++ [(name, ⟨some (r.nearest name), 0, [], []⟩)]

/-- A logger and all above it, at most `depth` of them. Each is kept under a name of its own, so the
number of all loggers is depth enough. -/
def lineageTo (r : Registry) : (depth : Nat) → Text → List Logger
  | 0, _ => []
  | depth + 1, name =>
    let logger := r.get name
    match logger.parent with
    | some parent => logger :: lineageTo r depth parent
    | none => [logger]

def lineage (r : Registry) (name : Text) : List Logger := r.lineageTo r.length name

def effectiveLevel (r : Registry) (name : Text) : Int :=
  match (r.lineage name).find? fun l => l.level ≠ 0 with
  | some l => l.level
  | none => 0

def written (e : Option LogEntry) (form : LogForm) : Text :=
  match e with
  | some e => e.write form ++ "\n"
  | none => []

def outputs (r : Registry) (name : Text) (e : Option LogEntry) : List Text :=
  (r.lineage name).flatMap fun l => l.handlers.map (written e)

/-- The entry of a message. There is none where the arguments do not fit the template or the
calendar has no such time. -/
def entryOf (name : Text) (rank : Rank) (template : Text) (arguments : List Json)
    (time : Option Instant) (fault : Option Fault) : Option LogEntry := do
  let message ← Template.expand template arguments
  let time ← time
  pure ⟨time, Level.name rank, name, message, fault.map Fault.traceLine⟩

/-- Whether a rank passes as the levels of the loggers stand. None does but one above zero. -/
def passes (r : Registry) (name : Text) (rank : Rank) : Bool :=
  rank.isPositive && rank.reaches (r.effectiveLevel name)

/-- Whether a logger lets a rank through, as it remembers or else as the levels stand. -/
def letsThrough (r : Registry) (name : Text) (rank : Rank) : Bool :=
  ((r.get name).verdicts.lookup rank.number).getD (r.passes name rank)

def remember (name : Text) (rank : Rank) (r : Registry) : Registry :=
  let logger := r.get name
  match logger.verdicts.lookup rank.number with
  | some _ => r
  | none =>
    put name { logger with verdicts := (rank.number, r.passes name rank) :: logger.verdicts } r

/-- What the handlers write of a message, if the logger lets its rank through. -/
def emit (r : Registry) (name : Text) (rank : Rank) (template : Text) (arguments : List Json)
    (time : Option Instant) (fault : Option Fault) : List Text :=
  if r.letsThrough name rank then
    r.outputs name (entryOf name rank template arguments time fault)
  else []

/-- Gives a logger a level. All loggers then forget what they let through. -/
def setLevel (name : Text) (level : Int) (r : Registry) : Registry :=
  (put name { r.get name with level } r).map fun e => (e.1, { e.2 with verdicts := [] })

def addHandler (name : Text) (form : LogForm) (r : Registry) : Registry :=
  if (r.get name).handlers.isEmpty then put name { r.get name with handlers := [form] } r else r

end Registry

structure Logging where
  memory : Memory
  registry : Registry

namespace Logging

def initial : Logging := ⟨.empty, .initial⟩

def lookUp {α : Type} (x : LookUp α) : Act Logging α :=
  x.within memory fun memory s => { s with memory }

def change (f : Registry → Registry) : Act Logging Unit :=
  Act.update fun s => { s with registry := f s.registry }

def formOf (t : Option Text) : LogForm :=
  if t.map Text.lower = some (Text.ofString "true") then .json else .plain

/-- Configures a logger by the settings, the level by the given name where they name none. -/
def configure (w : Surroundings) (name level : Text) : Act Logging Logger := do
  let name := Registry.nameOf name
  change (Registry.touch name)
  let named ← lookUp (LookUp.setting? w "LOG_LEVEL")
  let level ← Act.ofExcept (Level.ofSetting (named.getD level))
  change (Registry.setLevel name level)
  let form ← lookUp (LookUp.setting? w "LOG_JSON")
  change (Registry.addHandler name (formOf form))
  let s ← Act.state
  pure (s.registry.get name)

/-- Logs a message by way of the logger of a name, and returns what is written. The logger comes to
be even where the rank is none. -/
def emit (name : Text) (rank : Json) (template : Text) (arguments : List Json)
    (time : Option Instant) (fault : Option Fault) : Act Logging (List Text) := do
  let name := Registry.nameOf name
  change (Registry.touch name)
  let rank ← Act.ofExcept (Rank.ofJson rank)
  change (Registry.remember name rank)
  let s ← Act.state
  pure (s.registry.emit name rank template arguments time fault)

end Logging

end TopicSink
