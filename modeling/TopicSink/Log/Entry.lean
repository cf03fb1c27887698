import TopicSink.Calendar
import TopicSink.Json.Printer

namespace TopicSink

/-- What a handler writes out: when, at which level, by which logger, what, and the trace of the
fault that it tells of. -/
structure LogEntry where
  time : Instant
  level : Text
  logger : Text
  message : Text
  trace : Option Text

inductive LogForm where
  | plain
  | json
deriving DecidableEq, Repr

namespace LogEntry

def plain (e : LogEntry) : Text :=
  let line := e.time.render ++ " " ++ e.level ++ " [" ++ e.logger ++ "] " ++ e.message
  match e.trace with
  | none => line
  | some trace => if line.getLast? = some ('\n' : Char) then line ++ trace else line ++ "\n" ++ trace

def members (e : LogEntry) : Members :=
  let trace : Members := match e.trace with
    | some t => [("exc_info", .str t)]
    | none => []
  ("timestamp", .str e.time.render) :: ("level", .str e.level) :: ("logger", .str e.logger)
    :: ("message", .str e.message) :: trace

def json (e : LogEntry) : Text := Json.spaced (.obj e.members)

def write (e : LogEntry) : LogForm → Text
  | .plain => e.plain
  | .json => e.json

end LogEntry

end TopicSink
