import TopicSink.Fault

/-!
Lines of the log, as the library writes them: a severity, the logger, a message, and the fault of
which the line tells where it tells of one beside its message. A line is handed to the log before
its message is put together, so that one whose message cannot be told is a line of the log all the
same.
-/

namespace TopicSink

inductive Severity where
  | debug | info | warning | error
deriving DecidableEq, Repr

def Severity.name : Severity → Text
  | .debug => "DEBUG"
  | .info => "INFO"
  | .warning => "WARNING"
  | .error => "ERROR"

structure LogLine where
  severity : Severity
  logger : Text
  message : Except Fault Text
  fault : Option Fault

namespace LogLine

def debug (logger message : Text) : LogLine := ⟨.debug, logger, .ok message, none⟩

def info (logger message : Text) : LogLine := ⟨.info, logger, .ok message, none⟩

def warning (logger message : Text) : LogLine := ⟨.warning, logger, .ok message, none⟩

def ofFault (logger message : Text) (f : Fault) : LogLine :=
  ⟨.error, logger, f.told.map fun t => message ++ ": " ++ t, none⟩

end LogLine

end TopicSink
