import Cyclomatic.FileTree
import Cyclomatic.Log
import Cyclomatic.Settings

/-!
# Routing of log records

The library has one logger, whose handlers show records on the console and append them to a log
file. Setting it up replaces the handlers of earlier times. A record reaches all handlers if it is
important enough, and none otherwise.
-/

namespace Cyclomatic

/-- Where records go. -/
inductive Handler where
  /-- The console. A detailed one also shows when a record was made and by which part. -/
  | console (detailed : Bool)
  /-- The end of a file. -/
  | file (names : Names)
deriving DecidableEq, Repr

/-- The logger that all records pass. -/
structure Logger where
  /-- The least level that passes, if it has been set. -/
  level : Option Level := none
  handlers : List Handler := []
  /-- Whether records go on to whoever uses the library. -/
  propagates : Bool := true
deriving DecidableEq, Repr

/-- The logger and the files that it writes to. -/
structure Logging where
  logger : Logger := {}
  files : FileTree

/-- The least level that passes at a verbosity. -/
def Verbosity.level : Verbosity → Level
  | .quiet => .error
  | .normal => .warning
  | .verbose => .debug

/-- The line of a log file for a record. -/
def Record.line (stamp : String) (record : Record) : String :=
  s!"{stamp} - {record.logger} - {record.level.name} - {record.message}\n"

namespace Logger

/-- The least level that passes. Warnings pass before a level has been set. -/
def threshold (logger : Logger) : Level := logger.level.getD .warning

/-- Whether a record passes. -/
def passes (logger : Logger) (record : Record) : Bool :=
  decide (logger.threshold.number ≤ record.level.number)

/-- The logger at a verbosity with nothing but a console. -/
def onConsole (logger : Logger) (verbosity : Verbosity) : Logger :=
  { logger with level := some verbosity.level, handlers := [.console (verbosity == .verbose)] }

/-- Adds a log file. -/
def withFile (logger : Logger) (names : Names) : Logger :=
  { logger with handlers := logger.handlers ++ [.file names] }

/-- Keeps records from whoever uses the library. -/
def contained (logger : Logger) : Logger := { logger with propagates := false }

end Logger

namespace Logging

/-- Sets up logging at a verbosity. The log file, unless its path is empty, is opened last: if that
fails, the console is there already and the earlier handlers are gone. -/
def setupAt (logging : Logging) (verbosity : Verbosity) (logFile : String) :
    Except Fault Unit × Logging :=
  let logger := logging.logger.onConsole verbosity
  if logFile == "" then (.ok (), { logging with logger := logger.contained })
  else
    match logging.files.openForAppend (Path.ofString logFile) with
    | .ok (names, files) => (.ok (), ⟨(logger.withFile names).contained, files⟩)
    | .error fault => (.error fault, { logging with logger })

/-- Sets up logging. A word that stands for no verbosity changes nothing. -/
def setup (logging : Logging) (verbosity logFile : String) : Except Fault Unit × Logging :=
  match Verbosity.ofWord? verbosity with
  | some verbosity => logging.setupAt verbosity logFile
  | none =>
      (.error ⟨.invalidValue, s!"Unknown verbosity: {Text.quoted verbosity}"⟩, logging)

end Logging

/-- Hands a record to a handler. Only log files are changed by it. -/
def Handler.write (files : FileTree) (line : String) : Handler → FileTree
  | .console _ => files
  | .file names => files.append names line.toUTF8

namespace Logging

/-- Hands a record that was made at the time `stamp` to all handlers, if it passes. -/
def emit (stamp : String) (logging : Logging) (record : Record) : Logging :=
  if logging.logger.passes record then
    let line := record.line stamp
    { logging with
      files := logging.logger.handlers.foldl (fun files handler => handler.write files line)
        logging.files }
  else logging

/-- Hands records on, the earliest first. -/
def emitAll (stamp : String) (logging : Logging) (records : List Record) : Logging :=
  records.foldl (emit stamp) logging

end Logging

end Cyclomatic
