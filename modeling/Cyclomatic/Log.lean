import Cyclomatic.Assembly.Scan
import Cyclomatic.Language

/-!
# Log records

What the parts of the library note while they work. A record names the part that made it, says
how important it is and gives a message.
-/

namespace Cyclomatic

/-- How important a record is. Levels are compared by their numbers, and any number may be used. -/
structure Level where
  number : Int
deriving DecidableEq, Repr

namespace Level

def debug : Level := ⟨10⟩

def info : Level := ⟨20⟩

def warning : Level := ⟨30⟩

def error : Level := ⟨40⟩

def critical : Level := ⟨50⟩

/-- The name of a level in a log file. -/
def name (level : Level) : String :=
  match level.number with
  | 0 => "NOTSET"
  | 10 => "DEBUG"
  | 20 => "INFO"
  | 30 => "WARNING"
  | 40 => "ERROR"
  | 50 => "CRITICAL"
  | number => s!"Level {number}"

end Level

/-- One entry of the log. -/
structure Record where
  level : Level
  logger : String
  message : String
deriving DecidableEq, Repr

/-- The name of the logger that all others belong to. -/
def rootLogger : String := "complexity_insight"

/-- The full name of a logger. A name that is not below the root logger yet is put there. -/
def loggerName (name : String) : String :=
  if name == "" then rootLogger
  else if name == rootLogger || (rootLogger ++ ".").toList.isPrefixOf name.toList then name
  else rootLogger ++ "." ++ name

namespace Record

/-- A record of minor importance. -/
def debug (name message : String) : Record := ⟨.debug, loggerName name, message⟩

/-- An analysis begins. -/
def analyzing (fileName : String) (language : Language) : Record :=
  ⟨.info, loggerName "api", s!"Analyzing {fileName} as {language.displayName}"⟩

/-- The name of the calculator of a language. -/
def calculatorName : Language → String
  | .java => "JavaCalculator"
  | .x86 => "X86Calculator"
  | .mos6502 => "Mos6502Calculator"

/-- A calculator was made. -/
def created (language : Language) : Record :=
  debug "calculators.registry" s!"Created {calculatorName language} for {language.key}"

/-- Methods were counted. -/
def methodsFound (count : Nat) (fileName : String) : Record :=
  debug "calculators.java" s!"Found {count} methods in {fileName}"

open Assembly in
/-- A remark of a scan. -/
def ofScan : ScanRemark → Record
  | .step (.procedure name) => debug "calculators.x86" s!"PROC {name}"
  | .step (.labelOpened name) => debug "calculators.x86" s!"Label {name} opens a unit"
  | .step (.labelDropped name) =>
      debug "calculators.mos6502" s!"Dropping label candidate '{name}' for .proc"
  | .step (.labelIsData name) =>
      debug "calculators.mos6502" s!"Label '{name}' never reached RTS; treating as data"
  | .redefined name =>
      debug "calculators.base" s!"Unit '{name}' redefined; keeping the later score"
  | .discarded name =>
      debug "calculators.base" s!"Discarding unterminated label '{name}' at end of input"
  | .wholeFile fileName score =>
      debug "calculators.base" s!"No units in {fileName}; using whole-file score {score}"

end Record

end Cyclomatic
