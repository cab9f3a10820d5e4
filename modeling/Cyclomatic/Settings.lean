import Cyclomatic.Error
import Cyclomatic.FileName
import Cyclomatic.Settings.Value
import Cyclomatic.Text.Blank

/-!
# Settings

Limits, thresholds and output settings. Settings are made from named values, each of which is
checked; the first that does not fit is reported.
-/

namespace Cyclomatic

/-- How much is logged. -/
inductive Verbosity where
  | quiet
  | normal
  | verbose
deriving DecidableEq, Repr

/-- The levels of verbosity. -/
def Verbosity.all : List Verbosity := [.quiet, .normal, .verbose]

/-- The word for a verbosity. -/
def Verbosity.word : Verbosity → String
  | .quiet => "quiet"
  | .normal => "normal"
  | .verbose => "verbose"

/-- The verbosity that a word stands for. -/
def Verbosity.ofWord? (word : String) : Option Verbosity :=
  all.find? (·.word == word)

/-- The forms of a report. -/
inductive OutputFormat where
  | rich
  | json
  | text
deriving DecidableEq, Repr

/-- The forms of a report. -/
def OutputFormat.all : List OutputFormat := [.rich, .json, .text]

/-- The word for a form. -/
def OutputFormat.word : OutputFormat → String
  | .rich => "rich"
  | .json => "json"
  | .text => "text"

/-- The form that a word stands for. -/
def OutputFormat.ofWord? (word : String) : Option OutputFormat :=
  all.find? (·.word == word)

/-- Limits, thresholds and output settings. -/
structure Settings where
  /-- Units that score above this are flagged. -/
  warningThreshold : Number := .int 10
  /-- The greatest size of a file, in megabytes. -/
  maxFileSizeMb : Number := .float 10.0
  /-- The greatest length of a source text that is given directly. -/
  maxSourceLength : Number := .int (1024 * 1024)
  /-- The name of a source text that is given directly without a name. -/
  defaultFileName : FileName := .text "inline_code"
  verbosity : Verbosity := .normal
  outputFormat : OutputFormat := .rich

/-- The settings. -/
inductive Setting where
  | warningThreshold
  | maxFileSizeMb
  | maxSourceLength
  | defaultFileName
  | verbosity
  | outputFormat
deriving DecidableEq, Repr

namespace Setting

/-- All settings, in the order in which they are checked. -/
def all : List Setting := [
  .warningThreshold, .maxFileSizeMb, .maxSourceLength, .defaultFileName, .verbosity, .outputFormat]

/-- The name of a setting. -/
def key : Setting → String
  | .warningThreshold => "warning_threshold"
  | .maxFileSizeMb => "max_file_size_mb"
  | .maxSourceLength => "max_source_length"
  | .defaultFileName => "default_file_name"
  | .verbosity => "verbosity"
  | .outputFormat => "output_format"

/-- The value of a setting that is not given. -/
def default : Setting → Value
  | .warningThreshold => .int 10
  | .maxFileSizeMb => .float 10.0
  | .maxSourceLength => .int (1024 * 1024)
  | .defaultFileName => .text "inline_code"
  | .verbosity => .text "normal"
  | .outputFormat => .text "rich"

/-- The setting of a name. -/
def ofKey? (key : String) : Option Setting :=
  all.find? (·.key == key)

end Setting

namespace Settings

/-- A value that does not fit. -/
def invalid (text : String) : Fault := ⟨.invalidValue, text⟩

/-- The number that a value is, in a comparison with an integer. -/
def comparable (operator : String) (value : Value) : Except Fault Number :=
  match value.number? with
  | some number => .ok number
  | none =>
      .error ⟨.typeMismatch,
        s!"'{operator}' not supported between instances of '{value.typeName}' and 'int'"⟩

/-- The name that a value is: a text or bytes, from both of which blanks can be taken off. -/
def trimmable (value : Value) : Except Fault FileName :=
  match value with
  | .text s => .ok (.text s)
  | .bytes content => .ok (.bytes content)
  | _ => .error ⟨.missingOperation, s!"'{value.typeName}' object has no attribute 'strip'"⟩

/-- Whether a byte is a blank of ASCII. -/
def isBlankByte (b : UInt8) : Bool :=
  (9 ≤ b && b ≤ 13) || b == 32

/-- Whether nothing but blanks is in a name. -/
def isBlankName : FileName → Bool
  | .text s => Text.allBlank s.toList
  | .bytes content => content.all isBlankByte

/-- A number that is at least one. -/
def atLeastOne (setting : Setting) (value : Value) : Except Fault Number := do
  let number ← comparable "<" value
  if number.lessThan 1 then .error (invalid s!"{setting.key} must be at least 1") else .ok number

/-- A number above zero. -/
def positive (setting : Setting) (value : Value) : Except Fault Number := do
  let number ← comparable "<=" value
  if number.notPositive then .error (invalid s!"{setting.key} must be positive") else .ok number

/-- A name that is not blank. -/
def notBlank (setting : Setting) (value : Value) : Except Fault FileName := do
  let name ← trimmable value
  if isBlankName name then .error (invalid s!"{setting.key} must not be empty") else .ok name

/-- One of several words. -/
def choice {α : Type} (setting : Setting) (words : List String) (ofWord? : String → Option α)
    (value : Value) : Except Fault α :=
  match value.text?.bind ofWord? with
  | some chosen => .ok chosen
  | none => .error (invalid (setting.key ++ " must be one of " ++ ", ".intercalate words))

/-- Settings of given values. -/
def ofValues (value : Setting → Value) : Except Fault Settings := do
  let warningThreshold ← atLeastOne .warningThreshold (value .warningThreshold)
  let maxFileSizeMb ← positive .maxFileSizeMb (value .maxFileSizeMb)
  let maxSourceLength ← atLeastOne .maxSourceLength (value .maxSourceLength)
  let defaultFileName ← notBlank .defaultFileName (value .defaultFileName)
  let verbosity ←
    choice .verbosity (Verbosity.all.map (·.word)) Verbosity.ofWord? (value .verbosity)
  let outputFormat ←
    choice .outputFormat (OutputFormat.all.map (·.word)) OutputFormat.ofWord?
      (value .outputFormat)
  .ok { warningThreshold, maxFileSizeMb, maxSourceLength, defaultFileName, verbosity,
        outputFormat }

/-- What is wrong with a name that is given a value, if anything. -/
def refuseKey? (key : String) : Option Fault :=
  if (Setting.ofKey? key).isSome then none
  else if key == "self" then
    some ⟨.typeMismatch, "AnalysisConfig.__init__() got multiple values for argument 'self'"⟩
  else
    some ⟨.typeMismatch,
      s!"AnalysisConfig.__init__() got an unexpected keyword argument '{key}'"⟩

/-- Settings of named values. Those that are not named have their usual values. -/
def ofNamed (given : OrderedMap String Value) : Except Fault Settings :=
  match given.keys.findSome? refuseKey? with
  | some fault => .error fault
  | none => ofValues fun setting => (given.get? setting.key).getD setting.default

/-- The greatest size of a file in bytes. -/
def maxFileSizeBytes (settings : Settings) : Except Fault Int :=
  match settings.maxFileSizeMb.megabytes with
  | .ok size => .ok size
  | .error .infinite => .error ⟨.overflow, "cannot convert float infinity to integer"⟩
  | .error .undefined => .error ⟨.invalidValue, "cannot convert float NaN to integer"⟩

end Settings

end Cyclomatic
