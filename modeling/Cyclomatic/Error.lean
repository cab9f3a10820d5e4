import Cyclomatic.OrderedMap
import Cyclomatic.Text.Quoted

/-!
# Errors and faults

An error is something that the library reports on purpose, with a message and details. A fault is
something that went wrong underneath. An operation fails with an error, which may have a fault
behind it, or with a fault that nothing turned into an error.
-/

namespace Cyclomatic

/-! ## Errors -/

/-- The kinds of errors. -/
inductive ErrorKind where
  | general
  | analysis
  | unsupportedLanguage
  | parsing
  | calculation
  | configuration
  | validation
deriving DecidableEq, Repr

/-- The kinds that a kind is a special case of, the nearest first. -/
def ErrorKind.ancestors : ErrorKind → List ErrorKind
  | .general => []
  | .analysis | .configuration | .validation => [.general]
  | .unsupportedLanguage | .parsing | .calculation => [.analysis, .general]

/-- Details of an error: what they are about, and their text. -/
abbrev Details := OrderedMap String String

/-- What the library reports. -/
inductive Error where
  | general (message : String) (details : Details)
  | analysis (message : String) (details : Details)
  | configuration (message : String) (details : Details)
  /-- No calculator exists for a language, or none can be told from a file name. -/
  | unsupportedLanguage (language : String) (supported : List String)
  /-- A source text is no text of its language. -/
  | parsing (language fileName reason : String)
  /-- An analysis failed for another reason. -/
  | calculation (fileName reason : String)
  /-- An input of the caller is refused. -/
  | validation (field reason : String)
deriving DecidableEq, Repr

namespace Error

/-- The kind of an error. -/
def kind : Error → ErrorKind
  | .general .. => .general
  | .analysis .. => .analysis
  | .configuration .. => .configuration
  | .unsupportedLanguage .. => .unsupportedLanguage
  | .parsing .. => .parsing
  | .calculation .. => .calculation
  | .validation .. => .validation

/-- The message without the details. -/
def message : Error → String
  | .general message _ | .analysis message _ | .configuration message _ => message
  | .unsupportedLanguage language _ => s!"Unsupported language: '{language}'"
  | .parsing language fileName _ => s!"Failed to parse {language} code in '{fileName}'"
  | .calculation fileName _ => s!"Failed to calculate complexity for '{fileName}'"
  | .validation field reason => s!"Invalid {field}: {reason}"

/-- The details in the order in which they are shown. -/
def details : Error → Details
  | .general _ details | .analysis _ details | .configuration _ details => details
  | .unsupportedLanguage language supported =>
      ⟨[("language", language), ("supported", ", ".intercalate supported)]⟩
  | .parsing language fileName reason =>
      ⟨[("file", fileName), ("language", language), ("reason", reason)]⟩
  | .calculation fileName reason => ⟨[("file", fileName), ("reason", reason)]⟩
  | .validation field _ => ⟨[("field", field)]⟩

/-- The message, followed by the details in brackets if there are any. -/
def text (error : Error) : String :=
  if error.details.isEmpty then error.message
  else
    let shown := error.details.entries.map fun entry => entry.1 ++ "=" ++ entry.2
    let context := ", ".intercalate shown
    s!"{error.message} ({context})"

end Error

/-! ## Faults -/

/-- The ways in which the file system refuses. -/
inductive IoKind where
  | general
  | notFound
  | notDirectory
  | isDirectory
  | named (name : String)
deriving DecidableEq, Repr

/-- The kinds of faults. -/
inductive FaultKind where
  /-- An operation met a value of the wrong type. -/
  | typeMismatch
  /-- A value is of the right type and unfit. -/
  | invalidValue
  /-- A value lacks an operation. -/
  | missingOperation
  /-- A number is too large to be converted. -/
  | overflow
  /-- Bytes are not text. -/
  | undecodable
  /-- A text cannot be encoded or decoded. -/
  | encoding
  /-- A key is missing. -/
  | lookup
  /-- A component is not installed. -/
  | unavailable
  /-- A source text breaks the rules of its language. -/
  | syntaxError
  /-- A settings file breaks the rules of its format. -/
  | document
  /-- The file system refuses. -/
  | io (kind : IoKind)
  /-- Anything else. -/
  | named (name : String)
  /-- A special case of another kind, with a name of its own. -/
  | special (name : String) (parent : FaultKind)
deriving DecidableEq, Repr

/-- The kind that a kind is a special case of in the end. -/
def FaultKind.base : FaultKind → FaultKind
  | .special _ parent => parent.base
  | kind => kind

/-- Something that went wrong, with its text. -/
structure Fault where
  kind : FaultKind
  text : String
deriving DecidableEq, Repr

/-- The text of a fault as it is reported. A missing key is quoted. -/
def Fault.message (fault : Fault) : String :=
  match fault.kind.base with
  | .lookup => Text.quoted fault.text
  | _ => fault.text

/-- Why an operation failed. -/
inductive Failure where
  /-- An error, and the kind of the fault behind it. -/
  | error (error : Error) (cause : Option FaultKind)
  /-- A fault that was not turned into an error. -/
  | fault (fault : Fault)
deriving DecidableEq, Repr

/-- An error without a fault behind it. -/
def Failure.ofError (error : Error) : Failure := .error error none

end Cyclomatic
