import Cyclomatic.OrderedMap

/-!
# Arguments

The words of a command line are options, values of options and positionals. An option is written
with two dashes and a word, or with one dash and a letter; letters may share a dash. The value of
an option stands in the same word or is the next word, whatever that looks like. After a word of
two dashes alone, everything is positional.
-/

namespace Cyclomatic.CommandLine

/-- The options of all commands. -/
inductive Opt where
  | version
  | help
  | language
  | format
  | threshold
  | config
  | name
  | verbose
  | quiet
deriving DecidableEq, Repr

/-- How an option is written. -/
structure OptForm where
  opt : Opt
  /-- The word with its two dashes. -/
  long : String
  short : Option Char := none
  takesValue : Bool := false
deriving DecidableEq, Repr

/-- What is wrong with a command line. -/
inductive UsageError where
  | unknownOption (word : String)
  | missingValue (word : String)
  | unexpectedValue (word : String)
  | notInteger (value : String)
  | missingCommand
  | unknownCommand (word : String)
  | missingPaths
  | unexpectedArguments (words : List String)
deriving DecidableEq, Repr

/-- What a usage error says. -/
def UsageError.message : UsageError → String
  | .unknownOption word => s!"No such option: {word}"
  | .missingValue word => s!"Option '{word}' requires an argument."
  | .unexpectedValue word => s!"Option '{word}' does not take a value."
  | .notInteger value => s!"Invalid value: '{value}' is not a valid integer."
  | .missingCommand => "Missing command."
  | .unknownCommand word => s!"No such command '{word}'."
  | .missingPaths => "Missing argument 'PATHS...'."
  | .unexpectedArguments words =>
      "Got unexpected extra arguments (" ++ " ".intercalate words ++ ")"

/-- An option with its value. The value of a switch is empty. -/
abbrev Given := Opt × String

/-- What a command line holds. -/
structure Arguments where
  given : List Given := []
  positionals : List String := []
deriving DecidableEq, Repr

namespace Arguments

/-- Puts options in front. -/
def addGiven (given : List Given) (arguments : Arguments) : Arguments :=
  { arguments with given := given ++ arguments.given }

/-- Puts a positional in front. -/
def addPositional (word : String) (arguments : Arguments) : Arguments :=
  { arguments with positionals := word :: arguments.positionals }

/-- Each option once, in order of first use and with the value that it has last. -/
def options (arguments : Arguments) : OrderedMap Opt String :=
  .ofList arguments.given

/-- Whether an option is used. -/
def uses (arguments : Arguments) (opt : Opt) : Bool :=
  arguments.given.any fun entry => entry.1 == opt

end Arguments

/-! ## Single words -/

/-- What a word holds: options, and perhaps one that waits for its value. -/
structure OptionWord where
  given : List Given := []
  waiting : Option OptForm := none
deriving DecidableEq, Repr

/-- Reads letters that share a dash. The letters after one that takes a value are its value. -/
def readLetters (forms : List OptForm) : List Char → Except UsageError OptionWord
  | [] => .ok {}
  | letter :: rest =>
      match forms.find? fun form => form.short == some letter with
      | none => .error (.unknownOption (String.ofList ['-', letter]))
      | some form =>
          if !form.takesValue then
            (readLetters forms rest).map fun word =>
              { word with given := (form.opt, "") :: word.given }
          else if rest.isEmpty then .ok { waiting := some form }
          else .ok { given := [(form.opt, String.ofList rest)] }

/-- The part of a word before its first equals sign, and the part after it if there is one. -/
def splitValue (word : List Char) : String × Option String :=
  let (key, rest) := word.span (· != '=')
  (String.ofList key,
    match rest with
    | _ :: value => some (String.ofList value)
    | [] => none)

/-- Reads an option that is written with a word. -/
def readLong (form : OptForm) (value : Option String) : Except UsageError OptionWord :=
  match value with
  | some value =>
      if form.takesValue then .ok { given := [(form.opt, value)] }
      else .error (.unexpectedValue form.long)
  | none =>
      if form.takesValue then .ok { waiting := some form }
      else .ok { given := [(form.opt, "")] }

/-- Reads a word that starts with a dash. -/
def readOption (forms : List OptForm) (word : List Char) : Except UsageError OptionWord :=
  let (key, value) := splitValue word
  match forms.find? fun form => form.long == key with
  | some form => readLong form value
  | none =>
      match word with
      | '-' :: '-' :: _ => .error (.unknownOption key)
      | _ => readLetters forms word.tail

/-- Whether a word is an option, or several. A dash alone is not. -/
def isOption (word : List Char) : Bool :=
  match word with
  | '-' :: _ :: _ => true
  | _ => false

/-! ## All words -/

/-- Reads words, of which the first is the value of the option that waits for one, if any does.
Unless positionals may stand between options, all words from the first positional on are
positionals. -/
def readWords (forms : List OptForm) (mixed : Bool) :
    Option OptForm → List String → Except UsageError Arguments
  | none, [] => .ok {}
  | some form, [] => .error (.missingValue form.long)
  | some form, value :: rest =>
      (readWords forms mixed none rest).map (·.addGiven [(form.opt, value)])
  | none, word :: rest =>
      if word == "--" then .ok { positionals := rest }
      else if isOption word.toList then
        match readOption forms word.toList with
        | .ok read =>
            (readWords forms mixed read.waiting rest).map (·.addGiven read.given)
        | .error error => .error error
      else if mixed then (readWords forms mixed none rest).map (·.addPositional word)
      else .ok { positionals := word :: rest }

end Cyclomatic.CommandLine
