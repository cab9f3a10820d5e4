import Cyclomatic.CommandLine.Arguments
import Cyclomatic.Error
import Cyclomatic.Number.Reading
import Cyclomatic.Path

/-!
# Commands

What a command line asks for. The first positional names a command, and the words after it belong
to that command.
-/

namespace Cyclomatic.CommandLine

/-- The options of an analysis. -/
structure Options where
  language : Option String := none
  format : Option String := none
  threshold : Option Int := none
  config : Option Path := none
  /-- The name of a source text from standard input. -/
  name : Option String := none
  verbose : Bool := false
  quiet : Bool := false
deriving DecidableEq, Repr

/-- What a command line asks for. -/
inductive Command where
  /-- Analyze files. -/
  | analyze (options : Options) (paths : List Path)
  /-- Analyze standard input. -/
  | code (options : Options)
  /-- Show the languages. -/
  | languages
  | version
  | help
deriving DecidableEq, Repr

/-- Why a command line asks for nothing. -/
inductive Refusal where
  | usage (error : UsageError)
  | fault (fault : Fault)
deriving DecidableEq, Repr

/-! ## Values of options -/

/-- The path that a word is. -/
def readPath (word : String) : Except Refusal Path :=
  if word.toList.contains '\x00' then .error (.fault ⟨.invalidValue, "embedded null byte"⟩)
  else .ok (Path.ofString word)

/-- The integer that a word is. -/
def readInteger (word : String) : Except Refusal Int :=
  match Number.readInt word with
  | .ok value => .ok value
  | .error _ => .error (.usage (.notInteger word))

/-- Gives an option its value. -/
def Options.set (options : Options) (given : Given) : Except Refusal Options :=
  match given.1 with
  | .language => .ok { options with language := some given.2 }
  | .format => .ok { options with format := some given.2 }
  | .name => .ok { options with name := some given.2 }
  | .threshold =>
      (readInteger given.2).map fun value => { options with threshold := some value }
  | .config => (readPath given.2).map fun path => { options with config := some path }
  | .verbose => .ok { options with verbose := true }
  | .quiet => .ok { options with quiet := true }
  | .version | .help => .ok options

/-- Gives options their values, the first one first. -/
def Options.setAll (options : Options) : List Given → Except Refusal Options
  | [] => .ok options
  | given :: rest =>
      match options.set given with
      | .ok next => next.setAll rest
      | .error refusal => .error refusal

/-- The paths that words are. -/
def readPaths : List String → Except Refusal (List Path)
  | [] => .ok []
  | word :: rest =>
      match readPath word with
      | .ok path => (readPaths rest).map (path :: ·)
      | .error refusal => .error refusal

/-! ## Commands and their options -/

/-- The option that every command has. -/
def helpForm : OptForm := { opt := .help, long := "--help" }

/-- The options before the command. -/
def generalForms : List OptForm := [{ opt := .version, long := "--version" }, helpForm]

/-- The options of an analysis. -/
def analysisForms : List OptForm := [
  { opt := .language, long := "--language", short := some 'l', takesValue := true },
  { opt := .format, long := "--format", short := some 'f', takesValue := true },
  { opt := .threshold, long := "--threshold", short := some 't', takesValue := true },
  { opt := .config, long := "--config", short := some 'c', takesValue := true },
  { opt := .verbose, long := "--verbose", short := some 'v' },
  { opt := .quiet, long := "--quiet", short := some 'q' },
  helpForm]

/-- The option that only an analysis of standard input has. -/
def nameForm : OptForm := { opt := .name, long := "--name", short := some 'n', takesValue := true }

/-- Reads the words of a command and hands them on, unless help is asked for. -/
def withArguments (forms : List OptForm) (words : List String)
    (next : Arguments → Except Refusal Command) : Except Refusal Command :=
  match readWords forms true none words with
  | .error error => .error (.usage error)
  | .ok arguments => if arguments.uses .help then .ok .help else next arguments

/-- Refuses positionals. -/
def withoutPositionals (arguments : Arguments) (command : Command) : Except Refusal Command :=
  if arguments.positionals.isEmpty then .ok command
  else .error (.usage (.unexpectedArguments arguments.positionals))

/-- Reads the words of an analysis of files. -/
def readAnalyze (words : List String) : Except Refusal Command :=
  withArguments analysisForms words fun arguments => do
    let options ← Options.setAll {} arguments.options.entries
    let paths ← readPaths arguments.positionals
    if paths.isEmpty then .error (.usage .missingPaths) else .ok (.analyze options paths)

/-- Reads the words of an analysis of standard input. -/
def readCode (words : List String) : Except Refusal Command :=
  withArguments (nameForm :: analysisForms) words fun arguments => do
    let options ← Options.setAll {} arguments.options.entries
    withoutPositionals arguments (.code options)

/-- Reads the words of the list of languages. -/
def readLanguages (words : List String) : Except Refusal Command :=
  withArguments [helpForm] words fun arguments => withoutPositionals arguments .languages

/-- Reads a command and its words. -/
def readCommand : List String → Except Refusal Command
  | [] => .error (.usage .missingCommand)
  | word :: rest =>
      match word with
      | "analyze" => readAnalyze rest
      | "code" => readCode rest
      | "languages" => readLanguages rest
      | _ => .error (.usage (.unknownCommand word))

/-- Reads a command line. Version and help win over any command, the first of them over the
other. -/
def Command.read (words : List String) : Except Refusal Command :=
  match readWords generalForms false none words with
  | .error error => .error (.usage error)
  | .ok arguments =>
      match arguments.given with
      | (.version, _) :: _ => .ok .version
      | _ :: _ => .ok .help
      | [] => readCommand arguments.positionals

end Cyclomatic.CommandLine
