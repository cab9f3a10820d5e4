import Cyclomatic.Analysis
import Cyclomatic.CommandLine.Command
import Cyclomatic.Log.Routing
import Cyclomatic.Render
import Cyclomatic.Settings.Layers

/-!
# Runs

What a command does: the texts that it prints, the errors that it reports and the records that it
logs, in this order of time, and how it ends.
-/

namespace Cyclomatic.CommandLine

/-- What a run lets one see. -/
inductive Event where
  /-- A text on standard output. -/
  | printed (text : String)
  /-- A report of an error. -/
  | reported (error : Error)
  | logged (record : Record)
  /-- A remark on the use of the program. -/
  | advised (text : String)
deriving DecidableEq, Repr

/-- How a run ends. -/
inductive Ending where
  | success
  | failure
  | misuse
  /-- A fault that nothing turned into an error. -/
  | fault (fault : Fault)
deriving DecidableEq, Repr

/-- The exit code. -/
def Ending.exitCode : Ending → Nat
  | .success => 0
  | .failure => 1
  | .misuse => 2
  | .fault _ => 1

/-- A run of the program. -/
structure Run where
  events : List Event := []
  ending : Ending := .success
  /-- The verbosity, once the settings are known. -/
  verbosity : Option Verbosity := none
deriving DecidableEq, Repr

/-! ## What is written -/

/-- The components that the program uses and does not bring along. -/
structure Components where
  parser : Java.Parser
  screen : Screen

/-- The line that reports an error. Nothing in its text counts as markup. -/
def errorLine (screen : Screen) (error : Error) : String :=
  screen.line (Markup.styled "red" "Error:" ++ " " ++ screen.escape error.text)

/-- A text without line feeds at its end. -/
def trimFeeds (text : String) : String :=
  String.ofList (Text.dropWhileEnd (· == '\n') text.toList)

/-- A report as it is printed. If all scores are positive, a table shows no integer that is greater
than those of its panel, so nothing is printed of a report that cannot be written. -/
def reportText (screen : Screen) (settings : Settings) (report : Report) : Except Fault String :=
  match settings.outputFormat with
  | .rich => report.rich screen settings.warningThreshold
  | form =>
      (report.format screen settings.warningThreshold form).map fun text =>
        screen.echo (trimFeeds text)

/-- The line that shows a record. -/
def recordLine (record : Record) : String :=
  s!"{record.level.name}: {record.message}\n"

namespace Event

/-- What an event writes on standard output. -/
def stdout : Event → String
  | .printed text => text
  | _ => ""

/-- What an event writes on standard error at a verbosity. -/
def stderr (screen : Screen) (verbosity : Verbosity) : Event → String
  | .printed _ => ""
  | .reported error => errorLine screen error
  | .logged record =>
      if (Logger.onConsole {} verbosity).passes record then recordLine record else ""
  | .advised text => text

end Event

namespace Run

/-- All that a run writes on standard output. -/
def stdout (run : Run) : String :=
  String.join (run.events.map Event.stdout)

/-- All that a run writes on standard error. -/
def stderr (screen : Screen) (run : Run) : String :=
  String.join (run.events.map (Event.stderr screen (run.verbosity.getD .normal)))

/-- The exit code of a run. -/
def exitCode (run : Run) : Nat := run.ending.exitCode

/-- A run that fails with a failure. -/
def ofFailure : Failure → Run
  | .error error _ => { events := [.reported error], ending := .failure }
  | .fault fault => { ending := .fault fault }

/-- Puts events in front. -/
def after (events : List Event) (run : Run) : Run :=
  { run with events := events ++ run.events }

/-- Marks a run as failed, unless it ended otherwise. -/
def failed (run : Run) : Run :=
  match run.ending with
  | .success => { run with ending := .failure }
  | _ => run

end Run

/-! ## Analyses -/

/-- The values that options give settings. -/
def Options.values (options : Options) : OrderedMap String Value :=
  .ofList [
    (Setting.outputFormat.key, (options.format.map Value.text).getD .null),
    (Setting.warningThreshold.key, (options.threshold.map Value.int).getD .null),
    ("verbose", .bool options.verbose),
    ("quiet", .bool options.quiet)]

/-- What is printed for an analysis, or why nothing is. -/
def printedResult (screen : Screen) (settings : Settings) (result : Except Failure Report) :
    Except Failure String := do
  let report ← result
  (reportText screen settings report).mapError Failure.fault

/-- What shows of an analysis: what it logged, and what is printed or reported unless it ended with
a fault. -/
def outcomeEvents (records : List Record) (printed : Except Failure String) : List Event :=
  records.map Event.logged ++
    match printed with
    | .ok text => [.printed text]
    | .error (.error error _) => [.reported error]
    | .error (.fault _) => []

/-- Analyzes files one after the other. An error of one file does not keep the others from being
analyzed, a fault does. -/
def analyzePaths (components : Components) (settings : Settings) (files : FileTree)
    (language : Option String) : Registry → List Path → Run
  | _, [] => {}
  | registry, path :: rest =>
      let outcome := analyzeFile components.parser registry settings files (.path path) language
      let printed := printedResult components.screen settings outcome.result
      let events := outcomeEvents outcome.records printed
      let others := analyzePaths components settings files language outcome.registry rest
      match printed with
      | .ok _ => others.after events
      | .error (.error _ _) => (others.after events).failed
      | .error (.fault fault) => { events, ending := .fault fault }

/-- Analyzes a source text from standard input. -/
def analyzeInput (components : Components) (settings : Settings) (options : Options)
    (input : List Char) : Run :=
  let source := Source.text (CodePoint.ofChars (Text.normalizeNewlines input))
  let outcome :=
    analyzeSource components.parser .empty settings source options.language options.name
  let printed := printedResult components.screen settings outcome.result
  let events := outcomeEvents outcome.records printed
  match printed with
  | .ok _ => { events }
  | .error (.error _ _) => { events, ending := .failure }
  | .error (.fault fault) => { events, ending := .fault fault }

/-- Loads the settings and goes on with them. -/
def withSettings (surroundings : Surroundings) (options : Options) (next : Settings → Run) : Run :=
  match loadSettings surroundings options.config options.values with
  | .ok settings => { next settings with verbosity := some settings.verbosity }
  | .error failure => .ofFailure failure

/-! ## All commands -/

/-- The name of the program. -/
def programName : String := "complexity-insight"

/-- The version of the program. -/
def programVersion : String := "0.3.0"

/-- How the program is used. -/
def usage : String :=
  s!"Usage: {programName} [--version] [--help] COMMAND [ARGS]...\n" ++
  "Commands:\n" ++
  "  analyze    Compute cyclomatic complexity for each function in PATHS.\n" ++
  "  code       Compute cyclomatic complexity for source code read from stdin.\n" ++
  "  languages  Show supported language keys and the extensions mapped to them.\n"

/-- Runs a command. -/
def Command.run (components : Components) (surroundings : Surroundings) (input : List Char) :
    Command → Run
  | .analyze options paths =>
      withSettings surroundings options fun settings =>
        analyzePaths components settings surroundings.files options.language .empty paths
  | .code options =>
      withSettings surroundings options fun settings =>
        analyzeInput components settings options input
  | .languages => { events := [.printed (components.screen.table languageTable)] }
  | .version =>
      { events := [.printed (components.screen.line s!"{programName} {programVersion}")] }
  | .help => { events := [.printed usage] }

/-- Runs the program. -/
def run (components : Components) (surroundings : Surroundings) (words : List String)
    (input : List Char) : Run :=
  match Command.read words with
  | .ok command => command.run components surroundings input
  | .error (.usage error) =>
      { events := [.advised s!"{usage}Error: {error.message}\n"], ending := .misuse }
  | .error (.fault fault) => { ending := .fault fault }

end Cyclomatic.CommandLine
