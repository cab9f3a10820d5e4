import Cyclomatic.Java.Parser
import Cyclomatic.Log
import Cyclomatic.Registry
import Cyclomatic.Report
import Cyclomatic.Settings
import Cyclomatic.Validation

/-!
# Analysis

Source texts and files are validated, their language is found out, and their units are scored, those
of Java by the tree that a parser makes. An analysis also yields the records that it logged, even if
it failed in the end.
-/

namespace Cyclomatic

/-- What an analysis yields. -/
structure Outcome where
  result : Except Failure Report
  registry : Registry
  records : List Record

/-- The report on a scan of assembler source. -/
def assemblyReport (language : Language) (fileName : FileName)
    (scanned : UnitTable × List Assembly.ScanRemark) : Report × List Record :=
  (⟨fileName, language.displayName, scanned.1⟩, scanned.2.map Record.ofScan)

/-- The report on a Java syntax tree. -/
def javaReport (fileName : FileName) (tree : Node) : Report × List Record :=
  let units := Java.unitsOf tree
  (⟨fileName, Language.java.displayName, units⟩, [.methodsFound units.size fileName.shown])

/-- The outcome of an analysis of a tree that could perhaps not be made. -/
def javaOutcome (fileName : FileName) (tree : Except Fault Node) :
    Except Failure (Report × List Record) :=
  match tree with
  | .ok tree => .ok (javaReport fileName tree)
  | .error fault => .error (Java.treeFailure fileName.shown fault)

/-- Scores the units of a source text. -/
def calculate (parser : Java.Parser) (language : Language) (source : List CodePoint)
    (fileName : FileName) : Except Failure (Report × List Record) :=
  let scored (dialect : Assembly.Dialect) : Report × List Record :=
    assemblyReport language fileName
      (Assembly.unitsAndRemarks dialect (CodePoint.toChars source) fileName.shown)
  match language with
  | .java => javaOutcome fileName (parser source)
  | .x86 => .ok (scored .x86)
  | .mos6502 => .ok (scored .mos6502)

/-- Scores the units of assembler source with a transition that may fail. -/
def calculateWith (step : Assembly.FallibleStep) (dialect : Assembly.Dialect)
    (language : Language) (source : List Char) (fileName : FileName) :
    Except Failure (Report × List Record) :=
  (Assembly.unitsWith step dialect source fileName.shown).map (assemblyReport language fileName)

/-- Scores the units of a source text with a calculator, in the language that it is for. -/
def Calculator.calculate (parser : Java.Parser) (calculator : Calculator)
    (source : List CodePoint) (fileName : FileName) : Except Failure (Report × List Record) :=
  Cyclomatic.calculate parser calculator.language source fileName

/-- What is logged when a calculator is taken from the registry. -/
def creationRecords (registry : Registry) (language : Language) : List Record :=
  match registry.cached? language with
  | some _ => []
  | none => [.created language]

/-- Ends an analysis, given the records logged before the calculation. -/
def Outcome.ofCalculation (registry : Registry) (records : List Record)
    (result : Except Failure (Report × List Record)) : Outcome :=
  match result with
  | .ok (report, more) => ⟨.ok report, registry, records ++ more⟩
  | .error failure => ⟨.error failure, registry, records⟩

/-- An analysis that failed before anything was logged. -/
def Outcome.ofFailure (registry : Registry) (failure : Failure) : Outcome :=
  ⟨.error failure, registry, []⟩

/-- A name without the blanks around it, if there is one. -/
def givenName (fileName : Option String) : Option String :=
  match fileName with
  | some name =>
      let trimmed := String.ofList (Text.trim name.toList)
      if trimmed == "" then none else some trimmed
  | none => none

/-- Analyzes a source text. Its name serves to find out its language, too. -/
def analyzeSource (parser : Java.Parser) (registry : Registry) (settings : Settings)
    (source : Source) (language fileName : Option String) : Outcome :=
  match validateSource source settings.maxSourceLength "source_code" with
  | .error failure => .ofFailure registry failure
  | .ok text =>
      let name := givenName fileName
      match Registry.resolve language name with
      | .error error => .ofFailure registry (.ofError error)
      | .ok language =>
          let shown := (name.map FileName.text).getD settings.defaultFileName
          let records := creationRecords registry language ++ [.analyzing shown.shown language]
          let taken := registry.get language
          .ofCalculation taken.2 records (taken.1.calculate parser text shown)

/-- Analyzes a file. It is reported under the path as it was given. -/
def analyzeFile (parser : Java.Parser) (registry : Registry) (settings : Settings)
    (files : FileTree) (given : Value) (language : Option String) : Outcome :=
  match settings.maxFileSizeBytes with
  | .error fault => .ofFailure registry (.fault fault)
  | .ok maxSize =>
      match validatePath files given (.int maxSize) "file_path" with
      | .error failure => .ofFailure registry failure
      | .ok path =>
          match Registry.resolve language (some path.text) with
          | .error error => .ofFailure registry (.ofError error)
          | .ok language =>
              match readSource files path with
              | .error failure => .ofFailure registry failure
              | .ok text =>
                  let records := .analyzing path.text language :: creationRecords registry language
                  let taken := registry.get language
                  .ofCalculation taken.2 records
                    (taken.1.calculate parser (CodePoint.ofChars text) (shownPath given))

end Cyclomatic
