import Cyclomatic.Analysis

/-! # The result of an analysis

An analysis is a chain of stages, each of which may end it. The registry only supplies a calculator
for the language that was found out, so the result does not depend on it. -/

namespace Cyclomatic

theorem Registry.language_get (registry : Registry) (language : Language) :
    (registry.get language).1.language = language := by
  unfold Registry.get
  cases hfound : registry.cached? language with
  | none => rfl
  | some calculator =>
      have hlanguage := List.find?_some hfound
      exact eq_of_beq hlanguage

theorem Outcome.ofCalculation_result (registry : Registry) (records : List Record)
    (result : Except Failure (Report × List Record)) :
    (Outcome.ofCalculation registry records result).result = result.map (·.1) := by
  cases result <;> rfl

theorem Outcome.ofCalculation_registry (registry : Registry) (records : List Record)
    (result : Except Failure (Report × List Record)) :
    (Outcome.ofCalculation registry records result).registry = registry := by
  cases result <;> rfl

theorem Calculator.calculate_get (parser : Java.Parser) (registry : Registry)
    (language : Language) (source : List CodePoint) (fileName : FileName) :
    (registry.get language).1.calculate parser source fileName =
      Cyclomatic.calculate parser language source fileName := by
  rw [Calculator.calculate, Registry.language_get]

@[simp] theorem mapError_ok {ε ε' α : Type} (f : ε → ε') (a : α) :
    (Except.ok a).mapError f = .ok a := rfl

@[simp] theorem mapError_error {ε ε' α : Type} (f : ε → ε') (error : ε) :
    (Except.error error : Except ε α).mapError f = .error (f error) := rfl

/-- A source text is validated, its language is found out, and it is scored. -/
theorem analyzeSource_result (parser : Java.Parser) (registry : Registry) (settings : Settings)
    (source : Source) (language fileName : Option String) :
    (analyzeSource parser registry settings source language fileName).result = (do
      let text ← validateSource source settings.maxSourceLength "source_code"
      let name := givenName fileName
      let language ← (Registry.resolve language name).mapError Failure.ofError
      (calculate parser language text
        ((name.map FileName.text).getD settings.defaultFileName)).map (·.1)) := by
  unfold analyzeSource
  simp only [bind, Except.bind]
  cases validateSource source settings.maxSourceLength "source_code" with
  | error failure => rfl
  | ok text =>
      cases Registry.resolve language (givenName fileName) with
      | error error => rfl
      | ok found => simp only [mapError_ok, Outcome.ofCalculation_result, Calculator.calculate_get]

/-- For a file, the limit of its size is worked out first, and it is read before it is scored. -/
theorem analyzeFile_result (parser : Java.Parser) (registry : Registry) (settings : Settings)
    (files : FileTree) (given : Value) (language : Option String) :
    (analyzeFile parser registry settings files given language).result = (do
      let maxSize ← settings.maxFileSizeBytes.mapError Failure.fault
      let path ← validatePath files given (.int maxSize) "file_path"
      let language ← (Registry.resolve language (some path.text)).mapError Failure.ofError
      let text ← readSource files path
      (calculate parser language (CodePoint.ofChars text) (shownPath given)).map (·.1)) := by
  unfold analyzeFile
  simp only [bind, Except.bind]
  cases settings.maxFileSizeBytes with
  | error fault => rfl
  | ok maxSize =>
      simp only [mapError_ok]
      cases validatePath files given (.int maxSize) "file_path" with
      | error failure => rfl
      | ok path =>
          dsimp only
          cases Registry.resolve language (some path.text) with
          | error error => rfl
          | ok found =>
              simp only [mapError_ok]
              cases readSource files path with
              | error failure => rfl
              | ok text => simp only [Outcome.ofCalculation_result, Calculator.calculate_get]

/-! ## Files -/

theorem validatePath_of_file {files : FileTree} {given : Value} {path : Path}
    {content : ByteArray} {limit : Int} (hgiven : isBlankPath given = false)
    (hpath : pathOf given = .ok path) (hfile : files.lookup path = .ok (.file content))
    (hsize : content.size ≤ limit) (hfull : content.size ≠ 0) (field : String) :
    validatePath files given (.int limit) field = .ok path := by
  have hexists : files.pathExists path = .ok true := by
    rw [FileTree.pathExists, hfile]
    rfl
  have hbelow : (Number.int limit).below content.size = false := by
    simpa [Number.below, Number.floor] using hsize
  have hcheck : checkFile field (shownPath given) (.int limit) (.file content) = .ok () := by
    simp [checkFile, Entry.size?, hbelow, hfull]
  simp only [validatePath, hgiven, hpath, hexists, hfile, hcheck]
  rfl

theorem readSource_of_file {files : FileTree} {path : Path} {content : ByteArray}
    (hfile : files.lookup path = .ok (.file content)) :
    readSource files path = .ok (sourceOfBytes content) := by
  rw [readSource, FileTree.read, hfile]
  rfl

end Cyclomatic
