import Cyclomatic.Proofs.Analysis.Outcome
import Cyclomatic.Proofs.Settings.Faults
import Cyclomatic.Proofs.Text.CodePoint

/-! # The failures of a file's analysis

Whatever a file is and holds, its analysis yields a report or an error of one of four kinds. A fault
comes out in two cases only: the limit of the file size is no finite number of bytes, or the path is
too long for the file system or leads through a directory that may not be searched. -/

namespace Cyclomatic

/-- Whether a failure is one that an analysis may report. -/
def Failure.isOfAnalysis : Failure → Bool
  | .error reported _ =>
      [ErrorKind.validation, .unsupportedLanguage, .parsing, .calculation].contains reported.kind
  | .fault _ => false

/-- Whether an outcome is a failure that no analysis may report. -/
def breaksOut {α : Type} (outcome : Except Failure α) : Bool :=
  failsWith (fun failure => !failure.isOfAnalysis) outcome

/-! ## The stages -/

theorem megabytes_eq_error_iff (number : Number) :
    (∃ reason, number.megabytes = .error reason) ↔
      ∃ x, number = .float x ∧ Binary.ofFloat? (x * 1024 * 1024) = none := by
  cases number with
  | int n => simp [Number.megabytes]
  | bool b => simp [Number.megabytes]
  | float x =>
      cases h : Binary.ofFloat? (x * 1024 * 1024) <;> simp [Number.megabytes, Number.truncate, h]

theorem breaksOut_maxFileSizeBytes (settings : Settings) :
    breaksOut (settings.maxFileSizeBytes.mapError Failure.fault) = true ↔
      ∃ reason, settings.maxFileSizeMb.megabytes = .error reason := by
  unfold Settings.maxFileSizeBytes
  rcases settings.maxFileSizeMb.megabytes with reason | size
  · cases reason <;> simp [breaksOut, failsWith, Failure.isOfAnalysis]
  · simp [breaksOut, failsWith]

theorem breaksOut_checkFile (field shown : String) (maxSize : Number) (entry : Entry) :
    breaksOut (checkFile field shown maxSize entry) = false := by
  unfold checkFile
  cases entry.size? with
  | some size =>
      dsimp only
      split
      · rfl
      · split <;> rfl
  | none => rfl

/-- Whether a path that a caller gave cannot be looked up: it is no path, or too long, or the way is
barred. -/
def UnusablePath (files : FileTree) (given : Value) : Prop :=
  isBlankPath given = false ∧
    ((∃ fault, pathOf given = .error fault) ∨
      ∃ path, pathOf given = .ok path ∧
        (files.lookup path = .error .nameTooLong ∨ files.lookup path = .error .forbidden))

theorem breaksOut_validatePath (files : FileTree) (given : Value) (maxSize : Number)
    (field : String) :
    breaksOut (validatePath files given maxSize field) = true ↔ UnusablePath files given := by
  unfold validatePath UnusablePath
  cases isBlankPath given with
  | true => simp [breaksOut, failsWith, refuse, Failure.ofError, Failure.isOfAnalysis, Error.kind]
  | false =>
      cases pathOf given with
      | error fault => simp [breaksOut, failsWith, Failure.isOfAnalysis]
      | ok path =>
          cases hlookup : files.lookup path with
          | error refusal =>
              cases refusal <;> simp [FileTree.pathExists, FileTree.found, hlookup, breaksOut,
                failsWith, refuse, Failure.ofError, Failure.isOfAnalysis, Error.kind]
          | ok entry =>
              have hcheck : breaksOut ((checkFile field (shownPath given) maxSize entry).map
                  fun _ => path) = false :=
                failsWith_map.trans (breaksOut_checkFile field (shownPath given) maxSize entry)
              simp [FileTree.pathExists, FileTree.found, hlookup, hcheck]

theorem breaksOut_unsupported (language : String) :
    breaksOut ((.error (Registry.unsupported language) : Except Error Language).mapError
      Failure.ofError) = false := rfl

theorem breaksOut_resolvePath (path : Option String) :
    breaksOut ((Registry.resolvePath path).mapError Failure.ofError) = false := by
  cases path with
  | none => exact breaksOut_unsupported _
  | some path =>
      unfold Registry.resolvePath
      dsimp only
      split
      · exact breaksOut_unsupported _
      · split
        · rfl
        · exact breaksOut_unsupported _

theorem breaksOut_resolve (key path : Option String) :
    breaksOut ((Registry.resolve key path).mapError Failure.ofError) = false := by
  cases key with
  | none => exact breaksOut_resolvePath path
  | some key =>
      unfold Registry.resolve
      dsimp only
      split
      · exact breaksOut_resolvePath path
      · split
        · rfl
        · exact breaksOut_unsupported _

theorem exists_size_of_checkFile {field shown : String} {maxSize : Number} {entry : Entry}
    (h : checkFile field shown maxSize entry = .ok ()) : ∃ size, entry.size? = some size := by
  unfold checkFile at h
  cases hsize : entry.size? with
  | some size => exact ⟨size, rfl⟩
  | none =>
      rw [hsize] at h
      cases h

/-- A path that passes leads to a file, which may not be readable. -/
theorem exists_size_of_validatePath {files : FileTree} {given : Value} {maxSize : Number}
    {field : String} {path : Path} (h : validatePath files given maxSize field = .ok path) :
    ∃ entry size, files.lookup path = .ok entry ∧ entry.size? = some size := by
  unfold validatePath at h
  split at h
  · cases h
  · split at h
    · cases h
    · rename_i found hfound
      split at h
      · cases h
      · rename_i entry hexists hlookup
        cases hcheck : checkFile field (shownPath given) maxSize entry with
        | error failure => simp [hcheck, Except.map] at h
        | ok _ =>
            rw [hcheck] at h
            obtain rfl : found = path := Except.ok.inj h
            obtain ⟨size, hsize⟩ := exists_size_of_checkFile hcheck
            exact ⟨entry, size, hlookup, hsize⟩
      · cases h

/-- A file that cannot be read is an error of the calculation. -/
theorem breaksOut_readSource {files : FileTree} {path : Path} {entry : Entry} {size : Nat}
    (hentry : files.lookup path = .ok entry) (hsize : entry.size? = some size) :
    breaksOut (readSource files path) = false := by
  cases entry with
  | file content =>
      rw [readSource_of_file hentry]
      rfl
  | locked size =>
      rw [readSource, FileTree.read, hentry]
      rfl
  | directory => cases hsize
  | closed => cases hsize
  | pipe => cases hsize

/-- A missing parser and an error in a tree become errors, and characters have an encoding. -/
theorem breaksOut_calculate (package : Java.Package) (language : Language) (source : List Char)
    (fileName : FileName) :
    breaksOut (calculate (Java.parse package) language (CodePoint.ofChars source) fileName) =
      false := by
  cases language with
  | java =>
      unfold calculate
      cases package with
      | none => rfl
      | some make =>
          simp only [Java.parse, CodePoint.encode_ofChars, Java.SyntaxTree.checked]
          split <;> rfl
  | x86 => rfl
  | mos6502 => rfl

/-! ## The analysis -/

/-- After its path has passed, nothing can go wrong with a file that is not reported. -/
theorem breaksOut_afterPath {files : FileTree} {given : Value} {maxSize : Number} {field : String}
    {path : Path} (h : validatePath files given maxSize field = .ok path) (package : Java.Package)
    (language : Option String) :
    breaksOut (do
      let language ← (Registry.resolve language (some path.text)).mapError Failure.ofError
      let text ← readSource files path
      (calculate (Java.parse package) language (CodePoint.ofChars text) (shownPath given)).map
        (·.1)) = false := by
  obtain ⟨entry, size, hentry, hsize⟩ := exists_size_of_validatePath h
  rw [breaksOut, failsWith_bind_of_never]
  · exact breaksOut_resolve language _
  · intro found
    rw [failsWith_bind_of_never]
    · exact breaksOut_readSource hentry hsize
    · intro text
      exact failsWith_map.trans (breaksOut_calculate package found text _)

/-- The analysis of a file fails with something else than a refused input, an unknown language, a
syntax error or an error of the calculation in these cases only: the limit of the file size is a
floating point number that is no finite number of bytes, or what was given is no path or one that
is too long or barred. -/
theorem analyzeFile_breaksOut_iff (package : Java.Package) (registry : Registry)
    (settings : Settings) (files : FileTree) (given : Value) (language : Option String) :
    breaksOut (analyzeFile (Java.parse package) registry settings files given language).result =
        true ↔
      (∃ x, settings.maxFileSizeMb = .float x ∧ Binary.ofFloat? (x * 1024 * 1024) = none) ∨
        UnusablePath files given := by
  have hpath (maxSize : Int) : breaksOut (do
      let path ← validatePath files given (.int maxSize) "file_path"
      let language ← (Registry.resolve language (some path.text)).mapError Failure.ofError
      let text ← readSource files path
      (calculate (Java.parse package) language (CodePoint.ofChars text) (shownPath given)).map
        (·.1)) = true ↔
        UnusablePath files given := by
    rw [← breaksOut_validatePath files given (.int maxSize) "file_path"]
    refine failsWith_bind.trans (or_iff_left ?_)
    rintro ⟨path, hvalid, hafter⟩
    cases (breaksOut_afterPath hvalid package language).symm.trans hafter
  rw [analyzeFile_result, ← megabytes_eq_error_iff, ← breaksOut_maxFileSizeBytes]
  refine failsWith_bind.trans (or_congr_right' ?_)
  intro hlimit
  cases hsize : settings.maxFileSizeBytes with
  | error fault =>
      rw [hsize] at hlimit
      exact absurd rfl hlimit
  | ok maxSize => simpa [breaksOut] using hpath maxSize

/-- An unbounded limit, an undefined one and one that is too large once it is counted in bytes all
pass the checks of the settings. -/
theorem analyzeFile_faults_of_accepted_settings :
    let files := FileTree.bare "" ["work"] ["home"]
    let analyze (limit : Float) : Except Fault (Except Failure Report) := do
      let settings ← Settings.ofNamed (.ofList [("max_file_size_mb", .float limit)])
      .ok (analyzeFile (Java.parse none) .empty settings files (.text "a.asm") none).result
    analyze (1.0 / 0.0) =
        .ok (.error (.fault ⟨.overflow, "cannot convert float infinity to integer"⟩)) ∧
      analyze (0.0 / 0.0) =
        .ok (.error (.fault ⟨.invalidValue, "cannot convert float NaN to integer"⟩)) ∧
      analyze (Float.ofBits 0x7fe0000000000000) =
        .ok (.error (.fault ⟨.overflow, "cannot convert float infinity to integer"⟩)) := by
  refine ⟨?_, ?_, ?_⟩
  · rfl
  · rfl
  · rfl

end Cyclomatic
