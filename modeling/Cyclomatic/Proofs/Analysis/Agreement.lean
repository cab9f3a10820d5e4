import Cyclomatic.Proofs.Analysis.Outcome
import Cyclomatic.Proofs.Assembly.Accounting
import Cyclomatic.Proofs.Text.Blank
import Cyclomatic.Proofs.Text.Utf8

/-! # Files and texts agree

A file is decoded and its line terminators are rewritten before it is scanned, a text is scanned as
it was given. For assembler source both ways lead to the same lines, so a file that holds a text is
reported like the text itself. -/

namespace Cyclomatic

open Text

/-! ## What is read of a file -/

theorem sourceOfBytes_toUTF8 (text : String) :
    sourceOfBytes text.toUTF8 = normalizeNewlines text.toList := by
  rw [sourceOfBytes, decode_toUTF8]

/-! ## What is taken of a text -/

theorem validateSource_of_text {text : String} {limit : Number}
    (hblank : allBlank text.toList = false) (hlength : limit.below text.length = false)
    (field : String) :
    validateSource (.ofString text) limit field = .ok (CodePoint.ofChars text.toList) := by
  rw [← String.length_toList] at hlength
  simp [validateSource, Source.ofString, CodePoint.allBlank, hblank, hlength]

theorem Language.ofKey?_of_blank {key : String} (h : allBlank key.toList = true) :
    Language.ofKey? key = none := by
  have htrim : trim key.toList = [] := (trim_eq_nil_iff _).mpr (List.all_eq_true.mp h)
  have hkey : Language.normalizeKey key = "" := by
    rw [Language.normalizeKey, htrim]
    rfl
  rw [Language.ofKey?, hkey]
  rfl

/-- A key that names a language decides it, whatever the file is called. -/
theorem Registry.resolve_of_key {key : String} {language : Language}
    (h : Language.ofKey? key = some language) (path : Option String) :
    Registry.resolve (some key) path = .ok language := by
  have hblank : allBlank key.toList = false := by
    rw [Bool.eq_false_iff]
    intro hb
    cases h.symm.trans (Language.ofKey?_of_blank hb)
  simp [Registry.resolve, hblank, h]

/-! ## What is scored -/

/-- A file that passes all checks is scored in the language that was found out for it. -/
theorem analyzeFile_of_resolve {language : Language} {key : Option String} {settings : Settings}
    {limit : Int} {files : FileTree} {given : Value} {path : Path} {content : ByteArray}
    (hresolve : Registry.resolve key (some path.text) = .ok language)
    (hlimit : settings.maxFileSizeBytes = .ok limit) (hsize : content.size ≤ limit)
    (hfull : content.size ≠ 0) (hgiven : isBlankPath given = false)
    (hpath : pathOf given = .ok path) (hfile : files.lookup path = .ok (.file content))
    (parser : Java.Parser) (registry : Registry) :
    (analyzeFile parser registry settings files given key).result =
      (calculate parser language (CodePoint.ofChars (sourceOfBytes content))
        (shownPath given)).map (·.1) := by
  have hvalid := validatePath_of_file hgiven hpath hfile hsize hfull "file_path"
  rw [analyzeFile_result, hlimit]
  simp only [bind, Except.bind, mapError_ok, hvalid, hresolve, readSource_of_file hfile]

/-- A key that names a language decides in which language a file is scored. -/
theorem analyzeFile_of_key {language : Language} {key : String} {settings : Settings} {limit : Int}
    {files : FileTree} {given : Value} {path : Path} {content : ByteArray}
    (hkey : Language.ofKey? key = some language)
    (hlimit : settings.maxFileSizeBytes = .ok limit) (hsize : content.size ≤ limit)
    (hfull : content.size ≠ 0) (hgiven : isBlankPath given = false)
    (hpath : pathOf given = .ok path) (hfile : files.lookup path = .ok (.file content))
    (parser : Java.Parser) (registry : Registry) :
    (analyzeFile parser registry settings files given (some key)).result =
      (calculate parser language (CodePoint.ofChars (sourceOfBytes content))
        (shownPath given)).map (·.1) :=
  analyzeFile_of_resolve (Registry.resolve_of_key hkey (some path.text)) hlimit hsize hfull hgiven
    hpath hfile parser registry

/-- A text that is neither blank nor too long is scored in the language that its key names. -/
theorem analyzeSource_of_key {language : Language} {key text : String} {settings : Settings}
    (hkey : Language.ofKey? key = some language) (hblank : allBlank text.toList = false)
    (hlength : settings.maxSourceLength.below text.length = false)
    (parser : Java.Parser) (registry : Registry) (fileName : Option String) :
    (analyzeSource parser registry settings (.ofString text) (some key) fileName).result =
      (calculate parser language (CodePoint.ofChars text.toList)
        (((givenName fileName).map FileName.text).getD settings.defaultFileName)).map (·.1) := by
  have hvalid := validateSource_of_text hblank hlength "source_code"
  have hresolve := Registry.resolve_of_key hkey (givenName fileName)
  rw [analyzeSource_result, hvalid]
  simp only [bind, Except.bind, mapError_ok, hresolve]

namespace Assembly

/-! ## What is scanned -/

theorem cleanLines_normalizeNewlines (source : List Char) :
    cleanLines (normalizeNewlines source) = cleanLines source := by
  have hlines : sourceLines (normalizeNewlines source) = sourceLines source :=
    sourceLinesOnto_normalizeNewlines [] [] source
  rw [cleanLines, hlines, cleanLines]

/-- The units depend on the lines that are scanned and on nothing else. -/
theorem unitsAndRemarks_of_cleanLines {source other : List Char}
    (h : cleanLines source = cleanLines other) (dialect : Dialect) (fileName otherName : String) :
    (unitsAndRemarks dialect source fileName).1 = (unitsAndRemarks dialect other otherName).1 := by
  have hscan : scanUnits dialect source = scanUnits dialect other := by
    rw [scanUnits, scanUnits, h]
  rw [unitsAndRemarks_fst, unitsAndRemarks_fst, hscan, h]

/-! ## The reports -/

theorem analyzeFile_of_file {dialect : Dialect} {key : String} {settings : Settings} {limit : Int}
    {files : FileTree} {given : Value} {path : Path} {content : ByteArray}
    (hkey : Language.ofKey? key = some dialect.language)
    (hlimit : settings.maxFileSizeBytes = .ok limit) (hsize : content.size ≤ limit)
    (hfull : content.size ≠ 0) (hgiven : isBlankPath given = false)
    (hpath : pathOf given = .ok path) (hfile : files.lookup path = .ok (.file content))
    (parser : Java.Parser) (registry : Registry) :
    (analyzeFile parser registry settings files given (some key)).result =
      .ok (assemblyReport dialect.language (shownPath given)
        (unitsAndRemarks dialect (sourceOfBytes content) (shownPath given))).1 := by
  rw [analyzeFile_of_key hkey hlimit hsize hfull hgiven hpath hfile parser registry, calculate_eq]
  rfl

theorem analyzeSource_of_text {dialect : Dialect} {key text : String} {settings : Settings}
    (hkey : Language.ofKey? key = some dialect.language)
    (hblank : allBlank text.toList = false)
    (hlength : settings.maxSourceLength.below text.length = false)
    (parser : Java.Parser) (registry : Registry) (fileName : Option String) :
    ∃ shown : FileName,
      (analyzeSource parser registry settings (.ofString text) (some key) fileName).result =
        .ok (assemblyReport dialect.language shown
          (unitsAndRemarks dialect text.toList shown.shown)).1 := by
  refine ⟨((givenName fileName).map FileName.text).getD settings.defaultFileName, ?_⟩
  rw [analyzeSource_of_key hkey hblank hlength parser registry fileName, calculate_eq]
  rfl

/-- Two reports agree in all but the name of the file. -/
structure SameFigures (report other : Report) : Prop where
  language : report.language = other.language
  units : report.units.entries = other.units.entries
  unitCount : report.unitCount = other.unitCount
  totalComplexity : report.totalComplexity = other.totalComplexity
  maxComplexity : report.maxComplexity = other.maxComplexity
  mostComplexUnit : report.mostComplexUnit = other.mostComplexUnit

theorem SameFigures.of_units {report other : Report} (hl : report.language = other.language)
    (hu : report.units = other.units) : SameFigures report other := by
  obtain ⟨fileName, language, units⟩ := report
  obtain ⟨otherName, otherLanguage, otherUnits⟩ := other
  obtain rfl : units = otherUnits := hu
  exact ⟨hl, rfl, rfl, rfl, rfl, rfl⟩

/-- A file that holds the encoding of a text gets the report of the text, if it is not too large and
the text is neither blank nor too long. The line terminators may be of any kind. -/
theorem analyzeFile_agrees_analyzeSource (parser : Java.Parser) (dialect : Dialect)
    (text key : String) (settings : Settings) (limit : Int) (files : FileTree) (given : Value)
    (path : Path) (fileName : Option String) (registry other : Registry)
    (hkey : Language.ofKey? key = some dialect.language)
    (hblank : allBlank text.toList = false)
    (hlength : settings.maxSourceLength.below text.length = false)
    (hlimit : settings.maxFileSizeBytes = .ok limit) (hsize : text.utf8ByteSize ≤ limit)
    (hgiven : isBlankPath given = false) (hpath : pathOf given = .ok path)
    (hfile : files.lookup path = .ok (.file text.toUTF8)) :
    ∃ ofFile ofText,
      (analyzeFile parser registry settings files given (some key)).result = .ok ofFile ∧
      (analyzeSource parser other settings (.ofString text) (some key) fileName).result =
        .ok ofText ∧
      SameFigures ofFile ofText := by
  have hbytes : text.toUTF8.size = text.utf8ByteSize := String.size_toByteArray
  have hfull : text.toUTF8.size ≠ 0 := by
    rw [hbytes, Ne, String.utf8ByteSize_eq_zero_iff]
    rintro rfl
    cases hblank
  have hofFile :=
    analyzeFile_of_file hkey hlimit (hbytes ▸ hsize) hfull hgiven hpath hfile parser registry
  obtain ⟨shown, hofText⟩ := analyzeSource_of_text hkey hblank hlength parser other fileName
  refine ⟨_, _, hofFile, hofText, .of_units rfl ?_⟩
  apply unitsAndRemarks_of_cleanLines
  rw [sourceOfBytes_toUTF8, cleanLines_normalizeNewlines]

/-- All three line terminators, and characters of two and three bytes. -/
theorem analyzeFile_agrees_of_mixed_lines :
    let text := "f: ; é\r\nBEQ →\rRTS\n"
    let files := (FileTree.bare "" ["work"] ["home"]).add ["work", "a.s65"] (.file text.toUTF8)
    let settings : Settings := { maxFileSizeMb := .int 1 }
    let parser := Java.parse none
    ∃ ofFile ofText,
      (analyzeFile parser .empty settings files (.text "a.s65") (some " 6502")).result =
        .ok ofFile ∧
      (analyzeSource parser .empty settings (.ofString text) (some " 6502") none).result =
        .ok ofText ∧
      SameFigures ofFile ofText := by
  intro text files settings parser
  refine analyzeFile_agrees_analyzeSource parser .mos6502 text " 6502" settings 1048576 files
    (.text "a.s65") (Path.ofString "a.s65") none .empty .empty ?_ ?_ ?_ ?_ ?_ ?_ ?_ ?_
  · decide
  · decide
  · decide
  · rfl
  · decide
  · decide
  · rfl
  · rfl

end Assembly

end Cyclomatic
