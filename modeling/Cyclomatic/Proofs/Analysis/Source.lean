import Cyclomatic.Proofs.Analysis.Outcome
import Cyclomatic.Proofs.Text.Blank
import Cyclomatic.Proofs.Text.CodePoint
import Mathlib.Data.List.Infix

/-! # What comes of a source text

The analysis of a text that is given directly ends in one of five ways, and what was given decides
which one: the text is refused, its language is not known, it is Java in whose tree there is an
error, it is Java that has no encoding, or there is a report. An input that is wrong in several ways
ends in the first of them. Only a text without an encoding lets a fault out, and whatever makes the
trees of Java has no influence on any of this but for the errors in its trees. -/

namespace Cyclomatic

open Text

/-! ## The text -/

/-- A text that is blank or longer than the limit. -/
def IsRefused (limit : Int) (source : List CodePoint) : Prop :=
  (∀ point ∈ source, ∃ c, point = .char c ∧ isBlank c = true) ∨ limit < source.length

/-- A text is refused with a reason or taken as it is. -/
theorem validateSource_cases (limit : Int) (source : List CodePoint) (field : String) :
    (IsRefused limit source ∧
      ∃ reason, validateSource (.text source) (.int limit) field = .error (refuse field reason)) ∨
    (¬ IsRefused limit source ∧
      validateSource (.text source) (.int limit) field = .ok source) := by
  have hbelow : (Number.int limit).below source.length = true ↔ limit < source.length :=
    decide_eq_true_iff
  by_cases hblank : CodePoint.allBlank source = true
  · exact Or.inl ⟨Or.inl ((CodePoint.allBlank_iff source).mp hblank), _, if_pos hblank⟩
  · by_cases hlong : limit < source.length
    · exact Or.inl ⟨Or.inr hlong, _, (if_neg hblank).trans (if_pos (hbelow.mpr hlong))⟩
    · refine Or.inr ⟨?_, (if_neg hblank).trans (if_neg (mt hbelow.mp hlong))⟩
      rintro (hrefused | hrefused)
      · exact hblank ((CodePoint.allBlank_iff source).mpr hrefused)
      · exact hlong hrefused

/-! ## The language -/

/-- No key is given, or a blank one. -/
def NoKey (key : Option String) : Prop :=
  key = none ∨ ∃ given, key = some given ∧ allBlank given.toList = true

/-- The language of a text: the one that a key names, or without a key the one that the name of the
text is like. -/
inductive Resolves (key fileName : Option String) (language : Language) : Prop where
  | byKey {given : String} (hgiven : key = some given) (hblank : allBlank given.toList = false)
      (hkey : language.key = Language.normalizeKey given)
  | byName {given extension : String} (hkey : NoKey key) (hgiven : fileName = some given)
      (hextension : extension ∈ language.extensions)
      (hends : extension.toList <:+ lower (trim given.toList))

/-- The ways in which a text has no known language. -/
inductive NoLanguage (key fileName : Option String) : Prop where
  | unknownKey {given : String} (hgiven : key = some given) (hblank : allBlank given.toList = false)
      (hkey : ∀ language : Language, language.key ≠ Language.normalizeKey given)
  | noName (hkey : NoKey key) (hname : fileName = none)
  | emptyName {given : String} (hkey : NoKey key) (hgiven : fileName = some given)
      (hempty : trim given.toList = [])
  | otherName {given : String} (hkey : NoKey key) (hgiven : fileName = some given)
      (hends : ∀ language : Language, ∀ extension ∈ language.extensions,
        ¬ extension.toList <:+ lower (trim given.toList))

theorem NoKey.not_given {key : Option String} (h : NoKey key) {given : String}
    (hgiven : key = some given) : allBlank given.toList = true := by
  rcases h with rfl | ⟨other, rfl, hblank⟩
  · cases hgiven
  · cases hgiven
    exact hblank

theorem extension_ne_nil {language : Language} {extension : String}
    (h : extension ∈ language.extensions) : extension.toList ≠ [] := by
  revert extension
  cases language <;> decide

theorem NoLanguage.not_resolves {key fileName : Option String} (h : NoLanguage key fileName)
    (language : Language) : ¬ Resolves key fileName language := by
  intro hr
  cases h with
  | unknownKey hgiven hblank hunknown =>
      cases hr with
      | byKey hgiven' _ hkey =>
          cases hgiven.symm.trans hgiven'
          exact hunknown language hkey
      | byName hkey => cases hblank.symm.trans (hkey.not_given hgiven)
  | noName hno hname =>
      cases hr with
      | byKey hgiven hblank => cases hblank.symm.trans (hno.not_given hgiven)
      | byName _ hgiven => cases hname.symm.trans hgiven
  | emptyName hno hname hempty =>
      cases hr with
      | byKey hgiven hblank => cases hblank.symm.trans (hno.not_given hgiven)
      | byName _ hgiven hextension hends =>
          cases hname.symm.trans hgiven
          rw [hempty] at hends
          exact extension_ne_nil hextension (List.suffix_nil.mp hends)
  | otherName hno hname hother =>
      cases hr with
      | byKey hgiven hblank => cases hblank.symm.trans (hno.not_given hgiven)
      | byName _ hgiven hextension hends =>
          cases hname.symm.trans hgiven
          exact hother language _ hextension hends

theorem Language.mem_all (language : Language) : language ∈ Language.all := by
  cases language <;> decide

theorem Language.key_inj {language other : Language} (h : language.key = other.key) :
    language = other := by
  revert h
  cases language <;> cases other <;> decide

/-- No path ends like the files of two languages. -/
theorem eq_of_extensions {path : List Char} {language other : Language} {extension ending : String}
    (hm : extension ∈ language.extensions) (ho : ending ∈ other.extensions)
    (h : extension.toList <:+ path) (he : ending.toList <:+ path) : language = other := by
  have hapart : ∀ language ∈ Language.all, ∀ other ∈ Language.all,
      ∀ extension ∈ language.extensions, ∀ ending ∈ other.extensions,
        extension.toList <:+ ending.toList → language = other := by decide
  rcases List.suffix_or_suffix_of_suffix h he with hs | hs
  · exact hapart language language.mem_all other other.mem_all extension hm ending ho hs
  · exact (hapart other other.mem_all language language.mem_all ending ho extension hm hs).symm

/-- A text has at most one language. -/
theorem Resolves.unique {key fileName : Option String} {language other : Language}
    (h : Resolves key fileName language) (ho : Resolves key fileName other) : language = other := by
  cases h with
  | byKey hgiven hblank hkey =>
      cases ho with
      | byKey hgiven' _ hkey' =>
          cases hgiven.symm.trans hgiven'
          exact Language.key_inj (hkey.trans hkey'.symm)
      | byName hno => cases hblank.symm.trans (hno.not_given hgiven)
  | byName hno hgiven hextension hends =>
      cases ho with
      | byKey hgiven' hblank => cases hblank.symm.trans (hno.not_given hgiven')
      | byName _ hgiven' hextension' hends' =>
          cases hgiven.symm.trans hgiven'
          exact eq_of_extensions hextension hextension' hends hends'

theorem Language.matchesPath_iff (language : Language) (path : String) :
    language.matchesPath path = true ↔
      ∃ extension ∈ language.extensions, extension.toList <:+ lower path.toList := by
  simp [Language.matchesPath, List.any_eq_true, List.isSuffixOf_iff_suffix]

theorem Language.ofPath?_eq_some {path : String} {language : Language}
    (h : Language.ofPath? path = some language) :
    ∃ extension ∈ language.extensions, extension.toList <:+ lower path.toList := by
  unfold Language.ofPath? at h
  have hmatch := List.find?_some h
  exact (language.matchesPath_iff path).mp hmatch

theorem Language.ofPath?_eq_none {path : String} (h : Language.ofPath? path = none)
    (language : Language) {extension : String} (hm : extension ∈ language.extensions) :
    ¬ extension.toList <:+ lower path.toList := by
  intro hends
  have hmatch := (language.matchesPath_iff path).mpr ⟨extension, hm, hends⟩
  exact List.find?_eq_none.mp h language language.mem_all hmatch

theorem Language.ofKey?_eq_some {given : String} {language : Language}
    (h : Language.ofKey? given = some language) : language.key = Language.normalizeKey given := by
  unfold Language.ofKey? at h
  have hkey := List.find?_some h
  exact eq_of_beq hkey

theorem Language.ofKey?_eq_none {given : String} (h : Language.ofKey? given = none)
    (language : Language) : language.key ≠ Language.normalizeKey given := by
  intro hkey
  exact List.find?_eq_none.mp h language language.mem_all (beq_iff_eq.mpr hkey)

/-- Without a key, the name decides. -/
theorem resolvePath_cases {key : Option String} (h : NoKey key) (fileName : Option String) :
    (∃ language, Resolves key fileName language ∧
      Registry.resolvePath (givenName fileName) = .ok language) ∨
    (NoLanguage key fileName ∧ ∃ shown,
      Registry.resolvePath (givenName fileName) = .error (Registry.unsupported shown)) := by
  cases fileName with
  | none => exact Or.inr ⟨.noName h rfl, _, rfl⟩
  | some given =>
      by_cases hempty : trim given.toList = []
      · have hname : givenName (some given) = none := by simp [givenName, hempty]
        rw [hname]
        exact Or.inr ⟨.emptyName h rfl hempty, _, rfl⟩
      · have hname : givenName (some given) = some (String.ofList (trim given.toList)) := by
          simp [givenName, hempty]
        have hpath : ¬ (String.ofList (trim given.toList) == "") = true := by simp [hempty]
        simp only [hname, Registry.resolvePath, if_neg hpath]
        cases hfound : Language.ofPath? (String.ofList (trim given.toList)) with
        | some language =>
            obtain ⟨extension, hextension, hends⟩ := Language.ofPath?_eq_some hfound
            rw [String.toList_ofList] at hends
            exact Or.inl ⟨language, .byName h rfl hextension hends, rfl⟩
        | none =>
            refine Or.inr ⟨.otherName h rfl ?_, _, rfl⟩
            intro language extension hextension
            have hends := Language.ofPath?_eq_none hfound language hextension
            rwa [String.toList_ofList] at hends

theorem resolve_cases (key fileName : Option String) :
    (∃ language, Resolves key fileName language ∧
      Registry.resolve key (givenName fileName) = .ok language) ∨
    (NoLanguage key fileName ∧ ∃ shown,
      Registry.resolve key (givenName fileName) = .error (Registry.unsupported shown)) := by
  cases key with
  | none => exact resolvePath_cases (Or.inl rfl) fileName
  | some given =>
      cases hblank : allBlank given.toList with
      | true =>
          have hpath := resolvePath_cases (Or.inr ⟨given, rfl, hblank⟩) fileName
          simpa only [Registry.resolve, hblank, ite_true] using hpath
      | false =>
          simp only [Registry.resolve, hblank, Bool.false_eq_true, ite_false]
          cases hfound : Language.ofKey? given with
          | some language =>
              exact Or.inl ⟨language, .byKey rfl hblank (Language.ofKey?_eq_some hfound), rfl⟩
          | none =>
              exact Or.inr ⟨.unknownKey rfl hblank (Language.ofKey?_eq_none hfound), _, rfl⟩

/-! ## The report -/

/-- What is made of the bytes of a text, if it has any. -/
def IsTreeOf (make : ByteArray → Java.SyntaxTree) (source : List CodePoint)
    (tree : Java.SyntaxTree) : Prop :=
  ∃ cs, source = CodePoint.ofChars cs ∧ make (String.ofList cs).toUTF8 = tree

theorem IsTreeOf.unique {make : ByteArray → Java.SyntaxTree} {source : List CodePoint}
    {tree other : Java.SyntaxTree} (h : IsTreeOf make source tree)
    (ho : IsTreeOf make source other) : tree = other := by
  obtain ⟨cs, rfl, rfl⟩ := h
  obtain ⟨others, hsame, rfl⟩ := ho
  rw [CodePoint.ofChars_injective hsame]

theorem IsTreeOf.no_half {make : ByteArray → Java.SyntaxTree} {source : List CodePoint}
    {tree : Java.SyntaxTree} (h : IsTreeOf make source tree) (half : Fin 0x800) :
    .surrogate half ∉ source := by
  obtain ⟨cs, rfl, -⟩ := h
  exact CodePoint.surrogate_notMem_ofChars half cs

/-- The kind of the fault of a text without an encoding. -/
def encodingFault : FaultKind :=
  .special "UnicodeEncodeError" .encoding

/-- Java has a tree with an error in it or one without, or no tree at all. -/
theorem parse_cases (make : ByteArray → Java.SyntaxTree) (source : List CodePoint) :
    (∃ tree, IsTreeOf make source tree ∧ tree.hasError = true ∧
      Java.parse (some make) source = .error ⟨.syntaxError, tree.root.describeError⟩) ∨
    (∃ tree, IsTreeOf make source tree ∧ tree.hasError = false ∧
      Java.parse (some make) source = .ok tree.root) ∨
    (∃ half, .surrogate half ∈ source) ∧ ∃ text,
      Java.parse (some make) source = .error ⟨encodingFault, text⟩ := by
  rcases CodePoint.chars_or_half source with ⟨cs, rfl⟩ | ⟨half, hhalf⟩
  · have hparse : Java.parse (some make) (CodePoint.ofChars cs) =
        (make (String.ofList cs).toUTF8).checked := by
      simp only [Java.parse, CodePoint.encode_ofChars]
    rw [hparse, Java.SyntaxTree.checked]
    cases herror : (make (String.ofList cs).toUTF8).hasError with
    | true => exact Or.inl ⟨_, ⟨cs, rfl, rfl⟩, herror, rfl⟩
    | false => exact Or.inr (Or.inl ⟨_, ⟨cs, rfl, rfl⟩, herror, rfl⟩)
  · obtain ⟨error, herror⟩ := CodePoint.exists_encode_error hhalf
    refine Or.inr (Or.inr ⟨⟨half, hhalf⟩, error.fault.text, ?_⟩)
    simp only [Java.parse, herror]
    rfl

section

variable (make : ByteArray → Java.SyntaxTree)

/-- Java may have a tree or not, assembler source always gets a report. -/
theorem calculate_cases (language : Language) (source : List CodePoint) (fileName : FileName) :
    (language = .java ∧ (∃ tree, IsTreeOf make source tree ∧ tree.hasError = true) ∧
      ∃ reason cause, calculate (Java.parse (some make)) language source fileName =
        .error (.error (.parsing "Java" fileName.shown reason) cause)) ∨
    ((language = .java → ∃ tree, IsTreeOf make source tree ∧ tree.hasError = false) ∧
      ∃ report records, calculate (Java.parse (some make)) language source fileName =
        .ok (report, records) ∧
        report.fileName = fileName ∧ report.language = language.displayName) ∨
    (language = .java ∧ (∃ half, .surrogate half ∈ source) ∧ ∃ text,
      calculate (Java.parse (some make)) language source fileName =
        .error (.fault ⟨encodingFault, text⟩)) := by
  cases language with
  | java =>
      unfold calculate
      rcases parse_cases make source with
        ⟨tree, htree, herror, hparse⟩ | ⟨tree, htree, herror, hparse⟩ | ⟨hhalf, text, hparse⟩
      · rw [hparse]
        exact Or.inl ⟨rfl, ⟨tree, htree, herror⟩, _, _, rfl⟩
      · rw [hparse]
        exact Or.inr (Or.inl ⟨fun _ => ⟨tree, htree, herror⟩, _, _, rfl, rfl, rfl⟩)
      · rw [hparse]
        exact Or.inr (Or.inr ⟨rfl, hhalf, text, rfl⟩)
  | x86 => exact Or.inr (Or.inl ⟨nofun, _, _, rfl, rfl, rfl⟩)
  | mos6502 => exact Or.inr (Or.inl ⟨nofun, _, _, rfl, rfl, rfl⟩)

/-! ## The analysis -/

/-- The five ways in which the analysis of a text ends. -/
inductive Ending (limit : Int) (source : List CodePoint) (key fileName : Option String)
    (shown : FileName) : Except Failure Report → Prop where
  | refused (h : IsRefused limit source) (reason : String) :
      Ending limit source key fileName shown (.error (refuse "source_code" reason))
  | unsupported (h : ¬ IsRefused limit source) (hno : NoLanguage key fileName) (named : String) :
      Ending limit source key fileName shown (.error (.ofError (Registry.unsupported named)))
  | unparsed (h : ¬ IsRefused limit source) (hjava : Resolves key fileName .java)
      {tree : Java.SyntaxTree} (htree : IsTreeOf make source tree) (herror : tree.hasError = true)
      (reason : String) (cause : Option FaultKind) :
      Ending limit source key fileName shown
        (.error (.error (.parsing "Java" shown.shown reason) cause))
  | unencodable (h : ¬ IsRefused limit source) (hjava : Resolves key fileName .java)
      {half : Fin 0x800} (hhalf : .surrogate half ∈ source) (text : String) :
      Ending limit source key fileName shown (.error (.fault ⟨encodingFault, text⟩))
  | reported (h : ¬ IsRefused limit source) {language : Language}
      (hlanguage : Resolves key fileName language)
      (hparsed : language = .java → ∃ tree, IsTreeOf make source tree ∧ tree.hasError = false)
      {report : Report} (hname : report.fileName = shown)
      (hshown : report.language = language.displayName) :
      Ending limit source key fileName shown (.ok report)

/-- The name under which a text is reported: its own, or the usual one if it has none. -/
def reportedName (settings : Settings) (fileName : Option String) : FileName :=
  ((givenName fileName).map FileName.text).getD settings.defaultFileName

theorem ending_of_analyzeSource {settings : Settings} {limit : Int}
    (h : settings.maxSourceLength = .int limit) (registry : Registry) (source : List CodePoint)
    (key fileName : Option String) :
    Ending make limit source key fileName (reportedName settings fileName)
      (analyzeSource (Java.parse (some make)) registry settings (.text source) key
        fileName).result := by
  rw [analyzeSource_result, h]
  rcases validateSource_cases limit source "source_code" with
    ⟨hrefused, reason, hvalid⟩ | ⟨htaken, hvalid⟩
  · rw [hvalid]
    exact .refused hrefused reason
  · rw [hvalid]
    rcases resolve_cases key fileName with ⟨language, hlanguage, hfound⟩ | ⟨hno, named, hfound⟩
    · simp only [hfound, mapError_ok, bind, Except.bind]
      rcases calculate_cases make language source (reportedName settings fileName) with
        ⟨rfl, ⟨tree, htree, herror⟩, reason, cause, hscored⟩ |
        ⟨hparsed, report, records, hscored, hname, hshown⟩ |
        ⟨rfl, ⟨half, hhalf⟩, text, hscored⟩
      · rw [← reportedName, hscored]
        exact .unparsed htaken hlanguage htree herror reason cause
      · rw [← reportedName, hscored]
        exact .reported htaken hlanguage hparsed hname hshown
      · rw [← reportedName, hscored]
        exact .unencodable htaken hlanguage hhalf text
    · simp only [hfound, mapError_error, bind, Except.bind]
      exact .unsupported htaken hno named

/-- Whether a result is an error of a kind. -/
def HasError (kind : ErrorKind) : Except Failure Report → Prop
  | .error (.error reported _) => reported.kind = kind
  | _ => False

/-- Whether a result is a fault, of whatever kind. -/
def HasFault : Except Failure Report → Prop
  | .error (.fault _) => True
  | _ => False

/-- What decides how the analysis of a text ends, and what is reported. -/
structure SourceOutcome (settings : Settings) (limit : Int) (source : List CodePoint)
    (key fileName : Option String) (result : Except Failure Report) : Prop where
  refused : HasError .validation result ↔ IsRefused limit source
  unsupported : HasError .unsupportedLanguage result ↔
    ¬ IsRefused limit source ∧ NoLanguage key fileName
  unparsed : HasError .parsing result ↔
    ¬ IsRefused limit source ∧ Resolves key fileName .java ∧
      ∃ tree, IsTreeOf make source tree ∧ tree.hasError = true
  reported : (∃ report, result = .ok report) ↔
    ¬ IsRefused limit source ∧ ∃ language, Resolves key fileName language ∧
      (language = .java → ∃ tree, IsTreeOf make source tree ∧ tree.hasError = false)
  /-- A fault comes out of Java in which half of a surrogate pair stands alone, and of no other
  text. -/
  faulty : HasFault result ↔
    ¬ IsRefused limit source ∧ Resolves key fileName .java ∧ ∃ half, .surrogate half ∈ source
  /-- The fault is that the text has no encoding. -/
  unencodable : ∀ fault, result = .error (.fault fault) → fault.kind = encodingFault
  /-- A report shows the language of the text and its name, or the usual name if it has none. -/
  shown : ∀ report, result = .ok report → ∃ language, Resolves key fileName language ∧
    report.language = language.displayName ∧ report.fileName = reportedName settings fileName
  oneLanguage : ∀ language other, Resolves key fileName language →
    Resolves key fileName other → language = other
  /-- Nothing else comes of a text. -/
  exhaustive : HasError .validation result ∨ HasError .unsupportedLanguage result ∨
    HasError .parsing result ∨ HasFault result ∨ ∃ report, result = .ok report

variable {make}

theorem Ending.sourceOutcome {settings : Settings} {limit : Int} {source : List CodePoint}
    {key fileName : Option String} {result : Except Failure Report}
    (h : Ending make limit source key fileName (reportedName settings fileName) result) :
    SourceOutcome make settings limit source key fileName result := by
  have hone (language other : Language) (hl : Resolves key fileName language)
      (ho : Resolves key fileName other) : language = other := hl.unique ho
  have hfails (failure : Failure) :
      ¬ ∃ report : Report, (.error failure : Except Failure Report) = .ok report := by
    rintro ⟨report, ⟨⟩⟩
  cases h with
  | refused hrefused reason =>
      refine ⟨iff_of_true rfl hrefused, iff_of_false nofun ?_, iff_of_false nofun ?_,
        iff_of_false (hfails _) ?_, iff_of_false id ?_, nofun, nofun, hone, Or.inl rfl⟩
      · exact fun hother => hother.1 hrefused
      · exact fun hother => hother.1 hrefused
      · exact fun hother => hother.1 hrefused
      · exact fun hother => hother.1 hrefused
  | unsupported htaken hno named =>
      refine ⟨iff_of_false nofun htaken, iff_of_true rfl ⟨htaken, hno⟩, iff_of_false nofun ?_,
        iff_of_false (hfails _) ?_, iff_of_false id ?_, nofun, nofun, hone, Or.inr (Or.inl rfl)⟩
      · exact fun hother => hno.not_resolves .java hother.2.1
      · rintro ⟨-, language, hlanguage, -⟩
        exact hno.not_resolves language hlanguage
      · exact fun hother => hno.not_resolves .java hother.2.1
  | unparsed htaken hjava htree herror reason cause =>
      refine ⟨iff_of_false nofun htaken, iff_of_false nofun ?_,
        iff_of_true rfl ⟨htaken, hjava, _, htree, herror⟩, iff_of_false (hfails _) ?_,
        iff_of_false id ?_, nofun, nofun, hone, Or.inr (Or.inr (Or.inl rfl))⟩
      · exact fun hother => hother.2.not_resolves .java hjava
      · rintro ⟨-, language, hlanguage, hparsed⟩
        obtain ⟨other, hother, hnone⟩ := hparsed (hlanguage.unique hjava)
        rw [← htree.unique hother, herror] at hnone
        cases hnone
      · rintro ⟨-, -, half, hhalf⟩
        exact htree.no_half half hhalf
  | @unencodable htaken hjava half hhalf text =>
      refine ⟨iff_of_false nofun htaken, iff_of_false nofun ?_, iff_of_false nofun ?_,
        iff_of_false (hfails _) ?_, iff_of_true trivial ⟨htaken, hjava, half, hhalf⟩, ?_, nofun,
        hone, Or.inr (Or.inr (Or.inr (Or.inl trivial)))⟩
      · exact fun hother => hother.2.not_resolves .java hjava
      · rintro ⟨-, -, tree, htree, -⟩
        exact htree.no_half half hhalf
      · rintro ⟨-, language, hlanguage, hparsed⟩
        obtain ⟨tree, htree, -⟩ := hparsed (hlanguage.unique hjava)
        exact htree.no_half half hhalf
      · rintro _ ⟨⟩
        rfl
  | @reported htaken language hlanguage hparsed report hname hshown =>
      refine ⟨iff_of_false nofun htaken, iff_of_false nofun ?_, iff_of_false nofun ?_,
        iff_of_true ⟨report, rfl⟩ ⟨htaken, language, hlanguage, hparsed⟩, iff_of_false id ?_,
        nofun, ?_, hone, Or.inr (Or.inr (Or.inr (Or.inr ⟨report, rfl⟩)))⟩
      · exact fun hother => hother.2.not_resolves language hlanguage
      · rintro ⟨-, hjava, tree, htree, herror⟩
        obtain ⟨other, hother, hnone⟩ := hparsed (hlanguage.unique hjava)
        rw [← htree.unique hother, herror] at hnone
        cases hnone
      · rintro ⟨-, hjava, half, hhalf⟩
        obtain ⟨tree, htree, -⟩ := hparsed (hlanguage.unique hjava)
        exact htree.no_half half hhalf
      · rintro _ ⟨⟩
        exact ⟨language, hlanguage, hshown, hname⟩

end

/-- Whatever makes the trees of Java and whatever the registry holds, the analysis of a text fails
if it is blank or too long, else if neither a key nor its name tells its language, else if it is
Java in whose tree there is an error, and in no other case but one: Java without an encoding. -/
theorem analyzeSource_outcome (make : ByteArray → Java.SyntaxTree) {settings : Settings}
    {limit : Int} (h : settings.maxSourceLength = .int limit) (registry : Registry)
    (source : List CodePoint) (key fileName : Option String) :
    SourceOutcome make settings limit source key fileName
      (analyzeSource (Java.parse (some make)) registry settings (.text source) key
        fileName).result :=
  (ending_of_analyzeSource make h registry source key fileName).sourceOutcome

/-- A blank key leaves the choice to the name, which ends in capitals and a blank. -/
theorem analyzeSource_outcome_of_name :
    let make : ByteArray → Java.SyntaxTree := fun bytes => ⟨{ kind := "program", bytes }, false⟩
    let source := CodePoint.ofChars "f PROC".toList
    ∃ settings, Settings.ofNamed (.ofList [("max_source_length", .int 9)]) = .ok settings ∧
      SourceOutcome make settings 9 source (some " ") (some "A.ASM ")
        (analyzeSource (Java.parse (some make)) .empty settings (.text source) (some " ")
          (some "A.ASM ")).result := by
  intro make source
  exact ⟨_, rfl, analyzeSource_outcome make rfl .empty source (some " ") (some "A.ASM ")⟩

/-- Half of a surrogate pair in a comment: the text is neither refused nor of no known language, and
still neither an error of the three kinds nor a report comes of it, but a fault. -/
theorem analyzeSource_faults_of_half_in_comment :
    let make : ByteArray → Java.SyntaxTree := fun bytes => ⟨{ kind := "program", bytes }, false⟩
    let source := CodePoint.ofChars "class A {} // ".toList ++ [.surrogate 0]
    let result :=
      (analyzeSource (Java.parse (some make)) .empty {} (.text source) (some "java") none).result
    ¬ IsRefused 1048576 source ∧ Resolves (some "java") none .java ∧ HasFault result ∧
      ¬ (HasError .validation result ∨ HasError .unsupportedLanguage result ∨
        HasError .parsing result ∨ ∃ report, result = .ok report) := by
  intro make source result
  have hfault : ∃ text, result = .error (.fault ⟨encodingFault, text⟩) := ⟨_, rfl⟩
  refine ⟨?_, .byKey rfl (by decide) (by decide), ?_, ?_⟩
  · rw [IsRefused, ← CodePoint.allBlank_iff]
    decide
  · obtain ⟨text, htext⟩ := hfault
    rw [htext]
    trivial
  · obtain ⟨text, htext⟩ := hfault
    rw [htext]
    rintro (herror | herror | herror | ⟨report, ⟨⟩⟩)
    · exact herror
    · exact herror
    · exact herror

end Cyclomatic
