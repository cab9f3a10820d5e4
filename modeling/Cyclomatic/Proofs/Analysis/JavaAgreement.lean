import Cyclomatic.Proofs.Analysis.Agreement
import Cyclomatic.Proofs.Analysis.Source
import Cyclomatic.Proofs.Java.LineEndings

/-! # Files and texts of Java source

The line terminators of a file are rewritten before it is parsed, those of a text are not. So the
two ways agree exactly if the parser reads the text and the rewritten text alike, which it does as
long as it takes every carriage return for the line feed that replaces it. In a line comment it does
not: the comment goes on to the next line feed, and what stands behind the return is lost. -/

namespace Cyclomatic.Java

open Text

/-- Two analyses that both fail to parse, or that report the same units and figures. -/
def SameEnding (result other : Except Failure Report) : Prop :=
  HasError .parsing result ∧ HasError .parsing other ∨
    ∃ report partner, result = .ok report ∧ other = .ok partner ∧
      Assembly.SameFigures report partner

/-! ## Two readings -/

/-- The tree of a text. -/
def treeOfText (make : ByteArray → SyntaxTree) (text : List Char) : SyntaxTree :=
  make (String.ofList text).toUTF8

/-- Both trees have an error in them, or neither has one and their units are the same. -/
def SameReading (tree other : SyntaxTree) : Prop :=
  tree.hasError = true ∧ other.hasError = true ∨
    tree.hasError = false ∧ other.hasError = false ∧ unitsOf tree.root = unitsOf other.root

theorem SameReading.trans {tree other third : SyntaxTree} (h : SameReading tree other)
    (ho : SameReading other third) : SameReading tree third := by
  rcases h with ⟨htree, hother⟩ | ⟨htree, hother, hunits⟩
  · rcases ho with ⟨-, hthird⟩ | ⟨hother', -, -⟩
    · exact Or.inl ⟨htree, hthird⟩
    · cases hother.symm.trans hother'
  · rcases ho with ⟨hother', -⟩ | ⟨-, hthird, hunits'⟩
    · cases hother.symm.trans hother'
    · exact Or.inr ⟨htree, hthird, hunits.trans hunits'⟩

theorem SameReading.refl (tree : SyntaxTree) : SameReading tree tree := by
  cases herror : tree.hasError with
  | true => exact Or.inl ⟨herror, herror⟩
  | false => exact Or.inr ⟨herror, herror, rfl⟩

theorem calculate_java (make : ByteArray → SyntaxTree) (text : List Char) (fileName : FileName) :
    (calculate (parse (some make)) .java (CodePoint.ofChars text) fileName).map (·.1) =
      (javaOutcome fileName (treeOfText make text).checked).map (·.1) := by
  simp only [calculate, parse, CodePoint.encode_ofChars, treeOfText]

theorem sameEnding_iff (tree other : SyntaxTree) (fileName otherName : FileName) :
    SameEnding ((javaOutcome fileName tree.checked).map (·.1))
      ((javaOutcome otherName other.checked).map (·.1)) ↔ SameReading tree other := by
  unfold SyntaxTree.checked
  cases htree : tree.hasError <;> cases hother : other.hasError
  · constructor
    · rintro (⟨⟨⟩, -⟩ | ⟨report, partner, hreport, hpartner, hsame⟩)
      cases hreport
      cases hpartner
      exact Or.inr ⟨htree, hother, congrArg OrderedMap.mk hsame.units⟩
    · rintro (⟨htree', -⟩ | ⟨-, -, hunits⟩)
      · cases htree.symm.trans htree'
      · exact Or.inr ⟨_, _, rfl, rfl, .of_units rfl hunits⟩
  · refine iff_of_false ?_ ?_
    · rintro (⟨⟨⟩, -⟩ | ⟨_, _, -, ⟨⟩, -⟩)
    · simp [SameReading, htree, hother]
  · refine iff_of_false ?_ ?_
    · rintro (⟨-, ⟨⟩⟩ | ⟨_, _, ⟨⟩, -, -⟩)
    · simp [SameReading, htree, hother]
  · exact iff_of_true (Or.inl ⟨rfl, rfl⟩) (Or.inl ⟨htree, hother⟩)

/-- The analyses of a file that holds the encoding of a text, and of the text itself. -/
theorem results_of_text {text key : String} {settings : Settings} {limit : Int} {files : FileTree}
    {given : Value} {path : Path} (hkey : Language.ofKey? key = some .java)
    (hblank : allBlank text.toList = false)
    (hlength : settings.maxSourceLength.below text.length = false)
    (hlimit : settings.maxFileSizeBytes = .ok limit) (hsize : text.utf8ByteSize ≤ limit)
    (hgiven : isBlankPath given = false) (hpath : pathOf given = .ok path)
    (hfile : files.lookup path = .ok (.file text.toUTF8)) (make : ByteArray → SyntaxTree)
    (registry other : Registry) (fileName : Option String) :
    SameEnding (analyzeFile (parse (some make)) registry settings files given (some key)).result
        (analyzeSource (parse (some make)) other settings (.ofString text) (some key)
          fileName).result ↔
      SameReading (treeOfText make (normalizeNewlines text.toList))
        (treeOfText make text.toList) := by
  have hbytes : text.toUTF8.size = text.utf8ByteSize := String.size_toByteArray
  have hfull : text.toUTF8.size ≠ 0 := by
    rw [hbytes, Ne, String.utf8ByteSize_eq_zero_iff]
    rintro rfl
    cases hblank
  rw [analyzeFile_of_key hkey hlimit (hbytes ▸ hsize) hfull hgiven hpath hfile _ registry,
    analyzeSource_of_key hkey hblank hlength _ other fileName, sourceOfBytes_toUTF8,
    calculate_java, calculate_java, sameEnding_iff]

/-! ## Carriage returns that are read like line feeds -/

/-- Both trees have an error in them, or neither has one and they are of one shape. -/
def SameShape (tree other : SyntaxTree) : Prop :=
  tree.hasError = true ∧ other.hasError = true ∨
    tree.hasError = false ∧ other.hasError = false ∧ Alike tree.root other.root

theorem SameShape.refl (tree : SyntaxTree) : SameShape tree tree := by
  cases herror : tree.hasError with
  | true => exact Or.inl ⟨herror, herror⟩
  | false => exact Or.inr ⟨herror, herror, .refl tree.root⟩

theorem SameShape.sameReading {tree other : SyntaxTree} (h : SameShape tree other) :
    SameReading tree other :=
  h.imp_right fun ⟨htree, hother, halike⟩ => ⟨htree, hother, halike.unitsOf_eq⟩

/-- What follows the terminator that a carriage return starts. -/
def afterReturn : List Char → List Char
  | '\n' :: rest => rest
  | rest => rest

/-- A parser for which white space is white space: in safe places, between two parts of a text, it
takes a line terminator that starts with a carriage return for a line feed. Trees may differ in the
white space of the texts of their nodes. -/
def ReadsReturns (make : ByteArray → SyntaxTree) (safe : List Char → List Char → Prop) : Prop :=
  ∀ front back, safe front back →
    SameShape (treeOfText make (front ++ '\n' :: afterReturn back))
      (treeOfText make (front ++ '\r' :: back))

/-- All carriage returns of a text are in safe places, once those before them are rewritten. -/
def ReturnsAreSafe (safe : List Char → List Char → Prop) (text : List Char) : Prop :=
  ∀ front back, text = front ++ '\r' :: back → safe (normalizeNewlines front) back

theorem ReadsReturns.sameReading_append {make : ByteArray → SyntaxTree}
    {safe : List Char → List Char → Prop} (h : ReadsReturns make safe) {rest : List Char}
    (done : List Char)
    (hsafe : ∀ front back, rest = front ++ '\r' :: back →
      safe (done ++ normalizeNewlines front) back) :
    SameReading (treeOfText make (done ++ normalizeNewlines rest))
      (treeOfText make (done ++ rest)) := by
  -- The part that is rewritten already grows by one terminator or character at a time.
  induction rest using newline_induction generalizing done with
  | nil => exact .refl _
  | crlf rest ih =>
      have hfirst := h done ('\n' :: rest) (by simpa [normalizeNewlines_nil] using hsafe [] _ rfl)
      have hlater := ih (done ++ ['\n']) fun front back hrest => by
        have hnext := hsafe ('\r' :: '\n' :: front) back (by simp [hrest])
        simpa [normalizeNewlines_crlf] using hnext
      rw [normalizeNewlines_crlf]
      simp only [List.append_assoc, List.singleton_append] at hlater
      exact hlater.trans hfirst.sameReading
  | cons c rest hc ih =>
      have hlater := ih (done ++ [if c = '\r' then '\n' else c]) fun front back hrest => by
        subst hrest
        have hnext := hsafe (c :: front) back rfl
        simpa [normalizeNewlines_cons_of_cleanCut hc.of_append] using hnext
      rw [normalizeNewlines_cons_of_cleanCut hc]
      simp only [List.append_assoc, List.singleton_append] at hlater
      by_cases hreturn : c = '\r'
      · subst hreturn
        have hfirst := h done rest (by simpa [normalizeNewlines_nil] using hsafe [] _ rfl)
        have hafter : afterReturn rest = rest := by
          unfold afterReturn
          split
          · exact absurd ⟨rfl, rfl⟩ hc
          · rfl
        rw [hafter] at hfirst
        exact hlater.trans hfirst.sameReading
      · rwa [if_neg hreturn] at hlater ⊢

theorem ReadsReturns.sameReading {make : ByteArray → SyntaxTree}
    {safe : List Char → List Char → Prop} (h : ReadsReturns make safe) {text : List Char}
    (hsafe : ReturnsAreSafe safe text) :
    SameReading (treeOfText make (normalizeNewlines text)) (treeOfText make text) :=
  h.sameReading_append [] hsafe

/-! ## Carriage returns in line comments -/

/-- A parser for which a line comment goes on to the next line feed, or to the end of the text if
there is none. There is no unit in the comment, and the units behind it are read as if it were not
there. A mark of byte order is one only at the start of a text. -/
structure ReadsLineComments (make : ByteArray → SyntaxTree) : Prop where
  alone : ∀ line, '\n' ∉ line →
    (treeOfText make ('/' :: '/' :: line)).hasError = false ∧
      ∀ node ∈ (treeOfText make ('/' :: '/' :: line)).root.preorder, isUnit node = false
  before : ∀ line back, '\n' ∉ line → back.head? ≠ some '\uFEFF' →
    (treeOfText make ('/' :: '/' :: (line ++ '\n' :: back))).hasError =
        (treeOfText make back).hasError ∧
      ((treeOfText make back).hasError = false →
        List.Forall₂ Alike
          (unitNodes (treeOfText make ('/' :: '/' :: (line ++ '\n' :: back))).root)
          (unitNodes (treeOfText make back).root))

/-- A text of which nothing is reported. -/
def IsBarren (tree : SyntaxTree) : Prop :=
  tree.hasError = false ∧ unitsOf tree.root = .empty

theorem ReadsLineComments.isBarren {make : ByteArray → SyntaxTree} (h : ReadsLineComments make)
    {line : List Char} (hline : '\n' ∉ line) :
    IsBarren (treeOfText make ('/' :: '/' :: line)) := by
  obtain ⟨herror, hnone⟩ := h.alone line hline
  have hunits : unitNodes (treeOfText make ('/' :: '/' :: line)).root = [] :=
    List.filter_eq_nil_iff.mpr fun node hnode => by simp [hnone node hnode]
  refine ⟨herror, ?_⟩
  rw [unitsOf_eq_ofList, hunits]
  rfl

theorem ReadsLineComments.sameReading {make : ByteArray → SyntaxTree} (h : ReadsLineComments make)
    {line back : List Char} (hline : '\n' ∉ line) (hback : back.head? ≠ some '\uFEFF') :
    SameReading (treeOfText make ('/' :: '/' :: (line ++ '\n' :: back)))
      (treeOfText make back) := by
  obtain ⟨herror, hunits⟩ := h.before line back hline hback
  cases hrest : (treeOfText make back).hasError with
  | true => exact Or.inl ⟨herror.trans hrest, hrest⟩
  | false => exact Or.inr ⟨herror.trans hrest, hrest, unitsOf_eq_of_unitNodes (hunits hrest)⟩

theorem sameReading_iff_of_isBarren {tree other : SyntaxTree} (h : IsBarren other) :
    SameReading tree other ↔ IsBarren tree := by
  obtain ⟨herror, hunits⟩ := h
  simp [SameReading, IsBarren, herror, hunits]

theorem SameReading.isBarren_iff {tree other : SyntaxTree} (h : SameReading tree other) :
    IsBarren tree ↔ IsBarren other := by
  rcases h with ⟨htree, hother⟩ | ⟨htree, hother, hunits⟩
  · simp [IsBarren, htree, hother]
  · simp [IsBarren, htree, hother, hunits]

/-- The comment at the front of a text takes in all that follows a carriage return. -/
theorem ReadsLineComments.sameReading_iff {make : ByteArray → SyntaxTree}
    (h : ReadsLineComments make) {line back : List Char} (hline : Unbroken line)
    (hback : '\n' ∉ back) (hmark : back.head? ≠ some '\uFEFF') :
    SameReading (treeOfText make (normalizeNewlines ('/' :: '/' :: (line ++ '\r' :: back))))
        (treeOfText make ('/' :: '/' :: (line ++ '\r' :: back))) ↔
      IsBarren (treeOfText make (normalizeNewlines back)) := by
  have hfront : '\n' ∉ line := fun hmem => hline '\n' hmem (Or.inl rfl)
  have hwhole : '\n' ∉ line ++ '\r' :: back := by simp [hfront, hback]
  have hcut : CleanCut ['\r'] back :=
    cleanCut_of_head? fun hhead => hback (List.mem_of_head? hhead)
  have hunbroken : Unbroken ('/' :: '/' :: line) :=
    unbroken_cons.mpr ⟨by decide, unbroken_cons.mpr ⟨by decide, hline⟩⟩
  have hrewritten : normalizeNewlines ('/' :: '/' :: (line ++ '\r' :: back)) =
      '/' :: '/' :: (line ++ '\n' :: normalizeNewlines back) := by
    have hrest := normalizeNewlines_unbroken hunbroken ('\r' :: back)
    rwa [normalizeNewlines_cons_of_cleanCut hcut] at hrest
  have hmark' : (normalizeNewlines back).head? ≠ some '\uFEFF' := by
    have hfirst := any_head?_normalizeNewlines (p := (· == '\uFEFF')) (by decide) back
    intro hhead
    rw [← head?_beq_some, hhead, ← head?_beq_some] at hfirst
    exact hmark (by simpa using hfirst.symm)
  rw [sameReading_iff_of_isBarren (h.isBarren hwhole), hrewritten]
  exact (h.sameReading hfront hmark').isBarren_iff

/-! ## The two ways -/

/-- A file that holds the encoding of a text and the text itself end alike exactly if the parser
reads the rewritten text like the text. So they do if every carriage return stands where the parser
reads it like a line feed. If a text starts with a line comment and there are carriage returns in it
but no line feeds, they do so only if there is nothing to report behind the first return. -/
theorem analyzeFile_agrees_iff (make : ByteArray → SyntaxTree) (text key : String)
    (settings : Settings) (limit : Int) (files : FileTree) (given : Value) (path : Path)
    (fileName : Option String) (registry other : Registry)
    (hkey : Language.ofKey? key = some .java) (hblank : allBlank text.toList = false)
    (hlength : settings.maxSourceLength.below text.length = false)
    (hlimit : settings.maxFileSizeBytes = .ok limit) (hsize : text.utf8ByteSize ≤ limit)
    (hgiven : isBlankPath given = false) (hpath : pathOf given = .ok path)
    (hfile : files.lookup path = .ok (.file text.toUTF8)) :
    let ofFile := (analyzeFile (parse (some make)) registry settings files given (some key)).result
    let ofText :=
      (analyzeSource (parse (some make)) other settings (.ofString text) (some key) fileName).result
    (SameEnding ofFile ofText ↔ SameReading (treeOfText make (normalizeNewlines text.toList))
        (treeOfText make text.toList)) ∧
      (∀ safe, ReadsReturns make safe → ReturnsAreSafe safe text.toList →
        SameEnding ofFile ofText) ∧
      (ReadsLineComments make → ∀ line back, Unbroken line → '\n' ∉ back →
        back.head? ≠ some '\uFEFF' → text.toList = '/' :: '/' :: (line ++ '\r' :: back) →
        (SameEnding ofFile ofText ↔ IsBarren (treeOfText make (normalizeNewlines back)))) := by
  intro ofFile ofText
  have hiff : SameEnding ofFile ofText ↔
      SameReading (treeOfText make (normalizeNewlines text.toList))
        (treeOfText make text.toList) :=
    results_of_text hkey hblank hlength hlimit hsize hgiven hpath hfile make registry other fileName
  refine ⟨hiff, ?_, ?_⟩
  · intro safe hreads hsafe
    exact hiff.mpr (hreads.sameReading hsafe)
  · intro hreads line back hline hback hmark htext
    rw [hiff, htext]
    exact hreads.sameReading_iff hline hback hmark

/-! ## A parser of one method -/

/-- What follows the blanks and line comments at the front of a text, which starts inside of a
comment or not. -/
def behindComments (inside : Bool) : List Char → List Char
  | [] => []
  | c :: rest =>
      if inside then behindComments (c != '\n') rest
      else if isBlank c then behindComments false rest
      else if c == '/' && rest.head? == some '/' then behindComments true rest
      else c :: rest

/-- A parser that knows one method and leaves blanks and comments out of its trees. -/
def oneMethod (bytes : ByteArray) : SyntaxTree :=
  let rest := behindComments false (decode bytes.toList)
  if rest = [] then ⟨{ kind := "program" }, false⟩
  else if rest = "void f()\x7b\x7d".toList then
    ⟨{ kind := "program", children := [methodF []] }, false⟩
  else ⟨{ kind := "ERROR" }, true⟩

theorem treeOfText_oneMethod {text other : List Char}
    (h : behindComments false text = behindComments false other) :
    treeOfText oneMethod text = treeOfText oneMethod other := by
  simp only [treeOfText, oneMethod, decode_toUTF8, String.toList_ofList, h]

theorem behindComments_cons_of_isBlank {c : Char} (h : isBlank c = true) (rest : List Char) :
    behindComments false (c :: rest) = behindComments false rest := by
  rw [behindComments, if_neg Bool.false_ne_true, if_pos h]

theorem behindComments_append {front : List Char} (h : allBlank front = true) (rest : List Char) :
    behindComments false (front ++ rest) = behindComments false rest := by
  induction front with
  | nil => rfl
  | cons c front ih =>
      obtain ⟨hc, hfront⟩ := Bool.and_eq_true_iff.mp h
      rw [List.cons_append, behindComments_cons_of_isBlank hc, ih hfront]

theorem behindComments_afterReturn (rest : List Char) :
    behindComments false ('\n' :: afterReturn rest) = behindComments false ('\r' :: rest) := by
  rw [behindComments_cons_of_isBlank (by decide), behindComments_cons_of_isBlank (by decide)]
  unfold afterReturn
  split
  · rw [behindComments_cons_of_isBlank (by decide)]
  · rfl

/-- A line comment takes in the rest of its line. -/
theorem behindComments_line {line : List Char} (h : '\n' ∉ line) (rest : List Char) :
    behindComments true (line ++ rest) = behindComments true rest := by
  induction line with
  | nil => rfl
  | cons c line ih =>
      obtain ⟨hc, hline⟩ : c ≠ '\n' ∧ '\n' ∉ line := by simpa [eq_comm] using h
      rw [List.cons_append, behindComments, if_pos rfl, bne_iff_ne.mpr hc, ih hline]

/-- Behind nothing but blanks a return is a blank. -/
theorem readsReturns_oneMethod :
    ReadsReturns oneMethod fun front _ => allBlank front = true := by
  intro front back hfront
  have hsame : treeOfText oneMethod (front ++ '\n' :: afterReturn back) =
      treeOfText oneMethod (front ++ '\r' :: back) := by
    apply treeOfText_oneMethod
    rw [behindComments_append hfront, behindComments_append hfront, behindComments_afterReturn]
  rw [hsame]
  exact .refl _

theorem returnsAreSafe_of_blank (blanks rest : List Char) (h : allBlank blanks = true)
    (hrest : '\r' ∉ rest) :
    ReturnsAreSafe (fun front _ => allBlank front = true) (blanks ++ rest) := by
  intro front back htext
  rcases List.append_eq_append_iff.mp htext with ⟨middle, -, hback⟩ | ⟨middle, hfront, -⟩
  · exact absurd (by simp [hback]) hrest
  · rw [hfront, allBlank, List.all_append] at h
    exact allBlank_normalizeNewlines (Bool.and_eq_true_iff.mp h).1

theorem readsLineComments_oneMethod : ReadsLineComments oneMethod where
  alone line hline := by
    have hempty : treeOfText oneMethod ('/' :: '/' :: line) = treeOfText oneMethod [] := by
      apply treeOfText_oneMethod
      have hrest := behindComments_line hline []
      rwa [List.append_nil] at hrest
    rw [hempty]
    decide +kernel
  before line back hline _ := by
    have hsame : treeOfText oneMethod ('/' :: '/' :: (line ++ '\n' :: back)) =
        treeOfText oneMethod back :=
      treeOfText_oneMethod (behindComments_line hline ('\n' :: back))
    rw [hsame]
    exact ⟨rfl, fun _ => forall₂_alike_refl _⟩

/-- Blank returns in front of a method, and a return at the end of a comment in front of it. -/
theorem analyzeFile_agrees_of_blank_returns :
    let settings : Settings := { maxFileSizeMb := .int 1 }
    let files (text : String) : FileTree :=
      (FileTree.bare "" ["work"] ["home"]).add ["work", "A.java"] (.file text.toUTF8)
    let ofFile (text : String) : Except Failure Report :=
      (analyzeFile (parse (some oneMethod)) .empty settings (files text) (.text "A.java")
        (some " Java")).result
    let ofText (text : String) : Except Failure Report :=
      (analyzeSource (parse (some oneMethod)) .empty settings (.ofString text) (some " Java")
        none).result
    SameEnding (ofFile "\r\n\rvoid f()\x7b\x7d") (ofText "\r\n\rvoid f()\x7b\x7d") ∧
      ¬ SameEnding (ofFile "// c\rvoid f()\x7b\x7d") (ofText "// c\rvoid f()\x7b\x7d") := by
  intro settings files ofFile ofText
  constructor
  · obtain ⟨-, hagree, -⟩ := analyzeFile_agrees_iff oneMethod "\r\n\rvoid f()\x7b\x7d" " Java"
      settings 1048576 (files "\r\n\rvoid f()\x7b\x7d") (.text "A.java") (Path.ofString "A.java")
      none .empty .empty (by decide) (by decide) (by decide) rfl (by decide) (by decide) rfl rfl
    refine hagree _ readsReturns_oneMethod ?_
    exact returnsAreSafe_of_blank "\r\n\r".toList "void f()\x7b\x7d".toList rfl (by decide)
  · obtain ⟨-, -, hdiffer⟩ := analyzeFile_agrees_iff oneMethod "// c\rvoid f()\x7b\x7d" " Java"
      settings 1048576 (files "// c\rvoid f()\x7b\x7d") (.text "A.java") (Path.ofString "A.java")
      none .empty .empty (by decide) (by decide) (by decide) rfl (by decide) (by decide) rfl rfl
    rw [hdiffer readsLineComments_oneMethod " c".toList "void f()\x7b\x7d".toList (by decide)
      (by decide) (by decide) rfl]
    rintro ⟨-, hunits⟩
    revert hunits
    decide +kernel

/-- A carriage return alone hides the rest of a text that starts with a line comment, but not the
rest of a file. -/
theorem not_sameEnding_of_return_in_comment :
    let text := "//\rvoid f()\x7b\x7d"
    let comment : Node := { kind := "line_comment" }
    let make (bytes : ByteArray) : SyntaxTree :=
      if bytes = "//\nvoid f()\x7b\x7d".toUTF8 then
        ⟨{ kind := "program", children := [comment, methodF []] }, false⟩
      else ⟨{ kind := "program", children := [comment] }, false⟩
    let files := (FileTree.bare "" ["work"] ["home"]).add ["work", "A.java"] (.file text.toUTF8)
    let settings : Settings := { maxFileSizeMb := .int 1 }
    let parser := parse (some make)
    ∃ ofFile ofText,
      (analyzeFile parser .empty settings files (.text "A.java") (some "java")).result =
        .ok ofFile ∧
      (analyzeSource parser .empty settings (.ofString text) (some "java") none).result =
        .ok ofText ∧
      ofFile.units = ⟨[("f()", 1)]⟩ ∧ ofText.units = ⟨[]⟩ ∧
      ¬ SameEnding (.ok ofFile) (.ok ofText) := by
  intro text comment make files settings parser
  have hkey : Language.ofKey? "java" = some .java := by decide
  have hlimit : settings.maxFileSizeBytes = .ok 1048576 := rfl
  have hpath : pathOf (.text "A.java") = .ok (Path.ofString "A.java") := rfl
  have hcontent : files.lookup (Path.ofString "A.java") = .ok (.file text.toUTF8) := rfl
  have hread : sourceOfBytes text.toUTF8 = "//\nvoid f()\x7b\x7d".toList := by
    rw [sourceOfBytes_toUTF8]
    decide
  let whole : Node := { kind := "program", children := [comment, methodF []] }
  let hidden : Node := { kind := "program", children := [comment] }
  have hwhole : (treeOfText make "//\nvoid f()\x7b\x7d".toList).checked = .ok whole := by
    rw [treeOfText, String.ofList_toList]
    exact congrArg SyntaxTree.checked (if_pos rfl)
  have hhidden : (treeOfText make text.toList).checked = .ok hidden := by
    rw [treeOfText, String.ofList_toList]
    refine congrArg SyntaxTree.checked (if_neg fun hsame => ?_)
    exact absurd (String.toByteArray_inj.mp hsame) (by decide)
  have hfileUnits : unitsOf whole = ⟨[("f()", 1)]⟩ := by decide +kernel
  have htextUnits : unitsOf hidden = ⟨[]⟩ := by decide +kernel
  refine ⟨(javaReport "A.java" whole).1, (javaReport settings.defaultFileName hidden).1, ?_, ?_,
    hfileUnits, htextUnits, ?_⟩
  · rw [analyzeFile_of_key hkey hlimit (by decide) (by decide) (by decide) hpath hcontent, hread,
      calculate_java, hwhole]
    rfl
  · rw [analyzeSource_of_key hkey (by decide) (by decide), calculate_java, hhidden]
    rfl
  · rintro (⟨⟨⟩, -⟩ | ⟨_, _, ⟨⟩, ⟨⟩, hsame⟩)
    have hunits : (unitsOf whole).entries = (unitsOf hidden).entries := hsame.units
    rw [hfileUnits, htextUnits] at hunits
    cases hunits

/-! ## The grammar that the program brings along -/

theorem sameReading_recognize {text : List Char} (h : returnsHarmless text = true) :
    SameReading (treeOfText recognize (normalizeNewlines text)) (treeOfText recognize text) := by
  simp only [treeOfText, recognize, decode_toUTF8, String.toList_ofList]
  rcases rel_cases (parse?_rel h) with ⟨hs, ho⟩ | ⟨tree, other, hs, ho, halike⟩
  · simp only [hs, ho]
    exact Or.inl ⟨rfl, rfl⟩
  · simp only [hs, ho]
    exact Or.inr ⟨rfl, rfl, halike.unitsOf_eq.symm⟩

/-- With the grammar that the program brings along, a file and its text end alike as long as the
carriage returns in line comments and between single quotes are harmless. Elsewhere the line
terminators may be of any kind. -/
theorem analyzeFile_agrees_of_returnsHarmless {text key : String} {settings : Settings}
    {limit : Int} {files : FileTree} {given : Value} {path : Path}
    (hkey : Language.ofKey? key = some .java) (hblank : allBlank text.toList = false)
    (hlength : settings.maxSourceLength.below text.length = false)
    (hlimit : settings.maxFileSizeBytes = .ok limit) (hsize : text.utf8ByteSize ≤ limit)
    (hgiven : isBlankPath given = false) (hpath : pathOf given = .ok path)
    (hfile : files.lookup path = .ok (.file text.toUTF8))
    (hreturns : returnsHarmless text.toList = true) (registry other : Registry)
    (fileName : Option String) :
    SameEnding
      (analyzeFile (parse (some recognize)) registry settings files given (some key)).result
      (analyzeSource (parse (some recognize)) other settings (.ofString text) (some key)
        fileName).result :=
  (results_of_text hkey hblank hlength hlimit hsize hgiven hpath hfile recognize registry other
    fileName).mpr (sameReading_recognize hreturns)

end Cyclomatic.Java
