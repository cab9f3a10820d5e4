import Cyclomatic.Proofs.Assembly.Accounting
import Cyclomatic.Proofs.Text.Blank

/-! # Comments have no influence

A comment runs from the first semicolon of a line to the end of the line. What is read of a line is
what stands before its comment, so a source with its comments deleted, or with other text in them,
is scanned to the same units and gets the same report. -/

namespace Cyclomatic.Assembly

open Text

/-! ## One line -/

theorem bne_semicolon_of_notMem {line : List Char} (h : ';' ∉ line) :
    ∀ c ∈ line, (c != ';') = true := by
  intro c hc
  rw [bne_iff_ne]
  rintro rfl
  exact h hc

theorem takeWhile_before_comment {front : List Char} (h : ';' ∉ front) (back : List Char) :
    (front ++ ';' :: back).takeWhile (· != ';') = front := by
  simp [List.takeWhile_append_of_pos (bne_semicolon_of_notMem h)]

theorem cleanLine?_of_comment {front back : List Char} (h : ';' ∉ front) :
    cleanLine? (front ++ ';' :: back) =
      if trim front = [] then none else some (trim front) := by
  have hblank : isBlank ';' = false := by decide
  by_cases ht : trim front = []
  · -- The line holds nothing but its comment.
    have hdrop : (front ++ ';' :: back).dropWhile isBlank = ';' :: back := by
      rw [List.dropWhile_append_of_pos ((trim_eq_nil_iff front).mp ht),
        List.dropWhile_cons_of_neg (by simp [hblank])]
    have htrim : trim (front ++ ';' :: back) = ';' :: dropWhileEnd isBlank back := by
      rw [trim, hdrop]
      exact dropWhileEnd_append_cons hblank [] back
    simp [cleanLine?, htrim, ht]
  · have hne : front.dropWhile isBlank ≠ [] := by
      intro hnil
      rw [← trim_dropWhile_isBlank, hnil] at ht
      exact ht rfl
    have hno : ';' ∉ front.dropWhile isBlank :=
      fun hm => h ((List.dropWhile_suffix isBlank).mem hm)
    have htrim : trim (front ++ ';' :: back) =
        front.dropWhile isBlank ++ ';' :: dropWhileEnd isBlank back := by
      rw [trim, List.dropWhile_append, if_neg (by simpa using hne)]
      exact dropWhileEnd_append_cons hblank _ back
    obtain ⟨c, rest, hc⟩ := List.exists_cons_of_ne_nil hne
    have hhead : c ≠ ';' := by
      rintro rfl
      exact hno (hc ▸ List.mem_cons_self)
    have hcut : (trim (front ++ ';' :: back)).takeWhile (· != ';') = front.dropWhile isBlank := by
      rw [htrim, takeWhile_before_comment hno]
    have hmem : ';' ∈ trim (front ++ ';' :: back) := by simp [htrim]
    have hfirst : (trim (front ++ ';' :: back)).head? = some c := by simp [htrim, hc]
    have hfull : (trim (front ++ ';' :: back)).isEmpty = false := by simp [htrim]
    simp [cleanLine?, hfull, hfirst, hhead, hmem, hcut, trim_dropWhile_isBlank, ht]

theorem cleanLine?_of_notMem {line : List Char} (h : ';' ∉ line) :
    cleanLine? line = if trim line = [] then none else some (trim line) := by
  have hno : ';' ∉ trim line := fun hm => h (mem_of_mem_trim hm)
  have hhead : (trim line).head? ≠ some ';' := fun he => hno (List.mem_of_head? he)
  by_cases ht : trim line = [] <;> simp [cleanLine?, ht, hhead, hno]

/-- What is read of a line is what stands before its comment, trimmed, unless that is blank. -/
theorem cleanLine?_eq (line : List Char) :
    cleanLine? line =
      if trim (line.takeWhile (· != ';')) = [] then none
      else some (trim (line.takeWhile (· != ';'))) := by
  by_cases h : ';' ∈ line
  · obtain ⟨front, back, rfl, hf⟩ := List.eq_append_cons_of_mem h
    rw [cleanLine?_of_comment hf, takeWhile_before_comment hf]
  · rw [cleanLine?_of_notMem h, List.takeWhile_eq_self_iff.mpr (bne_semicolon_of_notMem h)]

theorem cleanLine?_takeWhile (line : List Char) :
    cleanLine? (line.takeWhile (· != ';')) = cleanLine? line := by
  rw [cleanLine?_eq, cleanLine?_eq line, List.takeWhile_idem]

/-! ## Deleting comments -/

/-- The text without comments, from a place on that lies in a comment or not. -/
def withoutCommentsFrom (inComment : Bool) : List Char → List Char
  | [] => []
  | c :: rest =>
      if c = '\n' ∨ c = '\r' then c :: withoutCommentsFrom false rest
      else if inComment || c == ';' then withoutCommentsFrom true rest
      else c :: withoutCommentsFrom false rest

/-- Deletes everything in a line from its first semicolon on, and keeps the line terminators. -/
def withoutComments (source : List Char) : List Char :=
  withoutCommentsFrom false source

theorem withoutCommentsFrom_terminator {c : Char} (hc : c = '\n' ∨ c = '\r') (inComment : Bool)
    (rest : List Char) :
    withoutCommentsFrom inComment (c :: rest) = c :: withoutComments rest := by
  rw [withoutCommentsFrom, if_pos hc, withoutComments]

/-- The rest of a line is deleted inside a comment. -/
theorem withoutCommentsFrom_true {text : List Char} (h : Unbroken text) (rest : List Char) :
    withoutCommentsFrom true (text ++ rest) = withoutCommentsFrom true rest := by
  induction text with
  | nil => rfl
  | cons c text ih =>
      obtain ⟨hc, htext⟩ := unbroken_cons.mp h
      rw [List.cons_append, withoutCommentsFrom, if_neg hc]
      simpa using ih htext

/-- Outside a comment a line is kept up to its first semicolon. -/
theorem withoutCommentsFrom_false {line : List Char} (h : Unbroken line) (rest : List Char) :
    withoutCommentsFrom false (line ++ rest) =
      line.takeWhile (· != ';') ++ withoutCommentsFrom (line.contains ';') rest := by
  induction line with
  | nil => rfl
  | cons c line ih =>
      obtain ⟨hc, hline⟩ := unbroken_cons.mp h
      rw [List.cons_append, withoutCommentsFrom, if_neg hc]
      by_cases hs : c = ';'
      · subst c
        simpa using withoutCommentsFrom_true hline rest
      · have hs' : ¬ ';' = c := fun he => hs he.symm
        simp [hs, hs', ih hline]

theorem withoutComments_last {line : List Char} (h : Unbroken line) :
    withoutComments line = line.takeWhile (· != ';') := by
  have hline := withoutCommentsFrom_false h []
  rwa [List.append_nil, withoutCommentsFrom, List.append_nil] at hline

theorem withoutComments_next {line : List Char} (h : Unbroken line) {c : Char}
    (hc : c = '\n' ∨ c = '\r') (rest : List Char) :
    withoutComments (line ++ c :: rest) =
      line.takeWhile (· != ';') ++ c :: withoutComments rest := by
  rw [withoutComments, withoutCommentsFrom_false h, withoutCommentsFrom_terminator hc]

theorem unbroken_takeWhile {line : List Char} (h : Unbroken line) (p : Char → Bool) :
    Unbroken (line.takeWhile p) :=
  fun c hc => h c ((List.takeWhile_prefix p).mem hc)

/-- Line by line, the same is read with and without the comments. -/
theorem cleanLines_withoutComments (source : List Char) :
    cleanLines (withoutComments source) = cleanLines source := by
  have hread : cleanLine? [] = none := rfl
  induction source using line_induction with
  | last line h =>
      rw [withoutComments_last h]
      unfold cleanLines
      rw [filterMap_sourceLines_last cleanLine? hread (unbroken_takeWhile h _),
        filterMap_sourceLines_last cleanLine? hread h, cleanLine?_takeWhile]
  | next line c rest h hc ih =>
      rw [withoutComments_next h hc]
      unfold cleanLines at ih ⊢
      rw [filterMap_sourceLines_next cleanLine? hread (unbroken_takeWhile h _) hc,
        filterMap_sourceLines_next cleanLine? hread h hc, cleanLine?_takeWhile, ih]

/-- Two terminators may become one where a line was all comment. -/
example : withoutComments "f: ;a\r;b\nJE x".toList = "f: \r\nJE x".toList := by decide

/-! ## Other text in comments -/

/-- A text is at its end or at a line terminator. -/
def AtLineEnd (cs : List Char) : Prop :=
  ∀ c ∈ cs.head?, c = '\n' ∨ c = '\r'

/-- Two sources that differ only in the text of their comments. -/
inductive SameButComments : List Char → List Char → Prop where
  | nil : SameButComments [] []
  /-- Outside comments the characters agree. -/
  | char {c source other} (hc : c ≠ ';') (h : SameButComments source other) :
      SameButComments (c :: source) (c :: other)
  /-- Both have a comment here, which extends to the end of the line. -/
  | comment {text text' source other} (ht : Unbroken text) (ht' : Unbroken text')
      (hs : AtLineEnd source) (ho : AtLineEnd other) (h : SameButComments source other) :
      SameButComments (';' :: (text ++ source)) (';' :: (text' ++ other))

theorem withoutComments_char {c : Char} (hc : c ≠ ';') (rest : List Char) :
    withoutComments (c :: rest) = c :: withoutComments rest := by
  by_cases ht : c = '\n' ∨ c = '\r' <;> simp [withoutComments, withoutCommentsFrom, ht, hc]

theorem withoutComments_comment {text rest : List Char} (ht : Unbroken text)
    (hr : AtLineEnd rest) : withoutComments (';' :: (text ++ rest)) = withoutComments rest := by
  have hstart : withoutComments (';' :: (text ++ rest)) =
      withoutCommentsFrom true (text ++ rest) := by
    simp [withoutComments, withoutCommentsFrom]
  rw [hstart, withoutCommentsFrom_true ht]
  cases rest with
  | nil => rfl
  | cons c rest =>
      have hc := hr c rfl
      rw [withoutComments, withoutCommentsFrom_terminator hc, withoutCommentsFrom_terminator hc]

theorem SameButComments.withoutComments_eq {source other : List Char}
    (h : SameButComments source other) : withoutComments source = withoutComments other := by
  induction h with
  | nil => rfl
  | char hc _ ih => rw [withoutComments_char hc, withoutComments_char hc, ih]
  | comment ht ht' hs ho _ ih =>
      rw [withoutComments_comment ht hs, withoutComments_comment ht' ho, ih]

theorem SameButComments.cleanLines_eq {source other : List Char}
    (h : SameButComments source other) : cleanLines source = cleanLines other := by
  rw [← cleanLines_withoutComments source, h.withoutComments_eq, cleanLines_withoutComments]

/-- A text without comments may stand before both sources. -/
theorem SameButComments.append_left {front source other : List Char} (hf : ';' ∉ front)
    (h : SameButComments source other) : SameButComments (front ++ source) (front ++ other) := by
  induction front with
  | nil => exact h
  | cons c front ih =>
      obtain ⟨hc, hrest⟩ := List.ne_and_not_mem_of_not_mem_cons hf
      exact .char hc.symm (ih hrest)

/-! ## The outcome -/

/-- Two sources have the same units, the same score as a whole and the same report. -/
structure SameOutcome (parser : Java.Parser) (dialect : Dialect) (fileName : FileName)
    (source other : List Char) : Prop where
  units : scanUnits dialect source = scanUnits dialect other
  global : globalScore dialect (cleanLines source) = globalScore dialect (cleanLines other)
  report : calculate parser dialect.language (CodePoint.ofChars source) fileName =
    calculate parser dialect.language (CodePoint.ofChars other) fileName

theorem SameOutcome.of_cleanLines {source other : List Char}
    (h : cleanLines source = cleanLines other) (parser : Java.Parser) (dialect : Dialect)
    (fileName : FileName) : SameOutcome parser dialect fileName source other where
  units := by rw [scanUnits, scanUnits, h]
  global := by rw [h]
  report := by rw [calculate_eq, calculate_eq, unitsAndRemarks, unitsAndRemarks, h]

/-- Deleting all comments of a source, or changing their text, changes neither the units nor the
score as a whole nor the report. -/
theorem sameOutcome_withoutComments (parser : Java.Parser) (dialect : Dialect)
    (fileName : FileName) (source : List Char) :
    SameOutcome parser dialect fileName source (withoutComments source) ∧
      ∀ other, SameButComments source other →
        SameOutcome parser dialect fileName source other := by
  have hclean := cleanLines_withoutComments source
  refine ⟨.of_cleanLines hclean.symm parser dialect fileName, ?_⟩
  intro other h
  have hother := cleanLines_withoutComments other
  rw [← h.withoutComments_eq, hclean] at hother
  exact .of_cleanLines hother parser dialect fileName

/-- A comment after a label and one on a line of its own, each with another text. -/
theorem sameOutcome_of_comment_text :
    SameOutcome (Java.parse none) .x86 "f.asm" "f:;JE\r;b\nJE".toList
      "f:;\r;; JNE x\nJE".toList := by
  refine (sameOutcome_withoutComments (Java.parse none) .x86 "f.asm" _).2 _ ?_
  change SameButComments ('f' :: ':' :: ';' :: ("JE".toList ++ '\r' :: ';' :: ("b".toList ++
      '\n' :: 'J' :: 'E' :: []))) ('f' :: ':' :: ';' :: ([] ++ '\r' :: ';' ::
      ("; JNE x".toList ++ '\n' :: 'J' :: 'E' :: [])))
  have hlast : SameButComments ['J', 'E'] ['J', 'E'] :=
    .char (by decide) (.char (by decide) .nil)
  have hsecond := SameButComments.comment (by decide : Unbroken "b".toList)
    (by decide : Unbroken "; JNE x".toList) (by simp [AtLineEnd]) (by simp [AtLineEnd])
    (.char (by decide : '\n' ≠ ';') hlast)
  have hfirst := SameButComments.comment (by decide : Unbroken "JE".toList) unbroken_nil
    (by simp [AtLineEnd]) (by simp [AtLineEnd]) (.char (by decide : '\r' ≠ ';') hsecond)
  exact .char (by decide) (.char (by decide) hfirst)

end Cyclomatic.Assembly
