import Cyclomatic.Proofs.Assembly.Comments
import Cyclomatic.Proofs.Assembly.Roles

/-! # The case of letters does not matter

To write the ASCII letters of a source in lower case changes no line's role and no line's points,
and the names of its units as it changes the source. So two sources that differ only in the case of
letters are scanned alike. Letters beyond ASCII are not touched. -/

namespace Cyclomatic.Text

/-- A character, or the same ASCII letter in the other case. -/
def CaseVariant (c d : Char) : Prop :=
  d = c ∨ d = c.toUpper ∨ d = c.toLower

/-- Two texts that differ only in the case of ASCII letters. -/
def SameButCase (text other : List Char) : Prop :=
  List.Forall₂ CaseVariant text other

theorem caseVariant_iff (c d : Char) : CaseVariant c d ↔ c.toLower = d.toLower := by
  constructor
  · rintro (rfl | rfl | rfl) <;> simp
  · intro h
    by_cases hd : d.isLower = true
    · have hu : ¬ d.isUpper = true := by
        intro hu
        simp only [Char.isLower, Char.isUpper, ge_iff_le, Bool.and_eq_true, decide_eq_true_eq,
          UInt32.le_iff_toNat_le] at hd hu
        have hle := Nat.le_trans hd.1 hu.2
        exact absurd hle (by decide)
      exact Or.inr (Or.inr (by rw [h, Char.toLower_eq_of_not_isUpper hu]))
    · refine Or.inr (Or.inl ?_)
      rw [← Char.toUpper_toLower_eq_toUpper c, h, Char.toUpper_toLower_eq_toUpper,
        Char.toUpper_eq_of_not_isLower hd]

theorem sameButCase_iff (text other : List Char) :
    SameButCase text other ↔ text.map Char.toLower = other.map Char.toLower := by
  have hchar : CaseVariant = fun c d => c.toLower = d.toLower := by
    funext c d
    exact propext (caseVariant_iff c d)
  rw [SameButCase, hchar, ← List.forall₂_eq_eq_eq, List.forall₂_map_left_iff,
    List.forall₂_map_right_iff]

/-! ## Characters and lines -/

/-- What does not tell the two cases of a letter apart is the same for a text in lower case. -/
theorem apply_toLower {α : Type} {f : Char → α}
    (h : ∀ c : Char, c.isAlpha = true → f c.toLower = f c) (c : Char) : f c.toLower = f c := by
  by_cases hu : c.isUpper = true
  · exact h c (by simp [Char.isAlpha, hu])
  · rw [Char.toLower_eq_of_not_isUpper hu]

theorem isBlank_toLower (c : Char) : isBlank c.toLower = isBlank c := by
  apply apply_toLower
  intro c hc
  have hl : c.toLower.isAlpha = true := by simpa using hc
  rw [isBlank_of_isAlpha hc, isBlank_of_isAlpha hl]

theorem isWordChar_toLower (c : Char) : isWordChar c.toLower = isWordChar c := by
  apply apply_toLower
  intro c hc
  have hl : c.toLower.isAlpha = true := by simpa using hc
  rw [Assembly.isWordChar_of_name (Or.inl hc), Assembly.isWordChar_of_name (Or.inl hl)]

theorem upperChar_toLower (c : Char) : upperChar c.toLower = upperChar c := by
  apply apply_toLower
  intro c hc
  have hl : c.toLower.isAlpha = true := by simpa using hc
  have hb := toNat_bounds_of_isAlpha hc
  have hlb := toNat_bounds_of_isAlpha hl
  have hascii : c.toNat < 128 := by omega
  have hlascii : c.toLower.toNat < 128 := by omega
  rw [upperChar, if_pos hlascii, upperChar, if_pos hascii, Char.toUpper_toLower_eq_toUpper]

/-- Only a letter becomes another character. -/
theorem toLower_eq_iff {d : Char} (hd : d.isAlpha = false) (c : Char) :
    c.toLower = d ↔ c = d := by
  have hsame : d.toLower = d :=
    Char.toLower_eq_of_not_isUpper fun hu => by simp [Char.isAlpha, hu] at hd
  constructor
  · intro h
    have hc : ¬ c.isUpper = true := by
      intro hu
      have ha : c.toLower.isAlpha = true := by simp [Char.isAlpha, hu]
      rw [h, hd] at ha
      cases ha
    rwa [Char.toLower_eq_of_not_isUpper hc] at h
  · rintro rfl
    exact hsame

theorem upper_map_toLower (cs : List Char) : upper (cs.map Char.toLower) = upper cs := by
  induction cs with
  | nil => rfl
  | cons c cs ih =>
      simp only [upper, List.map_cons, List.flatMap_cons, upperChar_toLower] at ih ⊢
      rw [ih]

theorem isBlank_comp_toLower : isBlank ∘ Char.toLower = isBlank :=
  funext isBlank_toLower

theorem trim_map_toLower (cs : List Char) :
    trim (cs.map Char.toLower) = (trim cs).map Char.toLower := by
  simp only [trim, dropWhileEnd, List.dropWhile_map, ← List.map_reverse, isBlank_comp_toLower]

theorem sourceLinesOnto_map_toLower (done : List (List Char)) (line cs : List Char) :
    sourceLinesOnto (done.map (·.map Char.toLower)) (line.map Char.toLower)
        (cs.map Char.toLower) =
      (sourceLinesOnto done line cs).map (·.map Char.toLower) := by
  fun_induction sourceLinesOnto done line cs with
  | case1 done line =>
      cases line <;> simp [sourceLinesOnto]
  | case2 done line rest ih =>
      have hr : Char.toLower '\r' = '\r' := by decide
      have hn : Char.toLower '\n' = '\n' := by decide
      rw [List.map_cons, List.map_cons, hr, hn, sourceLinesOnto, ← ih, List.map_cons,
        List.map_reverse, List.map_nil]
  | case3 done line c rest h hc ih =>
      have hlower : c.toLower = c := by rcases hc with rfl | rfl <;> decide
      have hnext : ¬ (c = '\r' ∧ (rest.map Char.toLower).head? = some '\n') := by
        rintro ⟨rfl, hhead⟩
        rw [List.head?_map, Option.map_eq_some_iff] at hhead
        obtain ⟨d, hd, hlow⟩ := hhead
        obtain rfl := (toLower_eq_iff (by decide) d).mp hlow
        obtain ⟨tail, rfl⟩ := List.head?_eq_some_iff.mp hd
        exact h tail rfl rfl
      rw [List.map_cons, hlower, sourceLinesOnto_terminator hc _ hnext, ← ih, List.map_cons,
        List.map_reverse, List.map_nil]
  | case4 done line c rest h hc ih =>
      have hother : ¬ (c.toLower = '\n' ∨ c.toLower = '\r') := by
        rw [toLower_eq_iff (by decide), toLower_eq_iff (by decide)]
        exact hc
      rw [List.map_cons, sourceLinesOnto_other hother, ← List.map_cons, ih]

end Cyclomatic.Text

namespace Cyclomatic.Assembly

open Text

theorem cleanLine?_map_toLower (line : List Char) :
    cleanLine? (line.map Char.toLower) = (cleanLine? line).map (·.map Char.toLower) := by
  have hcut : (fun c => c != ';') ∘ Char.toLower = fun c => c != ';' := by
    funext c
    have hc := toLower_eq_iff (d := ';') (by decide) c
    simp only [Function.comp_apply, bne, beq_eq_decide, hc]
  rw [cleanLine?_eq, cleanLine?_eq, List.takeWhile_map, hcut, trim_map_toLower]
  by_cases h : trim (line.takeWhile fun c => c != ';') = [] <;> simp [h]

theorem cleanLines_map_toLower (source : List Char) :
    cleanLines (source.map Char.toLower) = (cleanLines source).map (·.map Char.toLower) := by
  have hlines := sourceLinesOnto_map_toLower [] [] source
  rw [List.map_nil, List.map_nil] at hlines
  rw [cleanLines, sourceLines, hlines, cleanLines, sourceLines, List.filterMap_map,
    List.map_filterMap]
  apply List.filterMap_congr
  intro line _
  exact cleanLine?_map_toLower line

/-! ## Points and patterns -/

theorem points_map_toLower (dialect : Dialect) (line : List Char) :
    dialect.points (line.map Char.toLower) = dialect.points line := by
  have hword : (fun c => !isBlank c) ∘ Char.toLower = fun c => !isBlank c := by
    funext c
    simp only [Function.comp_apply, isBlank_toLower]
  have hfirst : (firstWord (line.map Char.toLower)).1 = (firstWord line).1.map Char.toLower := by
    simp only [firstWord, List.span_eq_takeWhile_dropWhile, List.dropWhile_map,
      isBlank_comp_toLower, List.takeWhile_map, hword]
  simp only [Dialect.points, opcode, hfirst, upper_map_toLower]

theorem pointsIn_map_toLower (dialect : Dialect) (lines : List (List Char)) :
    dialect.pointsIn (lines.map (·.map Char.toLower)) = dialect.pointsIn lines := by
  induction lines with
  | nil => rfl
  | cons line rest ih =>
      rw [List.map_cons, Dialect.pointsIn_cons, Dialect.pointsIn_cons, ih, points_map_toLower]

/-- A name in lower case. -/
def lowered (name : String) : String :=
  String.ofList (name.toList.map Char.toLower)

theorem isDigit_toLower (c : Char) : c.toLower.isDigit = c.isDigit := by
  have hletter {d : Char} (hd : d.isAlpha = true) : d.isDigit = false := by
    rw [Bool.eq_false_iff]
    intro hdigit
    have hb := toNat_bounds_of_isAlpha hd
    have hn := Char.isDigit_iff_toNat.mp hdigit
    simp only [Char.reduceToNat] at hn
    omega
  apply apply_toLower
  intro c hc
  rw [hletter hc, hletter (by simpa using hc)]

/-- A name is read off a line that starts with a letter or an underscore. -/
theorem takeName?_eq (letter : Char → Bool) (line : List Char) :
    takeName? letter line =
      if line.head?.any (fun c => letter c || c == '_') then
        some (String.ofList (line.takeWhile fun d => letter d || d.isDigit || d == '_'),
          line.dropWhile fun d => letter d || d.isDigit || d == '_')
      else none := by
  cases line with
  | nil => rfl
  | cons c tail =>
      rw [takeName?, List.span_eq_takeWhile_dropWhile, List.head?_cons, Option.any_some]

theorem takeName?_map_toLower {letter : Char → Bool}
    (h : ∀ c : Char, letter c.toLower = letter c) (line : List Char) :
    takeName? letter (line.map Char.toLower) =
      (takeName? letter line).map fun read => (lowered read.1, read.2.map Char.toLower) := by
  have hscore (c : Char) : (c.toLower == '_') = (c == '_') := by
    simp only [beq_eq_decide, toLower_eq_iff (d := '_') (by decide) c]
  have hname : (fun d => letter d || d.isDigit || d == '_') ∘ Char.toLower =
      fun d => letter d || d.isDigit || d == '_' := by
    funext c
    simp only [Function.comp_apply, h, isDigit_toLower, hscore]
  have hfirst : ((line.map Char.toLower).head?.any fun c => letter c || c == '_') =
      line.head?.any fun c => letter c || c == '_' := by
    cases line with
    | nil => rfl
    | cons c tail => simp only [List.map_cons, List.head?_cons, Option.any_some, h, hscore]
  rw [takeName?_eq, takeName?_eq, hfirst, List.takeWhile_map, List.dropWhile_map, hname]
  split
  · rw [Option.map_some, lowered, String.toList_ofList]
  · rfl

theorem isFoldedLetter_toLower (c : Char) : isFoldedLetter c.toLower = isFoldedLetter c := by
  apply apply_toLower
  intro c hc
  simp [isFoldedLetter, hc]

theorem foldChar_toLower (c : Char) : foldChar c.toLower = foldChar c := by
  apply apply_toLower
  intro c hc
  have hl : c.toLower.isAlpha = true := by simpa using hc
  rw [foldChar_of_name (Or.inl hl), foldChar_of_name (Or.inl hc),
    Char.toLower_toLower_eq_toLower]

theorem skipBlanks?_map_toLower (line : List Char) :
    skipBlanks? (line.map Char.toLower) = (skipBlanks? line).map (·.map Char.toLower) := by
  cases line with
  | nil => rfl
  | cons c rest =>
      by_cases hc : isBlank c = true <;>
        simp [skipBlanks?, isBlank_toLower, hc, List.dropWhile_map, isBlank_comp_toLower]

theorem skipKeyword?_map_toLower (keyword line : List Char) :
    skipKeyword? keyword (line.map Char.toLower) =
      (skipKeyword? keyword line).map (·.map Char.toLower) := by
  induction keyword generalizing line with
  | nil => rfl
  | cons k keyword ih =>
      cases line with
      | nil => rfl
      | cons c line =>
          simp only [List.map_cons, skipKeyword?, foldChar_toLower, ih]
          split <;> rfl

theorem atWordEnd_map_toLower (line : List Char) :
    atWordEnd (line.map Char.toLower) = atWordEnd line := by
  cases line <;> simp [atWordEnd, isWordChar_toLower]

theorem namedDirective?_map_toLower (keyword line : List Char) :
    namedDirective? keyword (line.map Char.toLower) =
      (namedDirective? keyword line).map lowered := by
  unfold namedDirective?
  rw [takeName?_map_toLower isFoldedLetter_toLower]
  cases takeName? isFoldedLetter line with
  | none => rfl
  | some read =>
      simp only [Option.map_some, Option.bind_eq_bind, Option.bind_some, skipBlanks?_map_toLower]
      cases skipBlanks? read.2 with
      | none => rfl
      | some after =>
          simp only [Option.map_some, Option.bind_some, skipKeyword?_map_toLower]
          cases skipKeyword? keyword after with
          | none => rfl
          | some rest =>
              simp only [Option.map_some, Option.bind_some, atWordEnd_map_toLower]
              split <;> rfl

theorem label?_map_toLower (line : List Char) :
    label? (line.map Char.toLower) = (label? line).map lowered := by
  unfold label?
  rw [takeName?_map_toLower fun c => Char.isAlpha_toLower_eq_isAlpha c]
  cases takeName? Char.isAlpha line with
  | none => rfl
  | some read =>
      obtain ⟨name, rest⟩ := read
      have hcolon : ((rest.map Char.toLower).head? == some ':') = (rest.head? == some ':') := by
        cases rest with
        | nil => rfl
        | cons c rest => simp [toLower_eq_iff]
      simp only [Option.map_some, Option.bind_eq_bind, Option.bind_some, hcolon]
      split <;> rfl

theorem mos6502Open?_map_toLower (line : List Char) :
    mos6502Open? (line.map Char.toLower) = (mos6502Open? line).map lowered := by
  unfold mos6502Open?
  rw [skipKeyword?_map_toLower]
  cases skipKeyword? ['.', 'p', 'r', 'o', 'c'] line with
  | none => rfl
  | some rest =>
      simp only [Option.map_some, Option.bind_eq_bind, Option.bind_some, skipBlanks?_map_toLower]
      cases skipBlanks? rest with
      | none => rfl
      | some after =>
          simp only [Option.map_some, Option.bind_some,
            takeName?_map_toLower isFoldedLetter_toLower]
          cases takeName? isFoldedLetter after <;> rfl

theorem any_skipKeyword?_map_toLower {ends : List Char → Bool}
    (h : ∀ rest : List Char, ends (rest.map Char.toLower) = ends rest)
    (keyword line : List Char) :
    (skipKeyword? keyword (line.map Char.toLower)).any ends =
      (skipKeyword? keyword line).any ends := by
  rw [skipKeyword?_map_toLower]
  cases skipKeyword? keyword line with
  | none => rfl
  | some rest => exact h rest

theorem lineKind_map_toLower (line : List Char) :
    Mos6502.lineKind (line.map Char.toLower) =
      match Mos6502.lineKind line with
      | .procedure name => .procedure (lowered name)
      | .label name => .label (lowered name)
      | kind => kind := by
  have hblank (rest : List Char) :
      ((rest.map Char.toLower).head?.all isBlank) = rest.head?.all isBlank := by
    cases rest <;> simp [isBlank_toLower]
  have hclose : mos6502Close (line.map Char.toLower) = mos6502Close line :=
    any_skipKeyword?_map_toLower atWordEnd_map_toLower _ line
  have hsubroutine : mos6502Subroutine (line.map Char.toLower) = mos6502Subroutine line :=
    any_skipKeyword?_map_toLower hblank _ line
  have hreturn : mos6502Return (line.map Char.toLower) = mos6502Return line :=
    any_skipKeyword?_map_toLower atWordEnd_map_toLower _ line
  simp only [Mos6502.lineKind, mos6502Open?_map_toLower, label?_map_toLower, hclose, hsubroutine,
    hreturn]
  cases mos6502Open? line with
  | some name => rfl
  | none =>
      simp only [Option.map_none]
      split
      · rfl
      split
      · rfl
      split
      · rfl
      cases label? line <;> rfl

/-! ## Runs -/

/-- A unit with its name in lower case. -/
def ClosedUnit.lowered (unit : ClosedUnit) : ClosedUnit :=
  ⟨Assembly.lowered unit.name, unit.score⟩

/-- A state with its name in lower case. -/
def UnitState.lowered : UnitState → UnitState
  | .idle => .idle
  | .candidate name score => .candidate (Assembly.lowered name) score
  | .opened name score => .opened (Assembly.lowered name) score

theorem x86_step_lowered (state : UnitState) (line : List Char) :
    (Dialect.x86.step state.lowered (line.map Char.toLower)).state =
        (Dialect.x86.step state line).state.lowered ∧
      (Dialect.x86.step state.lowered (line.map Char.toLower)).closed =
        (Dialect.x86.step state line).closed.map ClosedUnit.lowered := by
  have hopen : x86Open? (line.map Char.toLower) = (x86Open? line).map lowered :=
    namedDirective?_map_toLower _ line
  have hclose : x86Close (line.map Char.toLower) = x86Close line := by
    simp [x86Close, namedDirective?_map_toLower]
  simp only [Dialect.step, x86Step, hopen, hclose, label?_map_toLower, points_map_toLower]
  cases x86Open? line with
  | some name => cases state <;> exact ⟨rfl, rfl⟩
  | none =>
      cases x86Close line with
      | true => cases state <;> exact ⟨rfl, rfl⟩
      | false =>
          cases state with
          | opened name score => exact ⟨rfl, rfl⟩
          | idle => cases label? line <;> exact ⟨rfl, rfl⟩
          | candidate name score => cases label? line <;> exact ⟨rfl, rfl⟩

theorem mos6502_step_lowered (state : UnitState) (line : List Char) :
    (Dialect.mos6502.step state.lowered (line.map Char.toLower)).state =
        (Dialect.mos6502.step state line).state.lowered ∧
      (Dialect.mos6502.step state.lowered (line.map Char.toLower)).closed =
        (Dialect.mos6502.step state line).closed.map ClosedUnit.lowered := by
  obtain ⟨hstate, hclosed⟩ := Prod.mk.inj (Mos6502.step_eq_transition state line)
  obtain ⟨hstate', hclosed'⟩ :=
    Prod.mk.inj (Mos6502.step_eq_transition state.lowered (line.map Char.toLower))
  rw [hstate, hclosed, hstate', hclosed', lineKind_map_toLower, points_map_toLower]
  cases Mos6502.lineKind line <;> cases state <;> exact ⟨rfl, rfl⟩

theorem step_lowered (dialect : Dialect) (state : UnitState) (line : List Char) :
    (dialect.step state.lowered (line.map Char.toLower)).state =
        (dialect.step state line).state.lowered ∧
      (dialect.step state.lowered (line.map Char.toLower)).closed =
        (dialect.step state line).closed.map ClosedUnit.lowered := by
  cases dialect with
  | x86 => exact x86_step_lowered state line
  | mos6502 => exact mos6502_step_lowered state line

theorem finalized_lowered (dialect : Dialect) (state : UnitState) (lines : List (List Char)) :
    dialect.finalized state.lowered (lines.map (·.map Char.toLower)) =
      (dialect.finalized state lines).map ClosedUnit.lowered := by
  induction lines generalizing state with
  | nil => cases state <;> rfl
  | cons line rest ih =>
      obtain ⟨hstate, hclosed⟩ := step_lowered dialect state line
      rw [List.map_cons, Dialect.finalized, hstate, hclosed, ih, Dialect.finalized,
        List.map_append]
      cases (dialect.step state line).closed <;> rfl

/-! ## Two sources -/

/-- Two units of equal score whose names differ only in the case of letters. -/
structure ClosedUnit.SameButCase (unit other : ClosedUnit) : Prop where
  name : Text.SameButCase unit.name.toList other.name.toList
  score : unit.score = other.score

theorem ClosedUnit.sameButCase_of_lowered {unit other : ClosedUnit}
    (h : unit.lowered = other.lowered) : unit.SameButCase other where
  name := by
    have hname := congrArg (fun u => u.name.toList) h
    simp only [ClosedUnit.lowered, Assembly.lowered, String.toList_ofList] at hname
    exact (sameButCase_iff _ _).mpr hname
  score := by
    have hscore := congrArg (fun u => u.score) h
    exact hscore

/-- If two sources differ only in the case of ASCII letters, their scans finalize the same number of
units in the same order, one by one with equal scores and with names that differ only in case, and
the sources have the same score as a whole. -/
theorem finalized_of_sameButCase (dialect : Dialect) {source other : List Char}
    (h : Text.SameButCase source other) :
    List.Forall₂ ClosedUnit.SameButCase (dialect.finalized .idle (cleanLines source))
        (dialect.finalized .idle (cleanLines other)) ∧
      globalScore dialect (cleanLines source) = globalScore dialect (cleanLines other) := by
  have hlower := (sameButCase_iff source other).mp h
  have hlines : (cleanLines source).map (·.map Char.toLower) =
      (cleanLines other).map (·.map Char.toLower) := by
    rw [← cleanLines_map_toLower, hlower, cleanLines_map_toLower]
  constructor
  · have hunits := finalized_lowered dialect .idle (cleanLines source)
    rw [hlines, finalized_lowered, ← List.forall₂_eq_eq_eq, List.forall₂_map_left_iff,
      List.forall₂_map_right_iff] at hunits
    have hflip := hunits.flip
    exact hflip.imp fun unit other h => ClosedUnit.sameButCase_of_lowered h.symm
  · rw [Dialect.globalScore_eq, Dialect.globalScore_eq, ← pointsIn_map_toLower, hlines,
      pointsIn_map_toLower]

/-- A name with a long s, which is a letter of a name and has no case variant here, in two
spellings. -/
theorem finalized_of_mixed_case :
    Text.SameButCase "fſ Proc\nje x".toList "Fſ pROC\nJE X".toList ∧
      Dialect.x86.finalized .idle (cleanLines "fſ Proc\nje x".toList) = [⟨"fſ", 2⟩] ∧
      Dialect.x86.finalized .idle (cleanLines "Fſ pROC\nJE X".toList) = [⟨"Fſ", 2⟩] ∧
      List.Forall₂ ClosedUnit.SameButCase
        (Dialect.x86.finalized .idle (cleanLines "fſ Proc\nje x".toList))
        (Dialect.x86.finalized .idle (cleanLines "Fſ pROC\nJE X".toList)) := by
  have h : Text.SameButCase "fſ Proc\nje x".toList "Fſ pROC\nJE X".toList :=
    (sameButCase_iff _ _).mpr (by decide)
  exact ⟨h, by decide, by decide, (finalized_of_sameButCase .x86 h).1⟩

end Cyclomatic.Assembly
