import Cyclomatic.Proofs.Render.RoundTrip
import Cyclomatic.Proofs.Report.Ranking
import Mathlib

/-! # Text reports are read back

A text report has a line for each unit, on which its name stands without quotes before the score.
No name can be mistaken for another one all the same: a line ends with a digit or with the marker,
and before them there is only one place where the score can begin. The lines with the marker are
those of the units above the threshold, which the other forms of the report list and count. -/

namespace Cyclomatic

/-! ## Lines -/

/-- A text on one line. -/
def OneLine (text : String) : Prop :=
  '\n' ∉ text.toList

instance (text : String) : Decidable (OneLine text) :=
  inferInstanceAs (Decidable (_ ∉ _))

theorem OneLine.append {front back : String} (hf : OneLine front) (hb : OneLine back) :
    OneLine (front ++ back) := by
  simp only [OneLine, String.toList_append, List.mem_append, not_or]
  exact ⟨hf, hb⟩

theorem oneLine_toString_int (n : Int) : OneLine (toString n) := by
  intro hfeed
  rcases Text.mem_toString_int hfeed with hsign | hdigit
  · exact absurd hsign (by decide)
  · exact absurd hdigit (by decide)

/-- A text that is made of lines, with a line feed at the end of each of them and nowhere else. -/
structure MadeOf (lines : List String) (text : String) : Prop where
  joined : text = String.join (lines.map (· ++ "\n"))
  oneLine : ∀ line ∈ lines, OneLine line

/-- The lines of a text are known. -/
theorem MadeOf.unique {lines others : List String} {text : String} (h : MadeOf lines text)
    (ho : MadeOf others text) : lines = others := by
  have hchars {lines : List String} (h : MadeOf lines text) :
      text.toList = (lines.map String.toList).flatMap (· ++ ['\n']) := by
    rw [h.joined]
    simp [String.toList_join, List.flatMap_map]
  have hlines {lines : List String} (h : MadeOf lines text) :
      ∀ line ∈ lines.map String.toList, '\n' ∉ line := by
    intro line hm
    obtain ⟨shown, hshown, rfl⟩ := List.mem_map.mp hm
    exact h.oneLine shown hshown
  have hsame := Text.flatMap_mark_inj (hlines h) (hlines ho) ((hchars h).symm.trans (hchars ho))
  exact List.map_injective_iff.mpr (fun _ _ => String.toList_injective) hsame

namespace Report

/-! ## The line of a unit -/

theorem unitLine_eq (threshold : Number) (entry : String × Int) :
    unitLine threshold entry =
      "  " ++ entry.1 ++ ": " ++ toString entry.2 ++
        if threshold.below entry.2 then warningMarker else "" := rfl

/-- Whether a line ends with the marker. -/
def isMarked (line : String) : Bool :=
  warningMarker.toList.isSuffixOf line.toList

/-- A line that does not end with the marker ends with a digit. -/
theorem isMarked_unitLine (threshold : Number) (entry : String × Int) :
    isMarked (unitLine threshold entry) = threshold.below entry.2 := by
  rw [Bool.eq_iff_iff, isMarked, List.isSuffixOf_iff_suffix, unitLine_eq, String.toList_append]
  cases threshold.below entry.2 with
  | true => exact iff_of_true (List.suffix_append _ _) rfl
  | false =>
      refine iff_of_false ?_ Bool.false_ne_true
      rintro ⟨front, hfront⟩
      obtain ⟨c, hlast, hdigit⟩ := Text.getLast?_toString_int entry.2
      have hends := congrArg List.getLast? hfront
      rw [if_neg Bool.false_ne_true, String.toList_empty, List.append_nil, String.toList_append,
        List.getLast?_append, List.getLast?_append, hlast] at hends
      have hmark : c = '\uFE0F' := (Option.some.inj hends).symm
      rw [hmark] at hdigit
      exact absurd hdigit (by decide)

theorem toString_int_inj {m n : Int} (h : toString m = toString n) : m = n := by
  have hread (k : Int) : Json.readInt ((toString k).toList ++ []) = some (k, []) :=
    Json.readInt_toString k (by simp [Json.NoDigit])
  have hm := hread m
  rw [h, hread n] at hm
  exact (Prod.mk.inj (Option.some.inj hm)).1.symm

/-- The last space of a line without its marker stands before the score. -/
theorem unitLine_inj {threshold : Number} {entry other : String × Int}
    (h : unitLine threshold entry = unitLine threshold other) : entry = other := by
  have hbelow := isMarked_unitLine threshold entry
  rw [h, isMarked_unitLine] at hbelow
  rw [unitLine_eq, unitLine_eq, hbelow, String.append_left_inj] at h
  have hsplit (name : String) (score : Int) :
      ("  " ++ name ++ ": " ++ toString score).toList =
        ("  ".toList ++ name.toList ++ [':']) ++ ' ' :: (toString score).toList := by
    simp only [String.toList_append, List.append_assoc]
    rfl
  have hspace (score : Int) : ' ' ∉ (toString score).toList := by
    intro hm
    rcases Text.mem_toString_int hm with hsign | hdigit
    · exact absurd hsign (by decide)
    · exact absurd hdigit (by decide)
  have hchars := congrArg String.toList h
  rw [hsplit, hsplit] at hchars
  obtain ⟨hfront, hscore⟩ :=
    Text.append_mark_inj_last (hspace entry.2) (hspace other.2) hchars
  have hname := List.append_cancel_left (List.append_cancel_right hfront)
  exact Prod.ext (String.toList_injective hname)
    (toString_int_inj (String.toList_injective hscore))

/-! ## The lines of a report -/

/-- A report all of whose names are on one line. -/
structure NamesOnOneLine (report : Report) : Prop where
  fileName : ∃ name, report.fileName = .text name ∧ OneLine name
  language : OneLine report.language
  units : ∀ entry ∈ report.units.entries, OneLine entry.1

theorem oneLine_unitLine (threshold : Number) {entry : String × Int} (h : OneLine entry.1) :
    OneLine (unitLine threshold entry) := by
  have hname : OneLine ("  " ++ entry.1 ++ ": ") :=
    (OneLine.append (by decide) h).append (by decide)
  have hscore := hname.append (oneLine_toString_int entry.2)
  rw [unitLine_eq]
  split
  · exact hscore.append (by decide)
  · exact hscore.append (by decide)

theorem NamesOnOneLine.mostComplexUnit {report : Report} (h : report.NamesOnOneLine) :
    OneLine report.mostComplexUnit := by
  by_cases hentries : report.units.entries = []
  · have hnone : report.mostComplexUnit = "N/A" := by
      simp [Report.mostComplexUnit, highest?, hentries]
    rw [hnone]
    decide
  · exact h.units _ (firstHighest_of_units hentries).mem

theorem NamesOnOneLine.oneLine_of_mem {report : Report} (h : report.NamesOnOneLine)
    {threshold : Number} {line : String} (hm : line ∈ report.summaryLines threshold) :
    OneLine line := by
  rcases List.mem_append.mp hm with hm | hm
  · simp only [List.mem_cons, List.not_mem_nil, or_false] at hm
    rcases hm with rfl | rfl | rfl | rfl | rfl | rfl
    · obtain ⟨name, hname, hline⟩ := h.fileName
      have hfile : OneLine ("File: " ++ name) := .append (by decide) hline
      rw [hname]
      exact ((hfile.append (by decide)).append h.language).append (by decide)
    · exact .append (by decide) (oneLine_toString_int report.unitCount)
    · exact .append (by decide) (oneLine_toString_int report.totalComplexity)
    · have hmax : OneLine ("Max Complexity: " ++ toString report.maxComplexity) :=
        .append (by decide) (oneLine_toString_int report.maxComplexity)
      exact (hmax.append (by decide)).append h.mostComplexUnit
    · decide
    · decide
  · obtain ⟨entry, hentry, rfl⟩ := List.mem_map.mp hm
    exact oneLine_unitLine threshold (h.units entry (report.ranked_perm.subset hentry))

theorem length_summaryLines (report : Report) (threshold : Number) :
    (report.summaryLines threshold).length = 6 + report.unitCount := by
  rw [summaryLines, List.length_append, List.length_map, report.ranked_perm.length_eq]
  rfl

/-! ## The units above the threshold -/

/-- The names of those units whose lines end with the marker. -/
def markedUnits (units : List (String × Int)) (lines : List String) : List String :=
  ((units.zip lines).filter fun shown => isMarked shown.2).map (·.1.1)

theorem markedUnits_unitLine (threshold : Number) (units : List (String × Int)) :
    markedUnits units (units.map (unitLine threshold)) =
      (units.filter fun entry => threshold.below entry.2).map (·.1) := by
  unfold markedUnits
  induction units with
  | nil => rfl
  | cons entry units ih =>
      rw [List.map_cons, List.zip_cons_cons, List.filter_cons, List.filter_cons, isMarked_unitLine]
      split
      · rw [List.map_cons, List.map_cons, ih]
      · exact ih

/-! ## The panel -/

/-- The lines of a panel that counts some units: the figures, and how many units these are if there
are any. -/
def panelLines (screen : Screen) (report : Report) (threshold : Number) (units : List String) :
    List String :=
  (s!"Units: [bold]{report.unitCount}[/bold]   " ++
    s!"Total complexity: [bold]{report.totalComplexity}[/bold]   " ++
    s!"Max: {scoreLabel report.maxComplexity threshold} in " ++
    s!"[cyan]{screen.escape report.mostComplexUnit}[/cyan]") ::
  if units = [] then [] else [s!"[red]{units.length} unit(s) above {threshold.text}[/red]"]

theorem figuresLine_eq (screen : Screen) (report : Report) (threshold : Number) :
    report.figuresLine screen threshold =
      s!"Units: [bold]{report.unitCount}[/bold]   " ++
        s!"Total complexity: [bold]{report.totalComplexity}[/bold]   " ++
        s!"Max: {scoreLabel report.maxComplexity threshold} in " ++
        s!"[cyan]{screen.escape report.mostComplexUnit}[/cyan]" := by
  rw [← String.toList_inj]
  simp only [figuresLine, Markup.styled, String.toList_append, List.append_assoc, toString]
  rfl

theorem flaggedLine_eq (report : Report) (threshold : Number) :
    report.flaggedLine threshold =
      s!"[red]{(report.unitsAbove threshold).length} unit(s) above {threshold.text}[/red]" := by
  rw [← String.toList_inj]
  simp only [flaggedLine, Markup.styled, String.toList_append, List.append_assoc, toString]
  rfl

theorem panelBody_of_writable {report : Report} (h : report.Writable) (screen : Screen)
    {threshold : Number} (ht : report.unitsAbove threshold ≠ [] →
      ∀ n ∈ threshold.integers, FewDigits n) :
    report.panelBody screen threshold = .ok ("\n".intercalate
      (panelLines screen report threshold (report.unitsAbove threshold))) := by
  have hfigures : ∀ n ∈ [(report.unitCount : Int), report.totalComplexity, report.maxComplexity],
      FewDigits n := by
    simp only [List.forall_mem_cons]
    exact ⟨h.count, h.total, h.max, List.forall_mem_nil _⟩
  rw [panelBody, withFigures_of_fewDigits]
  · rw [panelLines, ← figuresLine_eq, ← flaggedLine_eq]
    cases habove : report.unitsAbove threshold with
    | nil => rfl
    | cons name names => rfl
  · unfold panelFigures
    cases habove : report.unitsAbove threshold with
    | nil => exact hfigures
    | cons name names =>
        exact List.forall_mem_append.mpr ⟨hfigures, ht (habove ▸ List.cons_ne_nil name names)⟩

/-! ## The whole report -/

/-- What the lines of a text report show, and how they fit the other forms of the report. -/
structure ShowsUnits (screen : Screen) (report : Report) (threshold : Number)
    (lines : List String) : Prop where
  madeOf : ∃ text, report.summary threshold = .ok text ∧ MadeOf lines text
  count : lines.length = 6 + report.unitCount
  /-- After six lines there is one for each unit, in the order of the ranking. -/
  units : lines.drop 6 = report.ranked.map (unitLine threshold)
  marked : markedUnits report.ranked (lines.drop 6) = report.unitsAbove threshold
  /-- The marked lines come first. -/
  first : markedUnits report.ranked (lines.drop 6) <+: report.ranked.map (·.1)
  /-- A JSON report lists the units on marked lines. -/
  json : ∃ text members, report.format screen threshold .json = .ok text ∧
    Json.read? text = some (.object members) ∧ members.lookup "over_threshold" =
      some (.list ((markedUnits report.ranked (lines.drop 6)).map .text))
  /-- A panel counts the marked lines if there are any, and shows no count if there are none. The
  threshold stands beside the count, so it has to be short enough there. -/
  panel : (markedUnits report.ranked (lines.drop 6) ≠ [] → ∀ n ∈ threshold.integers, FewDigits n) →
    report.panelBody screen threshold = .ok ("\n".intercalate
      (panelLines screen report threshold (markedUnits report.ranked (lines.drop 6))))

theorem NamesOnOneLine.showsUnits {report : Report} (h : report.NamesOnOneLine)
    (hw : report.Writable) (screen : Screen) (threshold : Number) :
    ShowsUnits screen report threshold (report.summaryLines threshold) := by
  have hmarked : markedUnits report.ranked ((report.summaryLines threshold).drop 6) =
      report.unitsAbove threshold :=
    markedUnits_unitLine threshold report.ranked
  refine ⟨⟨_, summary_eq_ok_iff.mpr ⟨hw, rfl⟩, rfl, fun _ hm => h.oneLine_of_mem hm⟩,
    report.length_summaryLines threshold, rfl, hmarked, ?_, ?_, ?_⟩
  · rw [hmarked]
    exact report.unitsAbove_prefix threshold
  · rw [hmarked]
    obtain ⟨name, hname, -⟩ := h.fileName
    obtain ⟨_, language, units⟩ := report
    obtain rfl := hname
    exact ⟨_, _, json_of_writable name language units threshold hw, Json.read?_write _, rfl⟩
  · rw [hmarked]
    exact panelBody_of_writable hw screen

/-- If the figures of a report can be written, its text has six lines and one for each unit by
falling score, of which those of the units above the threshold are marked, as many as the other
forms show; if not, there is no text. Two reports with the same text have the same units with the
same scores in this order. -/
theorem summary_showsUnits {report : Report} (h : report.NamesOnOneLine) (screen : Screen)
    (threshold : Number) :
    (report.Writable → ∃ lines, ShowsUnits screen report threshold lines) ∧
      (¬ report.Writable → report.summary threshold = .error tooLong) ∧
      ∀ (other : Report) (text : String), other.NamesOnOneLine →
        report.summary threshold = .ok text → other.summary threshold = .ok text →
          other.ranked = report.ranked := by
  refine ⟨fun hw => ⟨_, h.showsUnits hw screen threshold⟩, ?_, ?_⟩
  · intro hw
    rw [summary, withFigures_of_not]
    rwa [fewDigits_figures_iff]
  · intro other text ho htext hother
    obtain ⟨-, hjoined⟩ := summary_eq_ok_iff.mp htext
    obtain ⟨-, hotherJoined⟩ := summary_eq_ok_iff.mp hother
    have hlines : MadeOf (report.summaryLines threshold) text :=
      ⟨hjoined.symm, fun _ hm => h.oneLine_of_mem hm⟩
    have hotherLines : MadeOf (other.summaryLines threshold) text :=
      ⟨hotherJoined.symm, fun _ hm => ho.oneLine_of_mem hm⟩
    have hunits := congrArg (List.drop 6) (hotherLines.unique hlines)
    exact List.map_injective_iff.mpr (fun _ _ => unitLine_inj) hunits

/-- A name that reads like a line with a marker, in two orders of the units. -/
theorem summary_showsUnits_of_marker_in_name :
    let report : Report := ⟨"a.asm", "Assembler", ⟨[("f: 12 ⚠️", 3), ("f", 12)]⟩⟩
    let other : Report := ⟨"a.asm", "Assembler", ⟨[("f", 12), ("f: 12 ⚠️", 3)]⟩⟩
    report.NamesOnOneLine ∧ report.Writable ∧
      other.summary (.int 10) = report.summary (.int 10) ∧
      (∃ lines, ShowsUnits .plain report (.int 10) lines) ∧ other.ranked = report.ranked := by
  intro report other
  have h : report.NamesOnOneLine := ⟨⟨_, rfl, by decide⟩, by decide, by decide⟩
  have ho : other.NamesOnOneLine := ⟨⟨_, rfl, by decide⟩, by decide, by decide⟩
  have hw : report.Writable := by
    rw [← fewDigits_figures_iff]
    exact fun n hn => isWritable_iff.mp (List.all_eq_true.mp (by decide) n hn)
  have hsame : other.summary (.int 10) = report.summary (.int 10) := by cbv
  obtain ⟨hlines, -, hranked⟩ := summary_showsUnits h .plain (.int 10)
  have htext : report.summary (.int 10) = .ok (report.joinedLines (.int 10)) :=
    summary_eq_ok_iff.mpr ⟨hw, rfl⟩
  exact ⟨h, hw, hsame, hlines hw, hranked other _ ho htext (hsame.trans htext)⟩

/-- The scores are short enough to be written, but their sum is not, so there are no lines. -/
theorem no_summary_of_long_total :
    twoLongScores.NamesOnOneLine ∧ twoLongScores.summary (.int 10) = .error tooLong := by
  refine ⟨⟨⟨_, rfl, by decide⟩, by decide, ?_⟩, ?_⟩
  · intro entry hentry
    simp only [twoLongScores, List.mem_cons, List.not_mem_nil, or_false] at hentry
    rcases hentry with rfl | rfl
    · decide
    · decide
  · rw [summary, withFigures_of_not]
    rw [fewDigits_figures_iff]
    exact not_writable_twoLongScores

end Report

end Cyclomatic
