import Cyclomatic.Proofs.Number.Writing
import Cyclomatic.Proofs.Text.Blank
import Cyclomatic.Proofs.Text.Digits
import Cyclomatic.Report

/-! # Reports

Of the units with the greatest score a report names the first. A text report is made exactly if the
figures of the report have few enough digits, and it ends with exactly one line feed, whatever units
it shows: its last line is that of the last unit, which ends with a digit or a marker, or the
heading if there are no units. -/

namespace Cyclomatic

/-- A text that ends, and not with a line feed. -/
def EndsInLine (text : String) : Prop :=
  ∃ c, text.toList.getLast? = some c ∧ c ≠ '\n'

theorem EndsInLine.append {text : String} (h : EndsInLine text) (front : String) :
    EndsInLine (front ++ text) := by
  obtain ⟨c, hlast, hc⟩ := h
  refine ⟨c, ?_, hc⟩
  rw [String.toList_append, List.getLast?_append, hlast]
  rfl

theorem endsInLine_toString_int (n : Int) : EndsInLine (toString n) := by
  obtain ⟨c, hlast, hdigit⟩ := Text.getLast?_toString_int n
  refine ⟨c, hlast, ?_⟩
  rintro rfl
  exact absurd hdigit (by decide)

namespace Report

/-! ## The greatest score -/

/-- An entry scores more than those before it and no less than those after it. -/
def FirstHighest (entries : List (String × Int)) (entry : String × Int) : Prop :=
  ∃ front back, entries = front ++ entry :: back ∧
    (∀ other ∈ front, other.2 < entry.2) ∧ ∀ other ∈ back, other.2 ≤ entry.2

theorem FirstHighest.mem {entries : List (String × Int)} {best : String × Int}
    (h : FirstHighest entries best) : best ∈ entries := by
  obtain ⟨front, back, rfl, -, -⟩ := h
  exact List.mem_append_right front List.mem_cons_self

theorem FirstHighest.le {entries : List (String × Int)} {best : String × Int}
    (h : FirstHighest entries best) {entry : String × Int} (hm : entry ∈ entries) :
    entry.2 ≤ best.2 := by
  obtain ⟨front, back, rfl, hfront, hback⟩ := h
  rcases List.mem_append.mp hm with hm | hm
  · exact Int.le_of_lt (hfront entry hm)
  · rcases List.mem_cons.mp hm with rfl | hm
    · exact Int.le_refl _
    · exact hback entry hm

theorem FirstHighest.concat {entries : List (String × Int)} {best : String × Int}
    (h : FirstHighest entries best) (entry : String × Int) :
    FirstHighest (entries ++ [entry]) (if best.2 < entry.2 then entry else best) := by
  by_cases hlt : best.2 < entry.2
  · rw [if_pos hlt]
    refine ⟨entries, [], rfl, ?_, by simp⟩
    intro other ho
    exact Int.lt_of_le_of_lt (h.le ho) hlt
  · obtain ⟨front, back, rfl, hfront, hback⟩ := h
    rw [if_neg hlt]
    refine ⟨front, back ++ [entry], by simp, hfront, ?_⟩
    intro other ho
    rcases List.mem_append.mp ho with ho | ho
    · exact hback other ho
    · rw [List.mem_singleton.mp ho]
      exact Int.not_lt.mp hlt

/-- The best entry so far stays the first one with the greatest score. -/
theorem FirstHighest.highestOf {entries : List (String × Int)} {best : String × Int}
    (h : FirstHighest entries best) (rest : List (String × Int)) :
    FirstHighest (entries ++ rest) (highestOf best rest) := by
  induction rest generalizing entries best with
  | nil => rwa [List.append_nil]
  | cons entry rest ih =>
      have hnext := ih (h.concat entry)
      rwa [List.append_assoc, List.singleton_append] at hnext

/-- A report with units shows the first one with the greatest score. -/
theorem firstHighest_of_units {report : Report} (h : report.units.entries ≠ []) :
    FirstHighest report.units.entries (report.mostComplexUnit, report.maxComplexity) := by
  unfold mostComplexUnit maxComplexity highest?
  cases hentries : report.units.entries with
  | nil => exact absurd hentries h
  | cons entry rest =>
      have hfirst : FirstHighest [entry] entry := ⟨[], [], rfl, by simp, by simp⟩
      exact hfirst.highestOf rest

theorem highest?_eq_none_iff {report : Report} :
    report.highest? = none ↔ report.units.entries = [] := by
  unfold highest?
  cases report.units.entries <;> simp

/-! ## The figures -/

/-- A report whose figures have no more decimal digits than can be written. -/
structure Writable (report : Report) : Prop where
  count : FewDigits report.unitCount
  total : FewDigits report.totalComplexity
  scores : ∀ entry ∈ report.units.entries, FewDigits entry.2

/-- The greatest score is zero or the score of a unit. -/
theorem Writable.max {report : Report} (h : report.Writable) :
    FewDigits report.maxComplexity := by
  by_cases hentries : report.units.entries = []
  · rw [maxComplexity, highest?_eq_none_iff.mpr hentries]
    exact fewDigits_zero
  · exact h.scores _ (firstHighest_of_units hentries).mem

theorem fewDigits_figures_iff {report : Report} :
    (∀ n ∈ report.figures, FewDigits n) ↔ report.Writable := by
  constructor
  · intro h
    simp only [figures, List.forall_mem_cons, List.forall_mem_map] at h
    exact ⟨h.1, h.2.1, h.2.2.2⟩
  · intro h
    simp only [figures, List.forall_mem_cons, List.forall_mem_map]
    exact ⟨h.count, h.total, h.max, h.scores⟩

/-- Two units whose scores have as many digits as can be written, so that their sum has more. -/
def twoLongScores : Report :=
  let score : Int := tenTo Number.maxDigits - 1
  ⟨"a.asm", "Assembler", ⟨[("f", score), ("g", score)]⟩⟩

theorem not_writable_twoLongScores : ¬ twoLongScores.Writable := by
  have htwo : FewDigits 1 := isWritable_iff.mp (by decide)
  rintro ⟨-, htotal, -⟩
  simp only [FewDigits, twoLongScores, totalComplexity, List.map_cons, List.map_nil,
    List.foldr_cons, List.foldr_nil] at htotal htwo
  generalize tenTo Number.maxDigits = bound at htotal htwo
  omega

/-! ## The text -/

/-- The lines of the text report, each with a line feed at its end. -/
def joinedLines (report : Report) (threshold : Number) : String :=
  String.join ((report.summaryLines threshold).map (· ++ "\n"))

theorem summary_eq_ok_iff {report : Report} {threshold : Number} {text : String} :
    report.summary threshold = .ok text ↔
      report.Writable ∧ report.joinedLines threshold = text := by
  rw [summary, withFigures_eq_ok_iff, fewDigits_figures_iff, joinedLines]

theorem endsInLine_unitLine (threshold : Number) (entry : String × Int) :
    EndsInLine (unitLine threshold entry) := by
  unfold unitLine
  cases threshold.below entry.2 with
  | true => exact EndsInLine.append ⟨'\uFE0F', by decide, by decide⟩ _
  | false =>
      simp only [Bool.false_eq_true, ite_false, String.append_empty]
      exact (endsInLine_toString_int entry.2).append _

theorem endsInLine_last (report : Report) (threshold : Number) :
    ∃ last, (report.summaryLines threshold).getLast? = some last ∧ EndsInLine last := by
  rw [summaryLines, List.getLast?_append, List.getLast?_map]
  cases report.ranked.getLast? with
  | none => exact ⟨"Function Complexities:", rfl, ':', by decide, by decide⟩
  | some entry => exact ⟨unitLine threshold entry, rfl, endsInLine_unitLine threshold entry⟩

/-- The line feed at the end is the only one there. -/
theorem joinedLines_eq_append (report : Report) (threshold : Number) :
    ∃ front c, (report.joinedLines threshold).toList = front ++ [c, '\n'] ∧ c ≠ '\n' := by
  obtain ⟨last, hlines, c, hlast, hc⟩ := report.endsInLine_last threshold
  obtain ⟨front, hfront⟩ := List.getLast?_eq_some_iff.mp hlines
  obtain ⟨init, hinit⟩ := List.getLast?_eq_some_iff.mp hlast
  refine ⟨(String.join (front.map (· ++ "\n"))).toList ++ init, c, ?_, hc⟩
  simp [joinedLines, hfront, String.join_append, hinit]

end Report

end Cyclomatic
