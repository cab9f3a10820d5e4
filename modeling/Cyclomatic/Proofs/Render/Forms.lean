import Cyclomatic.Proofs.Render.RoundTrip
import Cyclomatic.Proofs.Render.Summary

/-! # The forms of a report

A report whose figures can be written has all three forms, as long as its name is a text and the
threshold is at least one. The threshold is shown beside greater scores only, so it can be written
where they can. -/

namespace Cyclomatic.Report

variable {report : Report} {threshold : Number}

theorem fewDigits_of_below {n : Int} (hlow : threshold.lessThan 1 = false)
    (hbelow : threshold.below n = true) (h : FewDigits n) :
    ∀ m ∈ threshold.integers, FewDigits m := by
  cases threshold with
  | int m =>
      intro k hk
      obtain rfl := List.mem_singleton.mp hk
      have hpos : ¬ k < 1 := of_decide_eq_false hlow
      have hless : k < n := of_decide_eq_true hbelow
      exact lt_of_le_of_lt (by omega : k.natAbs ≤ n.natAbs) h
  | bool b => exact List.forall_mem_nil _
  | float x => exact List.forall_mem_nil _

/-- A threshold of at least one can be written if a unit scores above it. -/
theorem Writable.fewDigits_threshold (h : report.Writable) (hlow : threshold.lessThan 1 = false)
    (habove : report.unitsAbove threshold ≠ []) : ∀ n ∈ threshold.integers, FewDigits n := by
  obtain ⟨name, hname⟩ := List.exists_mem_of_ne_nil _ habove
  obtain ⟨entry, hentry, -⟩ := List.mem_map.mp hname
  obtain ⟨hranked, hbelow⟩ := List.mem_filter.mp hentry
  exact fewDigits_of_below hlow hbelow (h.scores entry (List.mem_mergeSort.mp hranked))

theorem exists_panel {name : String} (hname : report.fileName = .text name) (h : report.Writable)
    (hlow : threshold.lessThan 1 = false) (screen : Screen) :
    ∃ panel, report.panel screen threshold = .ok panel := by
  rw [panel, panelBody_of_writable h screen (h.fewDigits_threshold hlow), panelTitle, hname]
  exact ⟨_, rfl⟩

theorem exists_table (h : report.Writable) (screen : Screen) (threshold : Number) :
    ∃ table, report.table screen threshold = .ok table := by
  refine ⟨_, withFigures_of_fewDigits ?_⟩
  have hscores : ∀ entry ∈ report.ranked, FewDigits entry.2 := fun entry hentry =>
    h.scores entry (List.mem_mergeSort.mp hentry)
  exact List.forall_mem_cons.mpr ⟨h.count, List.forall_mem_map.mpr hscores⟩

theorem exists_rich {name : String} (hname : report.fileName = .text name) (h : report.Writable)
    (hlow : threshold.lessThan 1 = false) (screen : Screen) :
    ∃ text, report.rich screen threshold = .ok text := by
  obtain ⟨panel, hpanel⟩ := exists_panel hname h hlow screen
  obtain ⟨table, htable⟩ := exists_table h screen threshold
  simp only [rich, hpanel, htable, bind, Except.bind]
  split
  · exact ⟨_, rfl⟩
  · exact ⟨_, rfl⟩

/-- A report has every form if what the forms show can be written. -/
theorem exists_format {name : String} (hname : report.fileName = .text name) (h : report.Writable)
    (hlow : threshold.lessThan 1 = false) (screen : Screen) (form : OutputFormat) :
    ∃ text, report.format screen threshold form = .ok text := by
  obtain ⟨fileName, language, units⟩ := report
  obtain rfl : fileName = .text name := hname
  cases form with
  | rich => exact exists_rich rfl h hlow screen
  | json => exact ⟨_, json_of_writable name language units threshold h⟩
  | text => exact ⟨_, summary_eq_ok_iff.mpr ⟨h, rfl⟩⟩

end Cyclomatic.Report
