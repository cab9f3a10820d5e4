import Cyclomatic.Proofs.Report
import Mathlib.Data.List.Perm.Basic
import Mathlib.Data.List.TakeWhile

/-! # Units by falling score

A report finds its most complex unit in one pass over the units and ranks them by a stable sort.
Both let the first of several units with the same score come first, so the ranking starts with the
unit that the pass found. The units above a threshold are the start of the ranking. -/

namespace Cyclomatic

/-- What is above a threshold stays above it if it grows. -/
theorem Number.below_of_le {threshold : Number} {m n : Int} (h : threshold.below m = true)
    (hle : m ≤ n) : threshold.below n = true := by
  unfold Number.below at h ⊢
  cases hfloor : threshold.floor with
  | finite limit =>
      simp only [hfloor, decide_eq_true_eq] at h ⊢
      omega
  | negInfinite => rfl
  | infinite => simp [hfloor] at h
  | undefined => simp [hfloor] at h

/-- Where the elements that satisfy `p` come first, they are a start of the list. -/
theorem filter_eq_takeWhile {α : Type} {R : α → α → Prop} {p : α → Bool}
    (hp : ∀ {a b}, R a b → p b = true → p a = true) {xs : List α} (h : xs.Pairwise R) :
    xs.filter p = xs.takeWhile p := by
  induction xs with
  | nil => rfl
  | cons x xs ih =>
      obtain ⟨hx, hxs⟩ := List.pairwise_cons.mp h
      cases hpx : p x with
      | true => rw [List.filter_cons_of_pos hpx, List.takeWhile_cons_of_pos hpx, ih hxs]
      | false =>
          have hnone : xs.filter p = [] := by
            apply List.filter_eq_nil_iff.mpr
            intro y hy hpy
            cases hpx.symm.trans (hp (hx y hy) hpy)
          simp [hpx, hnone]

/-- A stronger condition holds on a shorter start. -/
theorem takeWhile_prefix_takeWhile {α : Type} {p q : α → Bool}
    (hpq : ∀ a, p a = true → q a = true) (xs : List α) :
    xs.takeWhile p <+: xs.takeWhile q := by
  have hboth : (fun a => decide (p a = true ∧ q a = true)) = p := by
    funext a
    cases hp : p a with
    | true => simp [hpq a hp]
    | false => simp
  have hstart := List.takeWhile_prefix p (l := xs.takeWhile q)
  rwa [List.takeWhile_takeWhile, hboth] at hstart

namespace Report

/-! ## The sort -/

theorem falls_trans (a b c : String × Int) (hab : decide (b.2 ≤ a.2) = true)
    (hbc : decide (c.2 ≤ b.2) = true) : decide (c.2 ≤ a.2) = true := by
  rw [decide_eq_true_eq] at hab hbc ⊢
  exact Int.le_trans hbc hab

theorem falls_total (a b : String × Int) :
    (decide (b.2 ≤ a.2) || decide (a.2 ≤ b.2)) = true := by
  rw [Bool.or_eq_true, decide_eq_true_eq, decide_eq_true_eq]
  exact Int.le_total b.2 a.2

theorem ranked_perm (report : Report) : report.ranked.Perm report.units.entries :=
  List.mergeSort_perm _ _

theorem pairwise_ranked (report : Report) : report.ranked.Pairwise fun a b => b.2 ≤ a.2 :=
  (List.pairwise_mergeSort falls_trans falls_total report.units.entries).imp of_decide_eq_true

/-- The units of one score keep their order. -/
theorem filter_ranked (report : Report) (score : Int) :
    report.ranked.filter (·.2 = score) = report.units.entries.filter (·.2 = score) := by
  have hequal : (report.units.entries.filter (·.2 = score)).Pairwise
      fun a b => decide (b.2 ≤ a.2) = true := by
    apply List.pairwise_of_forall_mem_list
    intro a ha b hb
    simp only [List.mem_filter, decide_eq_true_eq] at ha hb ⊢
    omega
  have hsub : (report.units.entries.filter (·.2 = score)).Sublist report.ranked :=
    List.sublist_mergeSort falls_trans falls_total hequal List.filter_sublist
  have hkeep := hsub.filter (·.2 = score)
  rw [List.filter_filter] at hkeep
  simp only [Bool.and_self] at hkeep
  exact (hkeep.eq_of_length ((report.ranked_perm.filter _).length_eq).symm).symm

/-! ## The figures -/

/-- Of the units with the greatest score the first comes first in the ranking. -/
theorem FirstHighest.head?_filter {entries : List (String × Int)} {best : String × Int}
    (h : FirstHighest entries best) : (entries.filter (·.2 = best.2)).head? = some best := by
  obtain ⟨front, back, rfl, hfront, -⟩ := h
  have hnone : front.filter (·.2 = best.2) = [] := by
    apply List.filter_eq_nil_iff.mpr
    intro other ho
    simpa using Int.ne_of_lt (hfront other ho)
  rw [List.filter_append, hnone, List.nil_append, List.filter_cons_of_pos (by simp)]
  rfl

theorem head?_ranked {report : Report} (h : report.units.entries ≠ []) :
    report.ranked.head? = some (report.mostComplexUnit, report.maxComplexity) := by
  have hbest := firstHighest_of_units h
  have hfirst := hbest.head?_filter
  rw [← filter_ranked] at hfirst
  cases hranked : report.ranked with
  | nil => simp [hranked] at hfirst
  | cons entry rest =>
      have hfalls := report.pairwise_ranked
      rw [hranked] at hfirst hfalls
      have hmem : entry ∈ report.units.entries :=
        report.ranked_perm.subset (hranked ▸ List.mem_cons_self)
      have hbestMem := report.ranked_perm.symm.subset hbest.mem
      rw [hranked] at hbestMem
      -- The first entry of the ranking scores as much as the unit that the pass found.
      have hscore : entry.2 = report.maxComplexity := by
        apply Int.le_antisymm (hbest.le hmem)
        rcases List.mem_cons.mp hbestMem with hsame | hlater
        · exact Int.le_of_eq (congrArg Prod.snd hsame)
        · exact List.rel_of_pairwise_cons hfalls hlater
      rw [List.filter_cons_of_pos (by simpa using hscore)] at hfirst
      exact hfirst

theorem totalComplexity_eq_ranked (report : Report) :
    report.totalComplexity = (report.ranked.map (·.2)).foldr (· + ·) 0 := by
  have hscores : (report.units.entries.map (·.2)).Perm (report.ranked.map (·.2)) :=
    (report.ranked_perm.map _).symm
  exact hscores.foldr_eq 0

/-! ## Thresholds -/

theorem unitsAbove_eq_takeWhile (report : Report) (threshold : Number) :
    report.unitsAbove threshold =
      (report.ranked.takeWhile fun entry => threshold.below entry.2).map (·.1) := by
  rw [unitsAbove, filter_eq_takeWhile (fun hle hbelow => Number.below_of_le hbelow hle)
    report.pairwise_ranked]

/-- The units above a threshold are those that are listed first. -/
theorem unitsAbove_prefix (report : Report) (threshold : Number) :
    report.unitsAbove threshold <+: report.ranked.map (·.1) := by
  rw [unitsAbove_eq_takeWhile]
  exact (List.takeWhile_prefix _).map _

theorem unitsAbove_prefix_of_le (report : Report) {threshold higher : Int}
    (h : threshold ≤ higher) :
    report.unitsAbove (.int higher) <+: report.unitsAbove (.int threshold) := by
  rw [unitsAbove_eq_takeWhile, unitsAbove_eq_takeWhile]
  refine (takeWhile_prefix_takeWhile ?_ _).map _
  intro entry hbelow
  simp only [Number.below, Number.floor, decide_eq_true_eq] at hbelow ⊢
  omega

/-- How a report ranks its units, and how its figures fit the ranking. -/
structure Ranking (report : Report) : Prop where
  perm : report.ranked.Perm report.units.entries
  falling : report.ranked.Pairwise fun a b => b.2 ≤ a.2
  /-- Units of the same score stand in the order in which they were recorded. -/
  ties : ∀ score, report.ranked.filter (·.2 = score) = report.units.entries.filter (·.2 = score)
  head : report.units.entries ≠ [] →
    report.ranked.head? = some (report.mostComplexUnit, report.maxComplexity)
  total : report.totalComplexity = (report.ranked.map (·.2)).foldr (· + ·) 0
  /-- The units above a threshold are the longest start of the ranking above it. -/
  above : ∀ threshold : Int, report.unitsAbove (.int threshold) =
    (report.ranked.takeWhile fun entry => threshold < entry.2).map (·.1)
  narrower : ∀ threshold higher : Int, threshold ≤ higher →
    report.unitsAbove (.int higher) <+: report.unitsAbove (.int threshold)

/-- The ranking holds the units of a report, sorted by falling score with ties in their order. It
starts with the unit that is shown as the most complex one, and with the units above any
threshold. -/
theorem ranking_of_units (report : Report) : Ranking report where
  perm := report.ranked_perm
  falling := report.pairwise_ranked
  ties := report.filter_ranked
  head := head?_ranked
  total := report.totalComplexity_eq_ranked
  above threshold := report.unitsAbove_eq_takeWhile (.int threshold)
  narrower _ _ := report.unitsAbove_prefix_of_le

end Report

end Cyclomatic
