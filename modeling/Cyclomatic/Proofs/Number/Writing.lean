import Cyclomatic.Number.Writing
import Mathlib.Tactic.Common

/-! # What can be written

Integers below a bound can be written, and a text with figures in it comes out exactly if all of
them are below it. -/

namespace Cyclomatic

/-- An integer that has no more decimal digits than can be written. -/
def FewDigits (n : Int) : Prop :=
  n.natAbs < tenTo Number.maxDigits

theorem length_toDigits_le_iff {n count : Nat} (h : 0 < count) :
    (Nat.toDigits 10 n).length ≤ count ↔ n < tenTo count :=
  Nat.length_toDigits_le_iff (by decide : 1 < 10) h

theorem isWritable_iff {n : Int} : isWritable n = true ↔ FewDigits n := by
  rw [isWritable, decide_eq_true_eq, length_toDigits_le_iff (by decide), FewDigits]

theorem fewDigits_zero : FewDigits 0 :=
  isWritable_iff.mp (by decide)

section

variable {α : Type} {figures : List Int} {written : α}

theorem withFigures_of_fewDigits (h : ∀ n ∈ figures, FewDigits n) :
    withFigures figures written = .ok written := by
  rw [withFigures, if_pos]
  exact List.all_eq_true.mpr fun n hn => isWritable_iff.mpr (h n hn)

theorem withFigures_of_not (h : ¬ ∀ n ∈ figures, FewDigits n) :
    withFigures figures written = .error tooLong := by
  rw [withFigures, if_neg]
  exact fun hall => h fun n hn => isWritable_iff.mp (List.all_eq_true.mp hall n hn)

theorem withFigures_eq_ok_iff {result : α} :
    withFigures figures written = .ok result ↔
      (∀ n ∈ figures, FewDigits n) ∧ written = result := by
  by_cases h : ∀ n ∈ figures, FewDigits n
  · rw [withFigures_of_fewDigits h, Except.ok.injEq, and_iff_right h]
  · rw [withFigures_of_not h]
    exact iff_of_false (by simp) fun hall => h hall.1

end

end Cyclomatic
