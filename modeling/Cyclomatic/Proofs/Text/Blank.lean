import Cyclomatic.Text.Blank
import Mathlib.Data.List.DropRight
import Mathlib.Tactic.Common

/-! # Trimmed texts

What is left of a text without the blanks at its ends starts and ends with a character that is not
blank, so a character that is not blank separates what is removed at the front from what is removed
at the end. -/

namespace Cyclomatic.Text

/-! ## Letters and digits -/

theorem toNat_bounds_of_isAlpha {c : Char} (h : c.isAlpha = true) :
    65 ≤ c.toNat ∧ c.toNat ≤ 122 := by
  have hcases : (c.isUpper || c.isLower) = true := h
  rcases Bool.or_eq_true_iff.mp hcases with hupper | hlower
  · have hbounds : 65 ≤ c.toNat ∧ c.toNat ≤ 90 := of_decide_eq_true hupper
    omega
  · have hbounds : (decide (97 ≤ c.toNat) && decide (c.toNat ≤ 122)) = true := hlower
    simp only [Bool.and_eq_true, decide_eq_true_eq] at hbounds
    omega

theorem isBlank_of_isAlpha {c : Char} (h : c.isAlpha = true) : isBlank c = false := by
  have hb := toNat_bounds_of_isAlpha h
  simp only [isBlank]
  grind

theorem isBlank_of_isDigit {c : Char} (h : c.isDigit = true) : isBlank c = false := by
  have hb := Char.isDigit_iff_toNat.mp h
  simp only [Char.reduceToNat] at hb
  simp only [isBlank]
  grind

/-! ## Trimming -/

/-- A character that stays keeps everything before it. -/
theorem dropWhileEnd_append_cons {p : Char → Bool} {c : Char} (hc : p c = false)
    (front back : List Char) :
    dropWhileEnd p (front ++ c :: back) = front ++ c :: dropWhileEnd p back := by
  unfold dropWhileEnd
  rw [List.reverse_append, List.reverse_cons, List.append_assoc, List.singleton_append,
    List.dropWhile_append]
  cases h : back.reverse.dropWhile p with
  | nil => simp [hc]
  | cons d rest => simp

theorem dropWhileEnd_eq_nil_iff (p : Char → Bool) (cs : List Char) :
    dropWhileEnd p cs = [] ↔ ∀ c ∈ cs, p c = true :=
  List.rdropWhile_eq_nil_iff

/-- Nothing is left of a text exactly if it is blank. -/
theorem trim_eq_nil_iff (cs : List Char) : trim cs = [] ↔ ∀ c ∈ cs, isBlank c = true := by
  rw [trim, dropWhileEnd_eq_nil_iff]
  refine ⟨fun h => ?_, fun h c hc => h c ((List.dropWhile_suffix isBlank).mem hc)⟩
  cases hd : cs.dropWhile isBlank with
  | nil => exact List.dropWhile_eq_nil_iff.mp hd
  | cons c rest =>
      have hhead := List.head?_dropWhile_not isBlank cs
      rw [hd] at h hhead
      simp [h c List.mem_cons_self] at hhead

theorem mem_of_mem_trim {c : Char} {cs : List Char} (h : c ∈ trim cs) : c ∈ cs :=
  (List.dropWhile_suffix isBlank).mem ((List.rdropWhile_prefix isBlank _).mem h)

theorem trim_dropWhile_isBlank (cs : List Char) : trim (cs.dropWhile isBlank) = trim cs := by
  rw [trim, trim, List.dropWhile_idempotent]

/-! ## Texts between characters that are removed -/

theorem append_dropWhileEnd (p : Char → Bool) (cs : List Char) :
    dropWhileEnd p cs ++ (cs.reverse.takeWhile p).reverse = cs := by
  rw [dropWhileEnd, ← List.reverse_append, List.takeWhile_append_dropWhile, List.reverse_reverse]

/-- What is removed at both ends has the property. -/
theorem exists_removed (p : Char → Bool) (text : List Char) :
    ∃ front back, text = front ++ dropWhileEnd p (text.dropWhile p) ++ back ∧
      (∀ c ∈ front, p c = true) ∧ ∀ c ∈ back, p c = true := by
  refine ⟨text.takeWhile p, ((text.dropWhile p).reverse.takeWhile p).reverse, ?_,
    fun c hc => List.mem_takeWhile_imp hc,
    fun c hc => List.mem_takeWhile_imp (List.mem_reverse.mp hc)⟩
  rw [List.append_assoc, append_dropWhileEnd, List.takeWhile_append_dropWhile]

/-- A text that neither starts nor ends with a character that is removed is kept. -/
theorem dropWhileEnd_dropWhile_append {p : Char → Bool} {front kept back : List Char}
    (hfront : ∀ c ∈ front, p c = true) (hback : ∀ c ∈ back, p c = true)
    (hhead : ∀ c ∈ kept.head?, p c = false) (hlast : ∀ c ∈ kept.getLast?, p c = false) :
    dropWhileEnd p ((front ++ kept ++ back).dropWhile p) = kept := by
  have hnone : dropWhileEnd p back = [] := (dropWhileEnd_eq_nil_iff p back).mpr hback
  rw [List.append_assoc, List.dropWhile_append_of_pos hfront]
  by_cases hkept : kept = []
  · subst hkept
    rw [List.nil_append, dropWhileEnd_eq_nil_iff]
    exact fun c hc => hback c ((List.dropWhile_suffix p).mem hc)
  · obtain ⟨c, rest, hfirst⟩ := List.exists_cons_of_ne_nil hkept
    obtain ⟨init, d, hend⟩ := List.eq_nil_or_concat' kept |>.resolve_left hkept
    have hc : p c = false := hhead c (by simp [hfirst])
    have hd : p d = false := hlast d (by simp [hend])
    have hdrop : (kept ++ back).dropWhile p = kept ++ back := by
      rw [hfirst, List.cons_append, List.dropWhile_cons_of_neg (by simp [hc])]
    rw [hdrop, hend, List.append_assoc, List.singleton_append, dropWhileEnd_append_cons hd, hnone]

/-- What is left of a text without blanks at both ends. -/
structure Trimmed (text kept : List Char) : Prop where
  between : ∃ front back, text = front ++ kept ++ back ∧ (∀ c ∈ front, isBlank c = true) ∧
    ∀ c ∈ back, isBlank c = true
  head : ∀ c ∈ kept.head?, isBlank c = false
  last : ∀ c ∈ kept.getLast?, isBlank c = false

theorem trimmed_trim (text : List Char) : Trimmed text (trim text) where
  between := exists_removed isBlank text
  head := by
    intro c hc
    have hfirst : (text.dropWhile isBlank).head? = some c := by
      rw [← append_dropWhileEnd isBlank (text.dropWhile isBlank), List.head?_append]
      exact Option.or_eq_some_iff.mpr (Or.inl hc)
    have hhead := List.head?_dropWhile_not isBlank text
    rw [hfirst] at hhead
    exact hhead
  last := by
    intro c hc
    obtain ⟨hne, rfl⟩ := List.mem_getLast?_eq_getLast hc
    exact Bool.eq_false_iff.mpr (List.rdropWhile_last_not isBlank _ hne)

theorem Trimmed.trim_eq {text kept : List Char} (h : Trimmed text kept) : trim text = kept := by
  obtain ⟨⟨front, back, rfl, hfront, hback⟩, hhead, hlast⟩ := h
  exact dropWhileEnd_dropWhile_append hfront hback hhead hlast

/-- Trimming keeps what stands between the blanks at both ends. -/
theorem trimmed_iff {text kept : List Char} : Trimmed text kept ↔ trim text = kept :=
  ⟨Trimmed.trim_eq, fun h => h ▸ trimmed_trim text⟩

end Cyclomatic.Text
