import Mathlib.Tactic.Common

/-! # Texts put together with a separator

Parts joined by a separator can be told apart if no part reads like another one with the separator
after it. The parts themselves may contain the separator. Parts that contain no mark can be told
apart if a mark ends each of them. -/

namespace Cyclomatic.Text

variable {α : Type}

theorem intercalate_cons_eq_flatMap (separator part : List α) (parts : List (List α)) :
    List.intercalate separator (part :: parts) = part ++ parts.flatMap (separator ++ ·) := by
  induction parts generalizing part with
  | nil => simp
  | cons next parts ih =>
      rw [List.intercalate_cons_cons, ih next]
      simp

/-- What stands before a mark is known if neither of two readings goes on with the mark where the
other one ends. -/
theorem append_mark_inj {mark : α} {front other back rest : List α}
    (hf : ∀ tail, front ≠ other ++ mark :: tail) (ho : ∀ tail, other ≠ front ++ mark :: tail)
    (h : front ++ mark :: back = other ++ mark :: rest) : front = other ∧ back = rest := by
  rcases List.append_eq_append_iff.mp h with ⟨tail, hother, hback⟩ | ⟨tail, hfront, hrest⟩
  · cases tail with
    | nil =>
        rw [List.append_nil] at hother
        exact ⟨hother.symm, (List.cons.inj hback).2⟩
    | cons c tail =>
        obtain ⟨rfl, -⟩ := List.cons.inj hback
        exact absurd hother (ho tail)
  · cases tail with
    | nil =>
        rw [List.append_nil] at hfront
        exact ⟨hfront, (List.cons.inj hrest).2.symm⟩
    | cons c tail =>
        obtain ⟨rfl, -⟩ := List.cons.inj hrest
        exact absurd hfront (hf tail)

theorem append_mark_inj_of_notMem {mark : α} {front other back rest : List α}
    (hf : mark ∉ front) (ho : mark ∉ other)
    (h : front ++ mark :: back = other ++ mark :: rest) : front = other ∧ back = rest := by
  refine append_mark_inj ?_ ?_ h
  · rintro tail rfl
    exact hf (by simp)
  · rintro tail rfl
    exact ho (by simp)

/-- The last mark of a text is known, too. -/
theorem append_mark_inj_last {mark : α} {front other back rest : List α}
    (hb : mark ∉ back) (hr : mark ∉ rest)
    (h : front ++ mark :: back = other ++ mark :: rest) : front = other ∧ back = rest := by
  have hreverse := congrArg List.reverse h
  simp only [List.reverse_append, List.reverse_cons, List.append_assoc,
    List.singleton_append] at hreverse
  obtain ⟨hback, hfront⟩ := append_mark_inj_of_notMem (by simpa using hb) (by simpa using hr)
    hreverse
  exact ⟨List.reverse_inj.mp hfront, List.reverse_inj.mp hback⟩

/-- Parts without a mark are known from the text in which a mark ends each of them. -/
theorem flatMap_mark_inj {mark : α} {parts others : List (List α)}
    (hp : ∀ part ∈ parts, mark ∉ part) (ho : ∀ part ∈ others, mark ∉ part)
    (h : parts.flatMap (· ++ [mark]) = others.flatMap (· ++ [mark])) : parts = others := by
  induction parts generalizing others with
  | nil =>
      cases others with
      | nil => rfl
      | cons other others => simp at h
  | cons part parts ih =>
      cases others with
      | nil => simp at h
      | cons other others =>
          obtain ⟨hpart, hparts⟩ := List.forall_mem_cons.mp hp
          obtain ⟨hother, hothers⟩ := List.forall_mem_cons.mp ho
          simp only [List.flatMap_cons, List.append_assoc, List.singleton_append] at h
          obtain ⟨rfl, hrest⟩ := append_mark_inj_of_notMem hpart hother h
          rw [ih hparts hothers hrest]

section Parts

variable {IsPart : List α → Prop} {mark : α}
  (hpart : ∀ {part other}, IsPart part → IsPart other → ∀ tail, part ≠ other ++ mark :: tail)
include hpart

theorem parts_inj (gap : List α) {part other : List α} {parts others : List (List α)}
    (hp : ∀ p ∈ part :: parts, IsPart p) (ho : ∀ p ∈ other :: others, IsPart p)
    (h : part ++ parts.flatMap (mark :: gap ++ ·) = other ++ others.flatMap (mark :: gap ++ ·)) :
    part = other ∧ parts = others := by
  induction parts generalizing part other others with
  | nil =>
      cases others with
      | nil => exact ⟨by simpa using h, rfl⟩
      | cons next others =>
          rw [List.flatMap_nil, List.append_nil] at h
          exact absurd h (hpart (hp part (by simp)) (ho other (by simp)) _)
  | cons first parts ih =>
      cases others with
      | nil =>
          rw [List.flatMap_nil, List.append_nil] at h
          exact absurd h.symm (hpart (ho other (by simp)) (hp part (by simp)) _)
      | cons next others =>
          obtain ⟨hfirst, hparts⟩ := List.forall_mem_cons.mp hp
          obtain ⟨hother, hothers⟩ := List.forall_mem_cons.mp ho
          simp only [List.flatMap_cons, List.cons_append, List.append_assoc] at h
          obtain ⟨rfl, htail⟩ := append_mark_inj (hpart hfirst hother) (hpart hother hfirst) h
          obtain ⟨rfl, rfl⟩ := ih hparts hothers (List.append_cancel_left htail)
          exact ⟨rfl, rfl⟩

/-- Parts that are not empty are known from the text in which they stand with a separator. -/
theorem intercalate_inj (gap : List α) {parts others : List (List α)}
    (hp : ∀ p ∈ parts, IsPart p ∧ p ≠ []) (ho : ∀ p ∈ others, IsPart p ∧ p ≠ [])
    (h : List.intercalate (mark :: gap) parts = List.intercalate (mark :: gap) others) :
    parts = others := by
  cases parts with
  | nil =>
      cases others with
      | nil => rfl
      | cons other others =>
          rw [intercalate_cons_eq_flatMap, List.intercalate_nil] at h
          exact absurd (List.append_eq_nil_iff.mp h.symm).1 (ho other (by simp)).2
  | cons part parts =>
      cases others with
      | nil =>
          rw [intercalate_cons_eq_flatMap, List.intercalate_nil] at h
          exact absurd (List.append_eq_nil_iff.mp h).1 (hp part (by simp)).2
      | cons other others =>
          rw [intercalate_cons_eq_flatMap, intercalate_cons_eq_flatMap] at h
          obtain ⟨rfl, rfl⟩ := parts_inj hpart gap (fun p hm => (hp p hm).1)
            (fun p hm => (ho p hm).1) h
          rfl

end Parts

end Cyclomatic.Text
