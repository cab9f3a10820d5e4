import Cyclomatic.Render.Terminal
import Mathlib.Data.List.TakeWhile

/-! # Texts without escape sequences

A screen that is no terminal takes escape sequences out of the texts that it shows. A text in which
none stands is shown as it is. -/

namespace Cyclomatic

namespace Ansi

/-- A text that starts with an escape sequence: the escape character, a bracket, parameters and a
letter. -/
inductive StartsSequence : List Char → Prop where
  | intro {parameters letter back}
      (hparameters : ∀ c ∈ parameters, c = ';' ∨ c = '?' ∨ c.isDigit = true)
      (hletter : letter.isAlpha = true) :
      StartsSequence ('\x1b' :: '[' :: (parameters ++ letter :: back))

/-- A text in which no escape sequence stands anywhere. -/
def IsFree (cs : List Char) : Prop :=
  ∀ back, back <:+ cs → ¬ StartsSequence back

theorem IsFree.of_suffix {cs back : List Char} (h : IsFree cs) (hback : back <:+ cs) :
    IsFree back :=
  fun other hother => h other (hother.trans hback)

/-- What stands after an escape sequence still does so if the text goes on. -/
theorem IsFree.of_append {front back : List Char} (h : IsFree (front ++ back)) : IsFree front := by
  rintro other ⟨start, rfl⟩ hstarts
  cases hstarts with
  | @intro parameters letter rest hparameters hletter =>
      apply h ('\x1b' :: '[' :: (parameters ++ letter :: (rest ++ back)))
      · exact ⟨start, by simp⟩
      · exact .intro hparameters hletter

theorem isFree_of_notMem {cs : List Char} (h : escape ∉ cs) : IsFree cs := by
  rintro back hback ⟨hparameters, hletter⟩
  exact h (hback.mem List.mem_cons_self)

theorem startsSequence_of_afterSequence? {rest after : List Char}
    (h : afterSequence? rest = some after) : StartsSequence (escape :: rest) := by
  unfold afterSequence? at h
  split at h
  · rename_i inner
    have hinner := List.takeWhile_append_dropWhile (p := isParameter) (l := inner)
    split at h
    · rename_i c back hdrop
      split at h
      · rename_i hletter
        rw [hdrop] at hinner
        rw [← hinner]
        refine .intro ?_ hletter
        intro d hd
        have hparameter := List.mem_takeWhile_imp hd
        simp only [isParameter, Bool.or_eq_true, beq_iff_eq] at hparameter
        rcases hparameter with (hd | hd) | hd
        · exact Or.inl hd
        · exact Or.inr (Or.inl hd)
        · exact Or.inr (Or.inr hd)
      · cases h
    · cases h
  · cases h

theorem stripWithin_of_isFree {rounds : Nat} {cs : List Char} (hrounds : cs.length < rounds)
    (h : IsFree cs) : stripWithin rounds cs = cs := by
  induction rounds generalizing cs with
  | zero => exact absurd hrounds (Nat.not_lt_zero _)
  | succ rounds ih =>
      cases cs with
      | nil => rfl
      | cons c rest =>
          have hrest := ih (Nat.lt_of_succ_lt_succ hrounds) (h.of_suffix (List.suffix_cons c rest))
          rw [stripWithin]
          split
          · rename_i hc
            split
            · rename_i after hafter
              rw [hc] at h
              exact absurd (startsSequence_of_afterSequence? hafter) (h _ (List.suffix_refl _))
            · rw [hrest]
          · rw [hrest]

end Ansi

/-- A text without escape sequences gets a line feed and is not changed otherwise. -/
theorem echo_plain {text : String} (h : Ansi.IsFree text.toList) :
    Screen.plain.echo text = text ++ "\n" := by
  have hstrip : Ansi.strip text.toList = text.toList :=
    Ansi.stripWithin_of_isFree (Nat.lt_succ_self _) h
  rw [← String.toList_inj, Screen.plain, String.toList_ofList, hstrip, String.toList_append]
  rfl

end Cyclomatic
