import Cyclomatic.Java.Lexer
import Cyclomatic.Proofs.Text.Newlines
import Mathlib.Data.List.Find
import Mathlib.Data.List.Forall2

/-! # Lexemes and line terminators

Words, numbers and symbols end with their line at the latest, so they are read alike whatever the
line ends with. Comments, strings and characters may go on over several lines. -/

namespace Cyclomatic.Java

open Text

/-! ## Lexemes on one line -/

/-- A text starts with `n` characters that are no line terminators. -/
def Clear (n : Nat) (cs : List Char) : Prop :=
  ∃ line rest, cs = line ++ rest ∧ line.length = n ∧ Unbroken line

/-- Of a text and of the rewritten text the same number of characters is read, all of one line. -/
def Agrees (cs : List Char) (n m : Nat) : Prop :=
  m = n ∧ Clear n cs

/-- What is read at the front of a text lies on one line and does not depend on how it ends. -/
def OnOneLine (read : List Char → Nat) : Prop :=
  ∀ cs, Agrees cs (read cs) (read (normalizeNewlines cs))

theorem Agrees.zero (cs : List Char) : Agrees cs 0 0 :=
  ⟨rfl, [], cs, rfl, rfl, unbroken_nil⟩

theorem Agrees.max {cs : List Char} {n m n' m' : Nat} (h : Agrees cs n m) (h' : Agrees cs n' m') :
    Agrees cs (max n n') (max m m') := by
  obtain ⟨rfl, hclear⟩ := h
  obtain ⟨rfl, hclear'⟩ := h'
  refine ⟨rfl, ?_⟩
  rcases Nat.le_total m m' with hle | hle
  · rwa [Nat.max_eq_right hle]
  · rwa [Nat.max_eq_left hle]

theorem Clear.drop_normalizeNewlines {n : Nat} {cs : List Char} (h : Clear n cs) :
    (normalizeNewlines cs).drop n = normalizeNewlines (cs.drop n) := by
  obtain ⟨line, rest, rfl, rfl, hline⟩ := h
  rw [normalizeNewlines_unbroken hline, List.drop_left, List.drop_left]

theorem Clear.add {n m : Nat} {cs : List Char} (h : Clear n cs) (h' : Clear m (cs.drop n)) :
    Clear (n + m) cs := by
  obtain ⟨line, rest, rfl, rfl, hline⟩ := h
  rw [List.drop_left] at h'
  obtain ⟨more, rest, rfl, rfl, hmore⟩ := h'
  refine ⟨line ++ more, rest, (List.append_assoc _ _ _).symm, List.length_append, ?_⟩
  intro c hc
  exact (List.mem_append.mp hc).elim (hline c) (hmore c)

theorem Agrees.drop {cs : List Char} {n m : Nat} (h : Agrees cs n m) :
    (normalizeNewlines cs).drop m = normalizeNewlines (cs.drop n) := by
  obtain ⟨rfl, hclear⟩ := h
  exact hclear.drop_normalizeNewlines

theorem Agrees.take {cs : List Char} {n m : Nat} (h : Agrees cs n m) :
    (normalizeNewlines cs).take m = cs.take n := by
  obtain ⟨rfl, line, rest, rfl, rfl, hline⟩ := h
  rw [normalizeNewlines_unbroken hline, List.take_left, List.take_left]

theorem Agrees.add {cs : List Char} {n m n' m' : Nat} (h : Agrees cs n m)
    (h' : Agrees (cs.drop n) n' m') : Agrees cs (n + n') (m + m') := by
  obtain ⟨rfl, hclear⟩ := h
  obtain ⟨rfl, hclear'⟩ := h'
  exact ⟨rfl, hclear.add hclear'⟩

theorem Agrees.andThen {cs : List Char} {n m : Nat} (h : Agrees cs n m) {next : List Char → Nat}
    (hnext : OnOneLine next) :
    Agrees cs (andThen n next cs) (andThen m next (normalizeNewlines cs)) := by
  unfold Java.andThen
  rw [h.drop]
  exact h.add (hnext _)

theorem Agrees.onlyWith {cs : List Char} {n m : Nat} (h : Agrees cs n m) {next : List Char → Nat}
    (hnext : OnOneLine next) :
    Agrees cs (onlyWith n next cs) (onlyWith m next (normalizeNewlines cs)) := by
  have hmore := hnext (cs.drop n)
  unfold Java.onlyWith
  rw [h.drop, hmore.1]
  cases hread : next (cs.drop n) with
  | zero => exact .zero cs
  | succ k =>
      rw [hread] at hmore
      exact h.add ⟨rfl, hmore.2⟩

theorem Agrees.ite {cs : List Char} {n m n' m' : Nat} {b c : Bool} (hbc : c = b)
    (h : b = true → Agrees cs n m) (h' : b = false → Agrees cs n' m') :
    Agrees cs (if b then n else n') (if c then m else m') := by
  rw [hbc]
  cases b with
  | true => exact h rfl
  | false => exact h' rfl

/-! ## Runs of characters -/

theorem run_eq_length_takeWhile (p : Char → Bool) (cs : List Char) :
    run p cs = (cs.takeWhile p).length := by
  have honto (done : Nat) (cs : List Char) :
      runOnto p done cs = done + (cs.takeWhile p).length := by
    induction cs generalizing done with
    | nil => rfl
    | cons c cs ih =>
        rw [runOnto, List.takeWhile_cons]
        split
        · rw [ih, List.length_cons]
          omega
        · rfl
  rw [run, honto, Nat.zero_add]

section

variable {p : Char → Bool}

theorem run_cons {c : Char} (hc : p c = true) (rest : List Char) :
    run p (c :: rest) = 1 + run p rest := by
  rw [run_eq_length_takeWhile, run_eq_length_takeWhile, List.takeWhile_cons_of_pos hc,
    List.length_cons, Nat.add_comm]

theorem run_pos {cs : List Char} (h : cs.head?.any p = true) :
    0 < run p cs := by
  cases cs with
  | nil => cases h
  | cons c rest =>
      rw [List.head?_cons, Option.any_some] at h
      rw [run_cons h]
      omega

theorem run_append {line rest : List Char} (hline : ∀ c ∈ line, p c = true)
    (hstop : ∀ c ∈ rest.head?, p c = false) : run p (line ++ rest) = line.length := by
  have hrest : rest.takeWhile p = [] := by
    cases rest with
    | nil => rfl
    | cons c rest => exact List.takeWhile_cons_of_neg (by simp [hstop c rfl])
  rw [run_eq_length_takeWhile, List.takeWhile_append_of_pos hline, hrest, List.append_nil]

theorem unbroken_takeWhile (hn : p '\n' = false) (hr : p '\r' = false) (cs : List Char) :
    Unbroken (cs.takeWhile p) := by
  rintro c hc (rfl | rfl)
  · exact absurd (List.mem_takeWhile_imp hc) (by simp [hn])
  · exact absurd (List.mem_takeWhile_imp hc) (by simp [hr])

theorem onOneLine_run (hn : p '\n' = false) (hr : p '\r' = false) : OnOneLine (run p) := by
  intro cs
  have hline := unbroken_takeWhile hn hr cs
  rw [run_eq_length_takeWhile, run_eq_length_takeWhile,
    takeWhile_normalizeNewlines (hr.trans hn.symm), normalizeNewlines_eq_self hline]
  exact ⟨rfl, cs.takeWhile p, cs.dropWhile p, List.takeWhile_append_dropWhile.symm, rfl, hline⟩

/-- A test of the first character that does not tell line terminators apart. -/
theorem any_head?_normalizeNewlines (hp : p '\r' = p '\n') (cs : List Char) :
    (normalizeNewlines cs).head?.any p = cs.head?.any p := by
  cases cs using newline_induction with
  | nil => rfl
  | crlf rest _ => simp [normalizeNewlines_crlf, hp]
  | cons c rest hc _ =>
      rw [normalizeNewlines_cons_of_cleanCut hc, List.head?_cons, List.head?_cons,
        Option.any_some, Option.any_some, apply_newline hp]

theorem clear_one (hn : p '\n' = false) (hr : p '\r' = false) {cs : List Char}
    (h : cs.head?.any p = true) : Clear 1 cs := by
  cases cs with
  | nil => cases h
  | cons c rest =>
      refine ⟨[c], rest, rfl, rfl, ?_⟩
      rw [unbroken_cons]
      refine ⟨?_, unbroken_nil⟩
      rintro (rfl | rfl)
      · exact absurd h (by simp [hn])
      · exact absurd h (by simp [hr])

end

theorem head?_beq_some (cs : List Char) (c : Char) :
    (cs.head? == some c) = cs.head?.any (· == c) := by
  cases cs <;> rfl

theorem onOneLine_optionalOf (choices : List Char) (hn : choices.contains '\n' = false)
    (hr : choices.contains '\r' = false) : OnOneLine (optionalOf choices) := by
  intro cs
  exact .ite (any_head?_normalizeNewlines (hr.trans hn.symm) cs)
    (fun h => ⟨rfl, clear_one hn hr h⟩) (fun _ => .zero cs)

/-! ## Numbers -/

section

variable {p : Char → Bool} (hn : p '\n' = false) (hr : p '\r' = false)

/-- The number of underscores after the first `n` characters. -/
def barsAfter (n : Nat) (cs : List Char) : Nat :=
  run (· == '_') (cs.drop n)

theorem digitGroupsWithin_cons (single : Bool) (c : Char) (bound cs : List Char) :
    digitGroupsWithin p single (c :: bound) cs =
      if run p cs = 0 then 0
      else
        let n := run p cs
        let more := digitGroupsWithin p single bound (cs.drop (n + barsAfter n cs))
        if barsAfter n cs == 0 || (single && 1 < barsAfter n cs) || more == 0 then n
        else n + barsAfter n cs + more := by
  rw [digitGroupsWithin]
  unfold barsAfter
  cases hrun : run p cs with
  | zero => rfl
  | succ k =>
      simp only [Nat.add_eq_zero_iff, Nat.one_ne_zero, and_false, if_false]
      generalize digitGroupsWithin p single bound _ = more
      cases more <;> simp

include hn hr in
theorem onOneLine_digitGroupsWithin (single : Bool) (bound : List Char) :
    OnOneLine (digitGroupsWithin p single bound) := by
  induction bound with
  | nil => exact Agrees.zero
  | cons c bound ih =>
      intro cs
      have hdigits := onOneLine_run hn hr cs
      rw [digitGroupsWithin_cons, digitGroupsWithin_cons, hdigits.1]
      by_cases hzero : run p cs = 0
      · rw [if_pos hzero, if_pos hzero]
        exact .zero cs
      · have hfront : Agrees cs (run p cs) (run p cs) := ⟨rfl, hdigits.2⟩
        have hbars : Agrees (cs.drop (run p cs)) (barsAfter (run p cs) cs)
            (barsAfter (run p cs) (normalizeNewlines cs)) := by
          unfold barsAfter
          rw [hfront.drop]
          exact onOneLine_run (by decide) (by decide) _
        have hboth := hfront.add hbars
        have hmore := ih (cs.drop (run p cs + barsAfter (run p cs) cs))
        rw [← hboth.drop] at hmore
        rw [if_neg hzero, if_neg hzero]
        dsimp only
        rw [hmore.1, hbars.1]
        refine .ite rfl (fun _ => hfront) fun _ => ?_
        exact ⟨rfl, (hboth.add hmore).2⟩

/-- As many runs as there are characters suffice. -/
theorem digitGroupsWithin_of_length_le (single : Bool) {bound more cs : List Char}
    (hb : cs.length ≤ bound.length) (hm : cs.length ≤ more.length) :
    digitGroupsWithin p single bound cs = digitGroupsWithin p single more cs := by
  have hnil (bound : List Char) : digitGroupsWithin p single bound [] = 0 := by cases bound <;> rfl
  induction bound generalizing more cs with
  | nil =>
      obtain rfl := List.length_eq_zero_iff.mp (Nat.le_zero.mp hb)
      rw [hnil, hnil]
  | cons c bound ih =>
      cases more with
      | nil =>
          obtain rfl := List.length_eq_zero_iff.mp (Nat.le_zero.mp hm)
          rw [hnil, hnil]
      | cons d more =>
          rw [digitGroupsWithin_cons, digitGroupsWithin_cons]
          by_cases hzero : run p cs = 0
          · rw [if_pos hzero, if_pos hzero]
          · have hrest : digitGroupsWithin p single bound
                (cs.drop (run p cs + barsAfter (run p cs) cs)) =
                  digitGroupsWithin p single more
                    (cs.drop (run p cs + barsAfter (run p cs) cs)) := by
              apply ih <;> simp only [List.length_drop, List.length_cons] at hb hm ⊢ <;> omega
            simp only [if_neg hzero, hrest]

include hn hr in
theorem onOneLine_digitGroups : OnOneLine (digitGroups p) := by
  intro cs
  have hlength := length_normalizeNewlines_le cs
  unfold digitGroups
  rw [digitGroupsWithin_of_length_le true (Nat.le_refl _) hlength]
  exact onOneLine_digitGroupsWithin hn hr true cs cs

end

/-- Nothing is read of a text that starts with a line terminator. -/
theorem onOneLine_of_cons {read : List Char → Nat} (hnil : read [] = 0)
    (hnewline : ∀ c rest, c = '\n' ∨ c = '\r' → read (c :: rest) = 0)
    (hcons : ∀ c rest, ¬ (c = '\n' ∨ c = '\r') →
      Agrees (c :: rest) (read (c :: rest)) (read (c :: normalizeNewlines rest))) :
    OnOneLine read := by
  intro cs
  cases cs with
  | nil => exact hnil.symm ▸ .zero []
  | cons c rest =>
      by_cases hc : c = '\n' ∨ c = '\r'
      · obtain ⟨more, hmore⟩ := normalizeNewlines_terminator hc rest
        rw [hmore, hnewline c rest hc, hnewline '\n' _ (Or.inl rfl)]
        exact .zero _
      · rw [normalizeNewlines_cons_of_ne fun h => hc (Or.inr h)]
        exact hcons c rest hc

theorem Agrees.cons {c : Char} (hc : ¬ (c = '\n' ∨ c = '\r')) {rest : List Char} {n m : Nat}
    (h : Agrees rest n m) : Agrees (c :: rest) (1 + n) (1 + m) := by
  have hone : Agrees (c :: rest) 1 1 :=
    ⟨rfl, [c], rest, rfl, rfl, unbroken_cons.mpr ⟨hc, unbroken_nil⟩⟩
  exact hone.add h

theorem onOneLine_decimalDigits : OnOneLine (digitGroups Char.isDigit) :=
  onOneLine_digitGroups (by decide) (by decide)

theorem integerDigits_cons (c : Char) (rest : List Char) :
    integerDigits (c :: rest) =
      if c == '0' then 1
      else if c.isDigit then
        1 + onlyWith (optionalOf ['_'] rest) (digitGroupsWithin Char.isDigit false rest) rest
      else 0 := by
  by_cases hc : c = '0'
  · subst hc
    rfl
  · have hbar : (if rest.head? == some '_' then 1 else 0) = optionalOf ['_'] rest := by
      cases rest <;> simp [optionalOf]
    have hzero : (c == '0') = false := by simpa using hc
    rw [integerDigits, hbar, hzero, onlyWith]
    · dsimp only
      generalize digitGroupsWithin Char.isDigit false rest _ = n
      cases n <;> simp [Nat.add_assoc]
    · exact hc

theorem onOneLine_integerDigits : OnOneLine integerDigits := by
  refine onOneLine_of_cons rfl ?_ ?_
  · rintro c rest (rfl | rfl) <;> rfl
  · intro c rest hc
    have hbar := onOneLine_optionalOf ['_'] (by decide) (by decide) rest
    have hgroups := hbar.onlyWith
      (onOneLine_digitGroupsWithin (p := Char.isDigit) (by decide) (by decide) false rest)
    have hbound : onlyWith (optionalOf ['_'] (normalizeNewlines rest))
        (digitGroupsWithin Char.isDigit false (normalizeNewlines rest)) (normalizeNewlines rest) =
          onlyWith (optionalOf ['_'] (normalizeNewlines rest))
            (digitGroupsWithin Char.isDigit false rest) (normalizeNewlines rest) := by
      have hlength := length_normalizeNewlines_le rest
      have hsame : digitGroupsWithin Char.isDigit false (normalizeNewlines rest)
          ((normalizeNewlines rest).drop (optionalOf ['_'] (normalizeNewlines rest))) =
            digitGroupsWithin Char.isDigit false rest
              ((normalizeNewlines rest).drop (optionalOf ['_'] (normalizeNewlines rest))) := by
        apply digitGroupsWithin_of_length_le <;> rw [List.length_drop] <;> omega
      rw [onlyWith, hsame, onlyWith]
    rw [integerDigits_cons, integerDigits_cons, hbound]
    refine .ite rfl (fun _ => (Agrees.zero rest).cons hc) fun _ => ?_
    exact .ite rfl (fun _ => hgroups.cons hc) fun _ => .zero _

theorem onOneLine_exponentLength (marks : List Char) {digits : List Char → Nat}
    (hn : marks.contains '\n' = false) (hr : marks.contains '\r' = false)
    (hdigits : OnOneLine digits) : OnOneLine (exponentLength marks digits) := by
  intro cs
  refine .ite (any_head?_normalizeNewlines (hr.trans hn.symm) cs) (fun h => ?_) fun _ => .zero cs
  have hone : Agrees cs 1 1 := ⟨rfl, clear_one hn hr h⟩
  have hsign := hone.andThen (onOneLine_optionalOf ['+', '-'] (by decide) (by decide))
  exact hsign.onlyWith hdigits

theorem onOneLine_longSuffix : OnOneLine longSuffix :=
  onOneLine_optionalOf _ (by decide) (by decide)

theorem onOneLine_floatSuffix : OnOneLine floatSuffix :=
  onOneLine_optionalOf _ (by decide) (by decide)

/-- Whether a text starts with zero and one of some marks. -/
def startsMarked (marks : List Char) (cs : List Char) : Bool :=
  cs.head?.any (· == '0') && (cs.drop 1).head?.any marks.contains

theorem startsMarked_cases (marks : List Char) (cs : List Char) :
    (∃ mark rest, cs = '0' :: mark :: rest ∧ startsMarked marks cs = marks.contains mark) ∨
      (∀ mark rest, cs ≠ '0' :: mark :: rest) ∧ startsMarked marks cs = false := by
  match cs with
  | [] => exact Or.inr ⟨by simp, rfl⟩
  | [c] => exact Or.inr ⟨by simp, by simp [startsMarked]⟩
  | c :: mark :: rest =>
      by_cases hc : c = '0'
      · exact Or.inl ⟨mark, rest, by rw [hc], by simp [startsMarked, hc]⟩
      · exact Or.inr ⟨by simp [hc], by simp [startsMarked, hc]⟩

section

variable {marks : List Char} (hn : marks.contains '\n' = false) (hr : marks.contains '\r' = false)

include hn hr in
theorem startsMarked_normalizeNewlines (cs : List Char) :
    startsMarked marks (normalizeNewlines cs) = startsMarked marks cs := by
  unfold startsMarked
  rw [any_head?_normalizeNewlines (by decide)]
  cases hzero : cs.head?.any (· == '0') with
  | false => rfl
  | true =>
      have hone : Clear 1 cs := clear_one (p := (· == '0')) (by decide) (by decide) hzero
      rw [hone.drop_normalizeNewlines, any_head?_normalizeNewlines (hr.trans hn.symm)]

include hn hr in
theorem Agrees.two {cs : List Char} (h : startsMarked marks cs = true) : Agrees cs 2 2 := by
  obtain ⟨hzero, hmark⟩ := Bool.and_eq_true_iff.mp h
  have hone : Clear 1 cs := clear_one (p := (· == '0')) (by decide) (by decide) hzero
  exact ⟨rfl, hone.add (clear_one hn hr hmark)⟩

theorem markedDigits_eq (p : Char → Bool) (cs : List Char) :
    markedDigits marks p cs =
      if startsMarked marks cs then onlyWith 2 (digitGroups p) cs else 0 := by
  rcases startsMarked_cases marks cs with ⟨mark, rest, rfl, hmark⟩ | ⟨hother, hmark⟩
  · rw [hmark, markedDigits]
  · rw [hmark, markedDigits]
    · rfl
    · intro mark rest heq
      exact hother mark rest heq

include hn hr in
theorem onOneLine_markedDigits {p : Char → Bool} (hpn : p '\n' = false) (hpr : p '\r' = false) :
    OnOneLine (markedDigits marks p) := by
  intro cs
  rw [markedDigits_eq, markedDigits_eq]
  refine .ite (startsMarked_normalizeNewlines hn hr cs) (fun h => ?_) fun _ => .zero cs
  exact (Agrees.two hn hr h).onlyWith (onOneLine_digitGroups hpn hpr)

end

theorem Agrees.withSuffix {cs : List Char} {n m : Nat} (h : Agrees cs n m) :
    Agrees cs (if n == 0 then 0 else Java.andThen n longSuffix cs)
      (if m == 0 then 0 else Java.andThen m longSuffix (normalizeNewlines cs)) :=
  .ite (by rw [h.1]) (fun _ => .zero cs) fun _ => h.andThen onOneLine_longSuffix

theorem integerLengths_agree (cs : List Char) :
    List.Forall₂ (Agrees cs) (integerLengths cs) (integerLengths (normalizeNewlines cs)) := by
  have hzero : Agrees cs
      (if cs.head? == some '0' then onlyWith 1 (digitGroups fun c => '0' ≤ c && c ≤ '7') cs else 0)
      (if (normalizeNewlines cs).head? == some '0'
        then onlyWith 1 (digitGroups fun c => '0' ≤ c && c ≤ '7') (normalizeNewlines cs)
        else 0) := by
    rw [head?_beq_some, head?_beq_some]
    refine .ite (any_head?_normalizeNewlines (by decide) cs) (fun h => ?_)
      fun _ => .zero cs
    have hone : Agrees cs 1 1 := ⟨rfl, clear_one (p := (· == '0')) (by decide) (by decide) h⟩
    exact hone.onlyWith (onOneLine_digitGroups (by decide) (by decide))
  refine .cons (onOneLine_integerDigits cs).withSuffix (.cons (Agrees.withSuffix ?_)
    (.cons (Agrees.withSuffix ?_) (.cons (Agrees.withSuffix ?_) (.cons hzero.withSuffix .nil))))
  · exact onOneLine_markedDigits (by decide) (by decide) (by decide) (by decide) cs
  · exact onOneLine_markedDigits (by decide) (by decide) (by decide) (by decide) cs
  · exact onOneLine_markedDigits (by decide) (by decide) (by decide) (by decide) cs

theorem Agrees.finish {cs : List Char} {n m : Nat} (h : Agrees cs n m) {exponent : List Char → Nat}
    (he : OnOneLine exponent) :
    Agrees cs (Java.andThen (Java.andThen n exponent cs) floatSuffix cs)
      (Java.andThen (Java.andThen m exponent (normalizeNewlines cs)) floatSuffix
        (normalizeNewlines cs)) :=
  (h.andThen he).andThen onOneLine_floatSuffix

/-- What follows the first characters of a text is a point in both readings or in none. -/
theorem Agrees.point_eq {cs : List Char} {n m : Nat} (h : Agrees cs n m) :
    (((normalizeNewlines cs).drop m).head? == some '.') = ((cs.drop n).head? == some '.') := by
  rw [head?_beq_some, head?_beq_some, h.drop, any_head?_normalizeNewlines (by decide)]

theorem Agrees.point {cs : List Char} {n m : Nat} (h : Agrees cs n m)
    (hpoint : ((cs.drop n).head? == some '.') = true) : Agrees cs (n + 1) (m + 1) := by
  rw [head?_beq_some] at hpoint
  exact h.add ⟨rfl, clear_one (p := (· == '.')) (by decide) (by decide) hpoint⟩

theorem decimalFloatLengths_agree (cs : List Char) :
    List.Forall₂ (Agrees cs) (decimalFloatLengths cs)
      (decimalFloatLengths (normalizeNewlines cs)) := by
  have hdigits := onOneLine_decimalDigits
  have hexponent := onOneLine_exponentLength ['e', 'E'] (by decide) (by decide) hdigits
  have hwhole := hdigits cs
  have hplain := onOneLine_integerDigits cs
  refine .cons ?_ (.cons ?_ (.cons ?_ .nil))
  · refine .ite (by dsimp only; rw [hwhole.point_eq, hwhole.1]) (fun h => ?_) fun _ => .zero cs
    have hpoint := hwhole.point (Bool.and_eq_true_iff.mp h).2
    exact (hpoint.andThen hdigits).finish hexponent
  · refine .ite (Agrees.zero cs).point_eq (fun h => ?_) fun _ => .zero cs
    have hone := (Agrees.zero cs).point h
    have hmore := hdigits (cs.drop 1)
    rw [hone.drop, hmore.1]
    cases hread : digitGroups Char.isDigit (cs.drop 1) with
    | zero => exact .zero cs
    | succ k =>
        rw [hread] at hmore
        exact (hone.add ⟨rfl, hmore.2⟩).finish hexponent
  · refine .ite (by rw [hplain.1]) (fun _ => ?_) fun _ => .zero cs
    have hmore := hexponent (cs.drop (integerDigits cs))
    rw [hplain.drop, hmore.1]
    cases hread : exponentLength ['e', 'E'] (digitGroups Char.isDigit)
        (cs.drop (integerDigits cs)) with
    | zero => exact hplain.onlyWith onOneLine_floatSuffix
    | succ k =>
        rw [hread] at hmore
        exact (hplain.add ⟨rfl, hmore.2⟩).andThen onOneLine_floatSuffix

/-- The digits of a floating point number in base sixteen before its point. -/
def hexWhole (cs : List Char) : Nat :=
  digitGroups isHexDigit cs

/-- The digits after the point, if there is one. -/
def hexFraction (cs : List Char) : Nat :=
  if (cs.drop (hexWhole cs)).head? == some '.' then
    digitGroups isHexDigit (cs.drop (hexWhole cs + 1))
  else 0

/-- The digits and the point. -/
def hexMantissa (cs : List Char) : Nat :=
  hexWhole cs + (if (cs.drop (hexWhole cs)).head? == some '.' then 1 else 0) + hexFraction cs

/-- The digits, the exponent and the suffix of a floating point number in base sixteen. -/
def hexFloatBody (cs : List Char) : Nat :=
  if hexWhole cs == 0 && hexFraction cs == 0 then 0
  else
    match exponentLength ['p', 'P'] integerDigits (cs.drop (hexMantissa cs)) with
    | 0 => hexMantissa cs
    | n => andThen (hexMantissa cs + n) floatSuffix cs

theorem hexParts_agree (cs : List Char) :
    Agrees cs (hexWhole cs) (hexWhole (normalizeNewlines cs)) ∧
      hexFraction (normalizeNewlines cs) = hexFraction cs ∧
      Agrees cs (hexMantissa cs) (hexMantissa (normalizeNewlines cs)) := by
  have hdigits : OnOneLine (digitGroups isHexDigit) :=
    onOneLine_digitGroups (by decide) (by decide)
  have hwhole : Agrees cs (hexWhole cs) (hexWhole (normalizeNewlines cs)) := hdigits cs
  refine ⟨hwhole, ?_⟩
  unfold hexMantissa hexFraction
  rw [hwhole.point_eq]
  cases hpoint : ((cs.drop (hexWhole cs)).head? == some '.') with
  | true =>
      have hmore := hdigits (cs.drop (hexWhole cs + 1))
      have hstart := hwhole.point hpoint
      rw [← hstart.drop] at hmore
      exact ⟨hmore.1, hstart.add hmore⟩
  | false => exact ⟨rfl, hwhole⟩

theorem onOneLine_hexFloatBody : OnOneLine hexFloatBody := by
  intro cs
  obtain ⟨hwhole, hfraction, hmantissa⟩ := hexParts_agree cs
  have hexponent := onOneLine_exponentLength ['p', 'P'] (by decide) (by decide)
    onOneLine_integerDigits (cs.drop (hexMantissa cs))
  unfold hexFloatBody
  refine .ite (by rw [hwhole.1, hfraction]) (fun _ => .zero cs) fun _ => ?_
  rw [hmantissa.drop, hexponent.1]
  cases hread : exponentLength ['p', 'P'] integerDigits (cs.drop (hexMantissa cs)) with
  | zero => exact hmantissa
  | succ k =>
      rw [hread] at hexponent
      exact (hmantissa.add ⟨rfl, hexponent.2⟩).andThen onOneLine_floatSuffix

theorem hexMantissa_pos {cs : List Char} (h : (hexWhole cs == 0 && hexFraction cs == 0) = false) :
    0 < hexMantissa cs := by
  unfold hexMantissa
  by_cases hwhole : hexWhole cs = 0
  · have hfraction : hexFraction cs ≠ 0 := by simpa [hwhole] using h
    omega
  · omega

theorem hexFloatLength_cons (mark : Char) (rest : List Char) :
    hexFloatLength ('0' :: mark :: rest) =
      if mark == 'x' || mark == 'X' then onlyWith 2 hexFloatBody ('0' :: mark :: rest) else 0 := by
  rw [hexFloatLength]
  congr 1
  change (if hexWhole rest == 0 && hexFraction rest == 0 then 0
    else match exponentLength ['p', 'P'] integerDigits (rest.drop (hexMantissa rest)) with
      | 0 => 2 + hexMantissa rest
      | n => 2 + andThen (hexMantissa rest + n) floatSuffix rest) =
    match hexFloatBody rest with
    | 0 => 0
    | n => 2 + n
  unfold hexFloatBody
  cases hzero : (hexWhole rest == 0 && hexFraction rest == 0) with
  | true => rfl
  | false =>
      have hpos := hexMantissa_pos hzero
      simp only [Bool.false_eq_true, if_false]
      cases exponentLength ['p', 'P'] integerDigits (rest.drop (hexMantissa rest)) with
      | zero =>
          obtain ⟨k, hk⟩ := Nat.exists_eq_succ_of_ne_zero (Nat.ne_of_gt hpos)
          simp [hk]
      | succ n =>
          have hne : andThen (hexMantissa rest + (n + 1)) floatSuffix rest ≠ 0 := by
            unfold andThen
            omega
          obtain ⟨k, hk⟩ := Nat.exists_eq_succ_of_ne_zero hne
          simp [hk]

theorem hexFloatLength_eq (cs : List Char) :
    hexFloatLength cs = if startsMarked ['x', 'X'] cs then onlyWith 2 hexFloatBody cs else 0 := by
  rcases startsMarked_cases ['x', 'X'] cs with ⟨mark, rest, rfl, hmark⟩ | ⟨hother, hmark⟩
  · rw [hmark, hexFloatLength_cons]
    simp only [List.contains_cons, List.contains_nil, Bool.or_false]
  · rw [hmark, hexFloatLength]
    · rfl
    · intro mark rest heq
      exact hother mark rest heq

theorem onOneLine_hexFloatLength : OnOneLine hexFloatLength := by
  intro cs
  rw [hexFloatLength_eq, hexFloatLength_eq]
  refine .ite (startsMarked_normalizeNewlines (by decide) (by decide) cs) (fun h => ?_)
    fun _ => .zero cs
  exact (Agrees.two (by decide) (by decide) h).onlyWith onOneLine_hexFloatBody

theorem Agrees.foldl_max {cs : List Char} {lengths others : List Nat}
    (h : List.Forall₂ (Agrees cs) lengths others) {n m : Nat} (hn : Agrees cs n m) :
    Agrees cs (lengths.foldl Nat.max n) (others.foldl Nat.max m) := by
  induction h generalizing n m with
  | nil => exact hn
  | cons hfirst _ ih => exact ih (hn.max hfirst)

theorem onOneLine_numberLength : OnOneLine numberLength := by
  intro cs
  have hall := List.rel_append (List.rel_append (integerLengths_agree cs)
    (decimalFloatLengths_agree cs)) (.cons (onOneLine_hexFloatLength cs) .nil)
  exact Agrees.foldl_max hall (.zero cs)

/-! ## Words and symbols -/

theorem onOneLine_wordLength : OnOneLine wordLength := by
  refine onOneLine_of_cons rfl ?_ ?_
  · intro c rest hc
    have hstart : isWordStart c = false := by rcases hc with rfl | rfl <;> decide
    rw [wordLength, hstart]
    rfl
  · intro c rest hc
    unfold wordLength
    refine .ite rfl (fun _ => ?_) fun _ => .zero _
    exact (onOneLine_run (by decide) (by decide) rest).cons hc

theorem isPrefixOf_normalizeNewlines {front : List Char} (h : Unbroken front) (cs : List Char) :
    front.isPrefixOf (normalizeNewlines cs) = front.isPrefixOf cs := by
  induction front generalizing cs with
  | nil => rfl
  | cons c front ih =>
      obtain ⟨hc, hfront⟩ := unbroken_cons.mp h
      cases cs with
      | nil => rfl
      | cons d cs =>
          by_cases hd : d = '\n' ∨ d = '\r'
          · obtain ⟨more, hmore⟩ := normalizeNewlines_terminator hd cs
            have hcd : (c == d) = false := by
              rw [beq_eq_false_iff_ne]
              rintro rfl
              exact hc hd
            have hcn : (c == '\n') = false := by
              rw [beq_eq_false_iff_ne]
              rintro rfl
              exact hc (Or.inl rfl)
            rw [hmore, List.isPrefixOf, List.isPrefixOf, hcd, hcn]
            rfl
          · rw [normalizeNewlines_cons_of_ne (fun hr => hd (Or.inr hr)), List.isPrefixOf,
              List.isPrefixOf, ih hfront]

theorem unbroken_of_mem_symbols : ∀ symbol ∈ symbols, Unbroken symbol.toList := by
  decide

theorem length_pos_of_mem_symbols : ∀ symbol ∈ symbols, 0 < symbol.length := by
  decide

theorem symbolAt?_normalizeNewlines (cs : List Char) :
    symbolAt? (normalizeNewlines cs) = symbolAt? cs := by
  refine List.find?_congr fun symbol hmem => ?_
  exact isPrefixOf_normalizeNewlines (unbroken_of_mem_symbols symbol hmem) cs

theorem clear_of_symbolAt? {cs : List Char} {symbol : String} (h : symbolAt? cs = some symbol) :
    Clear symbol.length cs := by
  unfold symbolAt? at h
  have hmem := List.mem_of_find?_eq_some h
  have hstarts := List.find?_some h
  obtain ⟨rest, hrest⟩ := List.isPrefixOf_iff_prefix.mp hstarts
  exact ⟨symbol.toList, rest, hrest.symm, String.length_toList,
    unbroken_of_mem_symbols symbol hmem⟩

end Cyclomatic.Java
