import Cyclomatic.Proofs.Text.Lines
import Cyclomatic.Proofs.Text.Utf8
import Cyclomatic.Text.Blank
import Mathlib.Data.List.TakeDrop
import Mathlib.Data.List.TakeWhile

/-! # Texts with one kind of line terminator

A text may be cut anywhere but inside of a line terminator, and its parts rewritten one by one.
White space stays white space, so the words remain. -/

namespace Cyclomatic.Text

/-! ## Cuts -/

/-- A text may be cut here: no terminator of two characters is torn apart. -/
def CleanCut (front back : List Char) : Prop :=
  ¬ (front.getLast? = some '\r' ∧ back.head? = some '\n')

/-- A text starts with the two characters of one terminator or with any other character. -/
theorem newline_induction {motive : List Char → Prop} (nil : motive [])
    (crlf : ∀ rest, motive rest → motive ('\r' :: '\n' :: rest))
    (cons : ∀ c rest, CleanCut [c] rest → motive rest → motive (c :: rest))
    (cs : List Char) : motive cs := by
  induction [], cs using normalizeNewlinesOnto.induct with
  | case1 done => exact nil
  | case2 done rest ih => exact crlf rest ih
  | case3 done c rest h ih =>
      refine cons c rest ?_ ih
      rintro ⟨hlast, hhead⟩
      obtain ⟨tail, rfl⟩ := List.head?_eq_some_iff.mp hhead
      exact h tail (Option.some.inj hlast) rfl

theorem normalizeNewlines_nil : normalizeNewlines [] = [] := rfl

theorem normalizeNewlines_cons_of_cleanCut {c : Char} {rest : List Char}
    (h : CleanCut [c] rest) :
    normalizeNewlines (c :: rest) =
      (if c = '\r' then '\n' else c) :: normalizeNewlines rest := by
  refine normalizeNewlines_cons ?_
  rintro tail rfl rfl
  exact h ⟨rfl, rfl⟩

theorem cleanCut_of_ne {c : Char} (h : c ≠ '\r') (rest : List Char) : CleanCut [c] rest := by
  rintro ⟨hlast, -⟩
  exact h (Option.some.inj hlast)

theorem normalizeNewlines_cons_of_ne {c : Char} (h : c ≠ '\r') (rest : List Char) :
    normalizeNewlines (c :: rest) = c :: normalizeNewlines rest := by
  rw [normalizeNewlines_cons_of_cleanCut (cleanCut_of_ne h rest), if_neg h]

theorem CleanCut.tail {c : Char} {front back : List Char} (h : CleanCut (c :: front) back)
    (hne : front ≠ []) : CleanCut front back := by
  rintro ⟨hlast, hhead⟩
  refine h ⟨?_, hhead⟩
  rw [List.getLast?_cons_of_ne_nil hne, hlast]

theorem cleanCut_nil (rest : List Char) : CleanCut [] rest := by
  rintro ⟨hlast, -⟩
  cases hlast

theorem cleanCut_of_head? {front rest : List Char} (h : rest.head? ≠ some '\n') :
    CleanCut front rest :=
  fun hcut => h hcut.2

theorem cleanCut_of_getLast? {front rest : List Char} (h : front.getLast? ≠ some '\r') :
    CleanCut front rest :=
  fun hcut => h hcut.1

theorem cleanCut_of_unbroken {front : List Char} (h : Unbroken front) (rest : List Char) :
    CleanCut front rest :=
  cleanCut_of_getLast? fun hlast => h '\r' (List.mem_of_getLast? hlast) (Or.inr rfl)

theorem CleanCut.of_append {front middle back : List Char} (h : CleanCut front (middle ++ back)) :
    CleanCut front middle := by
  rintro ⟨hlast, hhead⟩
  refine h ⟨hlast, ?_⟩
  rw [List.head?_append, hhead]
  rfl

theorem CleanCut.append {front middle back : List Char} (h : CleanCut front (middle ++ back))
    (hm : CleanCut middle back) : CleanCut (front ++ middle) back := by
  by_cases hnil : middle = []
  · subst hnil
    rwa [List.append_nil]
  · rintro ⟨hlast, hhead⟩
    rw [List.getLast?_append, Option.or_of_isSome (by simpa using hnil)] at hlast
    exact hm ⟨hlast, hhead⟩

/-- The parts of a text are rewritten one by one. -/
theorem normalizeNewlines_append {front back : List Char} (h : CleanCut front back) :
    normalizeNewlines (front ++ back) = normalizeNewlines front ++ normalizeNewlines back := by
  induction front using newline_induction with
  | nil => rfl
  | crlf front ih =>
      rw [List.cons_append, List.cons_append, normalizeNewlines_crlf, normalizeNewlines_crlf]
      by_cases hfront : front = []
      · subst hfront
        rfl
      · rw [ih ((h.tail (by simp)).tail hfront), List.cons_append]
  | cons c front hc ih =>
      by_cases hfront : front = []
      · subst hfront
        rw [List.singleton_append, normalizeNewlines_cons_of_cleanCut h,
          normalizeNewlines_cons_of_cleanCut hc]
        rfl
      · have hc' : CleanCut [c] (front ++ back) := by
          rintro ⟨hlast, hhead⟩
          refine hc ⟨hlast, ?_⟩
          rwa [List.head?_append, Option.or_of_isSome (by simpa using hfront)] at hhead
        rw [List.cons_append, normalizeNewlines_cons_of_cleanCut hc',
          normalizeNewlines_cons_of_cleanCut hc, ih (h.tail hfront), List.cons_append]

theorem normalizeNewlines_unbroken {line : List Char} (h : Unbroken line) (rest : List Char) :
    normalizeNewlines (line ++ rest) = line ++ normalizeNewlines rest := by
  induction line with
  | nil => rfl
  | cons c line ih =>
      obtain ⟨hc, hline⟩ := unbroken_cons.mp h
      rw [List.cons_append, normalizeNewlines_cons_of_ne (fun hr => hc (Or.inr hr)), ih hline,
        List.cons_append]

theorem normalizeNewlines_eq_self {line : List Char} (h : Unbroken line) :
    normalizeNewlines line = line := by
  have hline := normalizeNewlines_unbroken h []
  rwa [List.append_nil, normalizeNewlines_nil, List.append_nil] at hline

/-- A text that starts with a line terminator is rewritten to one that starts with a line feed. -/
theorem normalizeNewlines_terminator {c : Char} (hc : c = '\n' ∨ c = '\r') (rest : List Char) :
    ∃ more, normalizeNewlines (c :: rest) = '\n' :: normalizeNewlines more := by
  by_cases h : CleanCut [c] rest
  · refine ⟨rest, ?_⟩
    rw [normalizeNewlines_cons_of_cleanCut h]
    rcases hc with rfl | rfl <;> rfl
  · obtain ⟨hlast, hhead⟩ := not_not.mp h
    obtain ⟨more, rfl⟩ := List.head?_eq_some_iff.mp hhead
    obtain rfl : c = '\r' := Option.some.inj hlast
    exact ⟨more, normalizeNewlines_crlf more⟩

theorem normalizeNewlines_eq_nil_iff (cs : List Char) : normalizeNewlines cs = [] ↔ cs = [] := by
  induction cs using newline_induction with
  | nil => simp [normalizeNewlines_nil]
  | crlf rest _ => simp [normalizeNewlines_crlf]
  | cons c rest hc _ => simp [normalizeNewlines_cons_of_cleanCut hc]

theorem length_normalizeNewlines_le (cs : List Char) :
    (normalizeNewlines cs).length ≤ cs.length := by
  induction cs using newline_induction with
  | nil => exact Nat.le_refl _
  | crlf rest ih =>
      rw [normalizeNewlines_crlf]
      simp only [List.length_cons]
      omega
  | cons c rest hc ih =>
      rw [normalizeNewlines_cons_of_cleanCut hc]
      simp only [List.length_cons]
      omega

/-! ## White space -/

section

variable {p : Char → Bool}

theorem apply_newline (hp : p '\r' = p '\n') (c : Char) :
    p (if c = '\r' then '\n' else c) = p c := by
  by_cases hc : c = '\r'
  · rw [if_pos hc, hc, hp]
  · rw [if_neg hc]

theorem takeWhile_normalizeNewlines (hp : p '\r' = p '\n') (cs : List Char) :
    (normalizeNewlines cs).takeWhile p = normalizeNewlines (cs.takeWhile p) := by
  induction cs using newline_induction with
  | nil => rfl
  | crlf rest ih =>
      cases hn : p '\n' with
      | true => simp [normalizeNewlines_crlf, hp, hn, ih]
      | false => simp [normalizeNewlines_crlf, normalizeNewlines_nil, hp, hn]
  | cons c rest hc ih =>
      rw [normalizeNewlines_cons_of_cleanCut hc, List.takeWhile_cons, List.takeWhile_cons,
        apply_newline hp]
      cases p c with
      | false => rfl
      | true =>
          rw [← List.takeWhile_append_dropWhile (p := p) (l := rest)] at hc
          simp only [if_true, normalizeNewlines_cons_of_cleanCut hc.of_append, ih]

theorem dropWhile_normalizeNewlines (hp : p '\r' = p '\n') (cs : List Char) :
    (normalizeNewlines cs).dropWhile p = normalizeNewlines (cs.dropWhile p) := by
  induction cs using newline_induction with
  | nil => rfl
  | crlf rest ih =>
      cases hn : p '\n' with
      | true => simp [normalizeNewlines_crlf, hp, hn, ih]
      | false => simp [normalizeNewlines_crlf, hp, hn]
  | cons c rest hc ih =>
      rw [normalizeNewlines_cons_of_cleanCut hc, List.dropWhile_cons, List.dropWhile_cons,
        apply_newline hp]
      cases p c with
      | true => exact ih
      | false => simp [normalizeNewlines_cons_of_cleanCut hc]

end

/-! ## Words -/

theorem firstWord_eq (cs : List Char) :
    firstWord cs = ((cs.dropWhile isBlank).takeWhile fun c => !isBlank c,
      (cs.dropWhile isBlank).dropWhile fun c => !isBlank c) :=
  List.span_eq_takeWhile_dropWhile _ _

theorem wordsWithin_succ (rounds : Nat) (cs : List Char) :
    wordsWithin (rounds + 1) cs =
      if (firstWord cs).1 = [] then []
      else (firstWord cs).1 :: wordsWithin rounds (firstWord cs).2 := by
  rw [wordsWithin]
  obtain ⟨word, rest⟩ := firstWord cs
  cases word <;> rfl

theorem length_firstWord_lt {cs : List Char} (h : (firstWord cs).1 ≠ []) :
    (firstWord cs).2.length < cs.length := by
  rw [firstWord_eq] at h ⊢
  dsimp only at h ⊢
  have hsplit := congrArg List.length (List.takeWhile_append_dropWhile (p := fun c => !isBlank c)
    (l := cs.dropWhile isBlank))
  have hdrop := (List.dropWhile_suffix (l := cs) isBlank).length_le
  have hword := List.length_pos_iff.mpr h
  rw [List.length_append] at hsplit
  omega

/-- As many rounds as there are characters suffice. -/
theorem wordsWithin_of_length_le {rounds more : Nat} {cs : List Char} (hr : cs.length ≤ rounds)
    (hm : cs.length ≤ more) : wordsWithin rounds cs = wordsWithin more cs := by
  have hnil (n : Nat) : wordsWithin n [] = [] := by cases n <;> rfl
  induction rounds generalizing more cs with
  | zero =>
      obtain rfl := List.length_eq_zero_iff.mp (Nat.le_zero.mp hr)
      rw [hnil, hnil]
  | succ rounds ih =>
      cases more with
      | zero =>
          obtain rfl := List.length_eq_zero_iff.mp (Nat.le_zero.mp hm)
          rw [hnil, hnil]
      | succ more =>
          rw [wordsWithin_succ, wordsWithin_succ]
          by_cases hword : (firstWord cs).1 = []
          · rw [if_pos hword, if_pos hword]
          · have hlength := length_firstWord_lt hword
            have hrest : wordsWithin rounds (firstWord cs).2 = wordsWithin more (firstWord cs).2 :=
              ih (by omega) (by omega)
            rw [if_neg hword, if_neg hword, hrest]

/-- Texts with the same first word and related texts after it have the same words. -/
theorem words_of_firstWord {R : List Char → List Char → Prop}
    (h : ∀ {cs ds}, R cs ds → (firstWord cs).1 = (firstWord ds).1 ∧
      ((firstWord cs).1 ≠ [] → R (firstWord cs).2 (firstWord ds).2))
    {cs ds : List Char} (hR : R cs ds) : words cs = words ds := by
  have hrounds (rounds : Nat) {cs ds : List Char} (hR : R cs ds) :
      wordsWithin rounds cs = wordsWithin rounds ds := by
    induction rounds generalizing cs ds with
    | zero => rfl
    | succ rounds ih =>
        obtain ⟨hword, hrest⟩ := h hR
        rw [wordsWithin_succ, wordsWithin_succ, ← hword]
        by_cases hnil : (firstWord cs).1 = []
        · rw [if_pos hnil, if_pos hnil]
        · rw [if_neg hnil, if_neg hnil, ih (hrest hnil)]
  rw [words, words, wordsWithin_of_length_le (Nat.le_refl _) (Nat.le_add_right _ ds.length),
    hrounds _ hR, wordsWithin_of_length_le (Nat.le_add_left _ _) (Nat.le_refl _)]

theorem allBlank_normalizeNewlines {cs : List Char} (h : allBlank cs = true) :
    allBlank (normalizeNewlines cs) = true := by
  induction cs using newline_induction with
  | nil => rfl
  | crlf rest ih =>
      rw [normalizeNewlines_crlf]
      exact ih h
  | cons c rest hc ih =>
      obtain ⟨hblank, hrest⟩ := Bool.and_eq_true_iff.mp h
      rw [normalizeNewlines_cons_of_cleanCut hc]
      refine Bool.and_eq_true_iff.mpr ⟨?_, ih hrest⟩
      split
      · rfl
      · exact hblank

theorem words_normalizeNewlines (cs : List Char) : words (normalizeNewlines cs) = words cs := by
  refine words_of_firstWord (R := fun ds cs => ds = normalizeNewlines cs) ?_ rfl
  rintro _ cs rfl
  have hword : Unbroken ((cs.dropWhile isBlank).takeWhile fun c => !isBlank c) := by
    intro c hc hbreak
    have hblank := List.mem_takeWhile_imp hc
    rcases hbreak with rfl | rfl <;> exact absurd hblank (by decide)
  rw [firstWord_eq, firstWord_eq, dropWhile_normalizeNewlines (by decide),
    takeWhile_normalizeNewlines (by decide), dropWhile_normalizeNewlines (by decide),
    normalizeNewlines_eq_self hword]
  exact ⟨rfl, fun _ => rfl⟩

theorem span_append_stop {p : Char → Bool} {b : Char} (hb : p b = false) (cs : List Char) :
    (cs ++ [b]).takeWhile p = cs.takeWhile p ∧ (cs ++ [b]).dropWhile p = cs.dropWhile p ++ [b] := by
  induction cs with
  | nil => simp [hb]
  | cons c cs ih => cases hc : p c <;> simp [hc, ih]

/-- A blank at the end belongs to no word. -/
theorem words_append_blank {b : Char} (hb : isBlank b = true) (cs : List Char) :
    words (cs ++ [b]) = words cs := by
  refine words_of_firstWord (R := fun ds cs => ds = cs ++ [b]) ?_ rfl
  rintro _ cs rfl
  rw [firstWord_eq, firstWord_eq, List.dropWhile_append]
  cases hd : cs.dropWhile isBlank with
  | nil => simp [hb]
  | cons c rest =>
      obtain ⟨hword, hrest⟩ := span_append_stop (p := fun d => !isBlank d) (b := b)
        (by simp [hb]) (c :: rest)
      exact ⟨hword, fun _ => hrest⟩

/-! ## Bytes -/

/-- The number of bytes of a text. -/
def byteSize (cs : List Char) : Nat :=
  (cs.flatMap String.utf8EncodeChar).length

theorem byteSize_nil : byteSize [] = 0 := rfl

theorem byteSize_cons (c : Char) (cs : List Char) :
    byteSize (c :: cs) = c.utf8Size + byteSize cs := by
  rw [byteSize, List.flatMap_cons, List.length_append, String.length_utf8EncodeChar, byteSize]

theorem byteSize_append (front back : List Char) :
    byteSize (front ++ back) = byteSize front + byteSize back := by
  rw [byteSize, List.flatMap_append, List.length_append, byteSize, byteSize]

theorem byteSize_eq_zero_iff (cs : List Char) : byteSize cs = 0 ↔ cs = [] := by
  cases cs with
  | nil => simp [byteSize_nil]
  | cons c cs =>
      have hpos := Char.utf8Size_pos c
      rw [byteSize_cons]
      simp
      omega

theorem toList_extract (bytes : ByteArray) (start stop : Nat) :
    (bytes.extract start stop).toList = (bytes.toList.drop start).take (stop - start) := by
  have hdata (bytes : ByteArray) : bytes.toList = bytes.data.toList := by
    rw [ByteArray.toList, toList_loop]
    rfl
  rw [hdata, hdata, ByteArray.data_extract, Array.toList_extract, List.extract_eq_take_drop]

/-- The bytes between two places of a text are those of the characters in between. -/
theorem decode_extract_toUTF8 (front middle back : List Char) :
    decode ((String.ofList (front ++ (middle ++ back))).toUTF8.extract (byteSize front)
      (byteSize front + byteSize middle)).toList = middle := by
  rw [toList_extract, toList_toUTF8, String.toList_ofList, Nat.add_sub_cancel_left,
    List.flatMap_append, List.flatMap_append]
  unfold byteSize
  rw [List.drop_left, List.take_left, decode, decodeOnto_flatMap]
  rfl

theorem extract_of_le (bytes : ByteArray) {start stop : Nat} (h : stop ≤ start) :
    (bytes.extract start stop).toList = [] := by
  rw [toList_extract, Nat.sub_eq_zero_of_le h, List.take_zero]

end Cyclomatic.Text
