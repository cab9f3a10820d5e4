import Cyclomatic.Proofs.Java.Alike
import Cyclomatic.Proofs.Java.Lexemes

/-! # Lexemes over several lines

White space, comments and strings take in line terminators. They end in corresponding places of a
text and of the rewritten text, though not always after as many characters. A line comment and a
character end with the line, but only a line feed ends it: here a carriage return makes a difference
unless the line feed is next to it. -/

namespace Cyclomatic.Java

open Text

/-! ## Corresponding ends -/

/-- Reading on in a text of which `done` characters are read, `done'` of the rewritten one, ends
after `n` and `n'` characters, before the same `rest`. -/
def Reached (cs : List Char) (done done' n n' : Nat) (rest : List Char) : Prop :=
  ∃ front, cs = front ++ rest ∧ CleanCut front rest ∧ n = done + front.length ∧
    n' = done' + (normalizeNewlines front).length

theorem Reached.here (cs : List Char) (done done' : Nat) : Reached cs done done' done done' cs :=
  ⟨[], rfl, cleanCut_nil cs, rfl, rfl⟩

theorem Reached.prepend (front : List Char) {cs rest : List Char} {done done' n n' : Nat}
    (hfront : CleanCut front cs)
    (h : Reached cs (done + front.length) (done' + (normalizeNewlines front).length) n n' rest) :
    Reached (front ++ cs) done done' n n' rest := by
  obtain ⟨middle, rfl, hmiddle, rfl, rfl⟩ := h
  refine ⟨front ++ middle, (List.append_assoc _ _ _).symm, hfront.append hmiddle, ?_, ?_⟩
  · rw [List.length_append, Nat.add_assoc]
  · rw [normalizeNewlines_append hfront.of_append, List.length_append, Nat.add_assoc]

theorem Reached.cons {c : Char} {cs rest : List Char} {done done' n n' : Nat}
    (hc : CleanCut [c] cs) (h : Reached cs (done + 1) (done' + 1) n n' rest) :
    Reached (c :: cs) done done' n n' rest := by
  have hone : (normalizeNewlines [c]).length = 1 := by
    rw [normalizeNewlines_cons_of_cleanCut (cleanCut_of_head? (by simp))]
    rfl
  refine Reached.prepend [c] hc ?_
  rwa [hone]

theorem Reached.crlf {cs rest : List Char} {done done' n n' : Nat}
    (h : Reached cs (done + 2) (done' + 1) n n' rest) :
    Reached ('\r' :: '\n' :: cs) done done' n n' rest :=
  Reached.prepend ['\r', '\n'] (cleanCut_of_getLast? (by decide)) h

theorem head?_normalizeNewlines_iff {c : Char} (hc : ¬ (c = '\n' ∨ c = '\r')) (cs : List Char) :
    (normalizeNewlines cs).head? = some c ↔ cs.head? = some c := by
  have hn : ('\n' == c) = false := by
    rw [beq_eq_false_iff_ne]
    exact fun h => hc (Or.inl h.symm)
  have hr : ('\r' == c) = false := by
    rw [beq_eq_false_iff_ne]
    exact fun h => hc (Or.inr h.symm)
  have hany := any_head?_normalizeNewlines (p := (· == c)) (hr.trans hn.symm) cs
  rw [← head?_beq_some, ← head?_beq_some] at hany
  rw [← beq_iff_eq, hany, beq_iff_eq]

theorem Agrees.reached {cs : List Char} {n m : Nat} (h : Agrees cs n m) :
    Reached cs 0 0 n m (cs.drop n) := by
  obtain ⟨rfl, line, rest, rfl, rfl, hline⟩ := h
  rw [List.drop_left]
  refine ⟨line, rfl, cleanCut_of_unbroken hline rest, (Nat.zero_add _).symm, ?_⟩
  rw [normalizeNewlines_eq_self hline, Nat.zero_add]

theorem Reached.after {cs rest : List Char} {opening n n' : Nat} (hopening : Clear opening cs)
    (h : Reached (cs.drop opening) 0 0 n n' rest) :
    Reached cs 0 0 (opening + n) (opening + n') rest := by
  obtain ⟨line, tail, rfl, rfl, hline⟩ := hopening
  rw [List.drop_left] at h
  obtain ⟨front, rfl, hcut, rfl, rfl⟩ := h
  refine Reached.prepend line (cleanCut_of_unbroken hline _) ⟨front, rfl, hcut, ?_, ?_⟩
  · omega
  · rw [normalizeNewlines_eq_self hline]
    omega

theorem Reached.eq_zero_iff {cs rest : List Char} {n n' : Nat} (h : Reached cs 0 0 n n' rest) :
    n = 0 ↔ n' = 0 := by
  obtain ⟨front, -, -, rfl, rfl⟩ := h
  rw [Nat.zero_add, Nat.zero_add, List.length_eq_zero_iff, List.length_eq_zero_iff,
    normalizeNewlines_eq_nil_iff]

/-- What is left is shorter in both texts. -/
theorem Reached.shorter {cs rest : List Char} {n n' : Nat} (h : Reached cs 0 0 n n' rest)
    (hn : 0 < n) :
    rest.length < cs.length ∧ (normalizeNewlines rest).length < (normalizeNewlines cs).length := by
  obtain ⟨front, rfl, hcut, rfl, -⟩ := h
  have hfront : front ≠ [] := by
    rintro rfl
    simp at hn
  have hrewritten : normalizeNewlines front ≠ [] :=
    fun h => hfront ((normalizeNewlines_eq_nil_iff front).mp h)
  have hpos := List.length_pos_iff.mpr hfront
  have hpos' := List.length_pos_iff.mpr hrewritten
  rw [normalizeNewlines_append hcut, List.length_append, List.length_append]
  omega

theorem Reached.rel {α β : Type} {R : α → β → Prop} {cs : List Char} {n n' : Nat}
    (h : n = 0 ∧ n' = 0 ∨ ∃ rest, Reached cs 0 0 n n' rest) {f : Nat → α} {g : Nat → β}
    (hfg : ∀ rest, Reached cs 0 0 n n' rest → 0 < n → R (f n) (g n')) :
    Option.Rel R (if n = 0 then none else some (f n)) (if n' = 0 then none else some (g n')) := by
  rcases h with ⟨rfl, rfl⟩ | ⟨rest, hr⟩
  · exact .none
  · by_cases hn : n = 0
    · rw [if_pos hn, if_pos (hr.eq_zero_iff.mp hn)]
      exact .none
    · rw [if_neg hn, if_neg fun hn' => hn (hr.eq_zero_iff.mpr hn')]
      exact .some (hfg rest hr (Nat.pos_of_ne_zero hn))

/-! ## White space -/

theorem reached_run_isSpace (cs : List Char) :
    Reached cs 0 0 (run isSpace cs) (run isSpace (normalizeNewlines cs))
      (cs.dropWhile isSpace) := by
  rw [run_eq_length_takeWhile, run_eq_length_takeWhile, takeWhile_normalizeNewlines (by decide)]
  refine ⟨cs.takeWhile isSpace, List.takeWhile_append_dropWhile.symm, cleanCut_of_head? ?_,
    (Nat.zero_add _).symm, (Nat.zero_add _).symm⟩
  intro hhead
  have hnot := List.head?_dropWhile_not isSpace cs
  rw [hhead] at hnot
  cases hnot

/-! ## Block comments -/

theorem blockCommentTail_cons {c : Char} {rest : List Char}
    (h : ¬ (c = '*' ∧ rest.head? = some '/')) (done : Nat) :
    blockCommentTail done (c :: rest) = blockCommentTail (done + 1) rest := by
  rw [blockCommentTail]
  rintro tail rfl rfl
  exact h ⟨rfl, rfl⟩

/-- A block comment is never closed in either text, or closed in corresponding places. -/
theorem blockCommentTail_reached (cs : List Char) (done done' : Nat) :
    (blockCommentTail done cs = 0 ∧ blockCommentTail done' (normalizeNewlines cs) = 0) ∨
      ∃ rest, Reached cs done done' (blockCommentTail done cs)
        (blockCommentTail done' (normalizeNewlines cs)) rest := by
  induction cs using newline_induction generalizing done done' with
  | nil => exact Or.inl ⟨rfl, rfl⟩
  | crlf cs ih =>
      rw [normalizeNewlines_crlf, blockCommentTail_cons (by simp), blockCommentTail_cons (by simp),
        blockCommentTail_cons (by simp)]
      exact (ih (done + 2) (done' + 1)).imp_right fun ⟨rest, hrest⟩ => ⟨rest, hrest.crlf⟩
  | cons c cs hc ih =>
      by_cases hclose : c = '*' ∧ cs.head? = some '/'
      · obtain ⟨rfl, hhead⟩ := hclose
        obtain ⟨rest, rfl⟩ := List.head?_eq_some_iff.mp hhead
        rw [normalizeNewlines_cons_of_ne (by decide), normalizeNewlines_cons_of_ne (by decide)]
        exact Or.inr ⟨rest, ['*', '/'], rfl, cleanCut_of_getLast? (by decide), rfl, rfl⟩
      · have hrewritten : ¬ ((if c = '\r' then '\n' else c) = '*' ∧
            (normalizeNewlines cs).head? = some '/') := by
          rw [head?_normalizeNewlines_iff (by decide)]
          rintro ⟨hstar, hhead⟩
          refine hclose ⟨?_, hhead⟩
          split at hstar
          · cases hstar
          · exact hstar
        rw [normalizeNewlines_cons_of_cleanCut hc, blockCommentTail_cons hclose,
          blockCommentTail_cons hrewritten]
        exact (ih (done + 1) (done' + 1)).imp_right fun ⟨rest, hrest⟩ => ⟨rest, hrest.cons hc⟩

/-! ## Line comments -/

/-- Every carriage return in a line is followed by the line feed that ends it. -/
def returnsEndLine : List Char → Bool
  | [] => true
  | '\n' :: _ => true
  | '\r' :: rest => rest.head? == some '\n'
  | _ :: rest => returnsEndLine rest

theorem lineComment_cases {cs : List Char} (h : returnsEndLine cs = true) :
    (∃ line rest, cs = line ++ rest ∧ Unbroken line ∧ (∀ c ∈ rest.head?, c = '\n')) ∨
      ∃ line rest, cs = line ++ '\r' :: '\n' :: rest ∧ Unbroken line := by
  fun_induction returnsEndLine cs with
  | case1 => exact Or.inl ⟨[], [], rfl, unbroken_nil, by simp⟩
  | case2 rest => exact Or.inl ⟨[], _, rfl, unbroken_nil, by simp⟩
  | case3 rest =>
      obtain ⟨more, rfl⟩ := List.head?_eq_some_iff.mp (beq_iff_eq.mp h)
      exact Or.inr ⟨[], more, rfl, unbroken_nil⟩
  | case4 c rest hn hr ih =>
      have hc : ¬ (c = '\n' ∨ c = '\r') := by
        rintro (rfl | rfl)
        · exact hn rfl
        · exact hr rfl
      rcases ih h with ⟨line, tail, rfl, hline, hstop⟩ | ⟨line, tail, rfl, hline⟩
      · exact Or.inl ⟨c :: line, tail, rfl, unbroken_cons.mpr ⟨hc, hline⟩, hstop⟩
      · exact Or.inr ⟨c :: line, tail, rfl, unbroken_cons.mpr ⟨hc, hline⟩⟩

/-- The rest of a line up to the line feed that ends it. -/
theorem run_agrees {line rest : List Char} (hline : Unbroken line)
    (hstop : ∀ c ∈ rest.head?, c = '\n') :
    Agrees (line ++ rest) (run (· != '\n') (line ++ rest))
      (run (· != '\n') (normalizeNewlines (line ++ rest))) := by
  have hpass : ∀ c ∈ line, (c != '\n') = true :=
    fun c hc => bne_iff_ne.mpr fun hn => hline c hc (Or.inl hn)
  have hstop' : ∀ c ∈ (normalizeNewlines rest).head?, c = '\n' := by
    cases rest with
    | nil => exact hstop
    | cons c rest =>
        obtain rfl : c = '\n' := hstop c rfl
        rw [normalizeNewlines_cons_of_ne (by decide)]
        exact hstop
  have hlength {tail : List Char} (htail : ∀ c ∈ tail.head?, c = '\n') :
      run (· != '\n') (line ++ tail) = line.length :=
    run_append hpass fun c hc => bne_eq_false_iff_eq.mpr (htail c hc)
  rw [normalizeNewlines_unbroken hline, hlength hstop, hlength hstop']
  exact ⟨rfl, line, rest, rfl, rfl, hline⟩

/-- The rest of a line with a carriage return at its end. -/
theorem run_return {line : List Char} (hline : Unbroken line) (rest : List Char) :
    run (· != '\n') (line ++ '\r' :: '\n' :: rest) = line.length + 1 ∧
      run (· != '\n') (normalizeNewlines (line ++ '\r' :: '\n' :: rest)) = line.length := by
  have hpass : ∀ c ∈ line, (c != '\n') = true :=
    fun c hc => bne_iff_ne.mpr fun hn => hline c hc (Or.inl hn)
  have hreturn : ∀ c ∈ line ++ ['\r'], (c != '\n') = true := by
    intro c hc
    rcases List.mem_append.mp hc with hc | hc
    · exact hpass c hc
    · rw [List.mem_singleton.mp hc]
      rfl
  constructor
  · rw [List.append_cons, run_append hreturn (by simp), List.length_append]
    rfl
  · rw [normalizeNewlines_unbroken hline, normalizeNewlines_crlf, run_append hpass (by simp)]

/-! ## Characters -/

/-- No carriage return counts as a character between quotes unless it is escaped, and none that is
escaped has its line feed next to it. -/
def returnsOutsideQuotes : List Char → Bool
  | [] => true
  | '\'' :: _ => true
  | '\n' :: _ => true
  | '\r' :: rest => rest.head? == some '\n'
  | '\\' :: '\r' :: rest => rest.head? != some '\n' && returnsOutsideQuotes rest
  | '\\' :: _ :: rest => returnsOutsideQuotes rest
  | _ :: rest => returnsOutsideQuotes rest

theorem characterTail_plain {c : Char} (hq : c ≠ '\'') (hn : c ≠ '\n') (hb : c ≠ '\\') (done : Nat)
    (rest : List Char) : characterTail done (c :: rest) = characterTail (done + 1) rest := by
  rw [characterTail] <;> simp [hq, hn, hb]

/-- A character is not closed in either text, or closed in corresponding places. -/
theorem characterTail_reached {cs : List Char} (h : returnsOutsideQuotes cs = true)
    (done done' : Nat) (hdone : done = 0 ↔ done' = 0) :
    (characterTail done cs = 0 ∧ characterTail done' (normalizeNewlines cs) = 0) ∨
      ∃ rest, Reached cs done done' (characterTail done cs)
        (characterTail done' (normalizeNewlines cs)) rest := by
  fun_induction returnsOutsideQuotes cs generalizing done done' with
  | case1 => exact Or.inl ⟨rfl, rfl⟩
  | case2 rest =>
      rw [normalizeNewlines_cons_of_ne (by decide), characterTail, characterTail]
      by_cases hzero : done = 0
      · rw [hzero, hdone.mp hzero]
        exact Or.inl ⟨rfl, rfl⟩
      · have hzero' : done' ≠ 0 := fun h => hzero (hdone.mpr h)
        rw [if_neg (by simpa using hzero), if_neg (by simpa using hzero')]
        exact Or.inr ⟨rest, ['\''], rfl, cleanCut_of_getLast? (by decide), rfl, rfl⟩
  | case3 rest =>
      rw [normalizeNewlines_cons_of_ne (by decide)]
      exact Or.inl ⟨rfl, rfl⟩
  | case4 rest =>
      obtain ⟨more, rfl⟩ := List.head?_eq_some_iff.mp (beq_iff_eq.mp h)
      rw [normalizeNewlines_crlf]
      exact Or.inl ⟨rfl, rfl⟩
  | case5 rest ih =>
      obtain ⟨hhead, hrest⟩ := Bool.and_eq_true_iff.mp h
      have hcut : CleanCut ['\r'] rest := cleanCut_of_head? (by simpa using hhead)
      rw [normalizeNewlines_cons_of_ne (by decide), normalizeNewlines_cons_of_cleanCut hcut]
      refine (ih hrest (done + 2) (done' + 2) (by simp)).imp_right ?_
      rintro ⟨tail, htail⟩
      exact ⟨tail, htail.prepend ['\\', '\r'] hcut⟩
  | case6 c rest hr ih =>
      rw [normalizeNewlines_cons_of_ne (by decide), normalizeNewlines_cons_of_ne hr]
      refine (ih h (done + 2) (done' + 2) (by simp)).imp_right ?_
      rintro ⟨tail, htail⟩
      refine ⟨tail, Reached.prepend ['\\', c] (cleanCut_of_getLast? (by simpa using hr)) ?_⟩
      rwa [normalizeNewlines_cons_of_ne (by decide), normalizeNewlines_cons_of_ne hr]
  | case7 c rest hq hn hr _ hb ih =>
      rw [normalizeNewlines_cons_of_ne hr]
      by_cases hlast : c = '\\'
      · cases rest with
        | nil =>
            subst hlast
            exact Or.inl ⟨rfl, rfl⟩
        | cons d rest => exact absurd rfl (hb d rest hlast)
      · rw [characterTail_plain hq hn hlast, characterTail_plain hq hn hlast]
        refine (ih h (done + 1) (done' + 1) (by simp)).imp_right ?_
        rintro ⟨tail, htail⟩
        exact ⟨tail, htail.cons (cleanCut_of_ne hr rest)⟩

theorem characterLength_eq (rest : List Char) :
    characterLength ('\'' :: rest) =
      if characterTail 0 rest = 0 then 0 else 1 + characterTail 0 rest := by
  rw [characterLength]
  cases characterTail 0 rest with
  | zero => rfl
  | succ n => exact Nat.add_comm _ _

theorem characterLength_reached {rest : List Char} (h : returnsOutsideQuotes rest = true) :
    characterLength ('\'' :: rest) = 0 ∧ characterLength ('\'' :: normalizeNewlines rest) = 0 ∨
      ∃ tail, Reached ('\'' :: rest) 0 0 (characterLength ('\'' :: rest))
        (characterLength ('\'' :: normalizeNewlines rest)) tail := by
  have hopening : Clear 1 ('\'' :: rest) := ⟨['\''], rest, rfl, rfl, by decide⟩
  rw [characterLength_eq, characterLength_eq]
  rcases characterTail_reached h 0 0 Iff.rfl with ⟨hzero, hzero'⟩ | ⟨tail, hr⟩
  · rw [if_pos hzero, if_pos hzero']
    exact Or.inl ⟨rfl, rfl⟩
  · by_cases hzero : characterTail 0 rest = 0
    · rw [if_pos hzero, if_pos (hr.eq_zero_iff.mp hzero)]
      exact Or.inl ⟨rfl, rfl⟩
    · rw [if_neg hzero, if_neg fun hzero' => hzero (hr.eq_zero_iff.mpr hzero')]
      exact Or.inr ⟨tail, hr.after hopening⟩

/-! ## Strings -/

theorem Clear.mono {n m : Nat} {cs : List Char} (h : Clear m cs) (hnm : n ≤ m) : Clear n cs := by
  obtain ⟨line, rest, rfl, rfl, hline⟩ := h
  refine ⟨line.take n, line.drop n ++ rest, ?_, List.length_take_of_le hnm, ?_⟩
  · rw [← List.append_assoc, List.take_append_drop]
  · exact fun c hc => hline c (List.mem_of_mem_take hc)

theorem Agrees.mono {cs : List Char} {n m k : Nat} (h : Agrees cs n m) (hk : k ≤ n) :
    Agrees cs k k :=
  ⟨rfl, h.2.mono hk⟩

theorem escapeLength_agrees (isBlock : Bool) {c : Char} (hc : ¬ (c = '\n' ∨ c = '\r'))
    (rest : List Char) :
    Agrees (c :: rest) (escapeLength isBlock (c :: rest))
      (escapeLength isBlock (c :: normalizeNewlines rest)) := by
  have hhex : OnOneLine (run isHexDigit) := onOneLine_run (by decide) (by decide)
  unfold escapeLength
  refine .ite rfl (fun _ => ?_) fun _ => .ite rfl (fun _ => ?_) fun _ => .ite rfl (fun _ => ?_)
    fun _ => (Agrees.zero rest).cons hc
  · have hoctal := onOneLine_run (p := fun d => '0' ≤ d && d ≤ '7') (by decide) (by decide) rest
    rw [hoctal.1]
    exact (hoctal.mono (Nat.min_le_right 2 _)).cons hc
  · have hdigits := hhex rest
    rw [hdigits.1]
    by_cases hfew : run isHexDigit rest < 2
    · rw [if_pos hfew]
      exact .zero _
    · rw [if_neg hfew]
      exact (hdigits.mono (Nat.not_lt.mp hfew)).cons hc
  · rw [head?_beq_some, head?_beq_some]
    refine .ite (any_head?_normalizeNewlines (by decide) rest) (fun hbrace => ?_)
      fun _ => ?_
    · have hone : Agrees rest 1 1 :=
        ⟨rfl, clear_one (p := (· == '{')) (by decide) (by decide) hbrace⟩
      have hdigits := hhex (rest.drop 1)
      rw [hone.drop, hdigits.1]
      cases hread : run isHexDigit (rest.drop 1) with
      | zero => exact .zero _
      | succ k =>
          rw [hread] at hdigits
          have hboth : Agrees rest (1 + (k + 1)) (1 + (k + 1)) := hone.add ⟨rfl, hdigits.2⟩
          have hstart : k + 1 + 1 = 1 + (k + 1) := Nat.add_comm _ _
          have hlength : k + 1 + 3 = 1 + (1 + (k + 1) + 1) := by omega
          simp only [hstart, hlength, hboth.drop]
          rw [head?_beq_some, head?_beq_some]
          refine .ite (any_head?_normalizeNewlines (by decide) _) (fun hclose => ?_)
            fun _ => .zero _
          have hend := clear_one (p := (· == '}')) (by decide) (by decide) hclose
          exact (hboth.add ⟨rfl, hend⟩).cons hc
    · have hdigits := hhex rest
      rw [hdigits.1]
      by_cases hfew : run isHexDigit rest < 4
      · rw [if_pos hfew]
        exact .zero _
      · rw [if_neg hfew]
        exact (hdigits.mono (Nat.not_lt.mp hfew)).cons hc

theorem stringPart_escape (isBlock : Bool) (done : Nat) (b : Char) (bound rest : List Char) :
    stringPart isBlock done (b :: bound) ('\\' :: rest) =
      if rest.head? == some '{' then some (done, .hole)
      else if escapeLength isBlock rest = 0 then none
      else stringPart isBlock (done + 1 + escapeLength isBlock rest) bound
        (rest.drop (escapeLength isBlock rest)) := by
  rw [stringPart]
  cases hlength : escapeLength isBlock rest with
  | zero => simp [hlength]
  | succ n => simp [hlength]

theorem stringPart_quote (isBlock : Bool) (done : Nat) (b : Char) (bound rest : List Char) :
    stringPart isBlock done (b :: bound) ('"' :: rest) =
      if !isBlock || ['"', '"'].isPrefixOf rest then some (done, .closed)
      else stringPart isBlock (done + 1) bound rest := by
  rw [stringPart]
  dsimp only
  cases isBlock with
  | false => rfl
  | true =>
      simp only [Bool.not_true, Bool.false_eq_true, if_false, Bool.false_or]
      split
      · rfl
      · next hother =>
          rw [if_neg]
          intro hstarts
          obtain ⟨tail, rfl⟩ := List.isPrefixOf_iff_prefix.mp hstarts
          exact hother tail rfl

theorem stringPart_plain (isBlock : Bool) (done : Nat) (b : Char) (bound : List Char) {c : Char}
    (hb : c ≠ '\\') (hq : c ≠ '"') (rest : List Char) :
    stringPart isBlock done (b :: bound) (c :: rest) =
      stringPart isBlock (done + 1) bound rest := by
  rw [stringPart]
  split <;> simp_all

/-- As many steps as there are characters suffice. -/
theorem stringPart_of_length_le (isBlock : Bool) {bound more cs : List Char}
    (hb : cs.length ≤ bound.length) (hm : cs.length ≤ more.length) (done : Nat) :
    stringPart isBlock done bound cs = stringPart isBlock done more cs := by
  have hnil (bound : List Char) (done : Nat) : stringPart isBlock done bound [] = none := by
    cases bound <;> rfl
  induction bound generalizing more cs done with
  | nil =>
      obtain rfl := List.length_eq_zero_iff.mp (Nat.le_zero.mp hb)
      rw [hnil, hnil]
  | cons b bound ih =>
      match more, cs with
      | _, [] => rw [hnil, hnil]
      | [], _ :: _ => cases hm
      | d :: more, c :: rest =>
          have hrest (n done : Nat) :
              stringPart isBlock done bound (rest.drop n) =
                stringPart isBlock done more (rest.drop n) := by
            apply ih <;> simp only [List.length_drop, List.length_cons] at hb hm ⊢ <;> omega
          by_cases hescape : c = '\\'
          · rw [hescape, stringPart_escape, stringPart_escape, hrest]
          · by_cases hquote : c = '"'
            · rw [hquote, stringPart_quote, stringPart_quote]
              exact congrArg (ite _ _) (hrest 0 (done + 1))
            · rw [stringPart_plain _ _ _ _ hescape hquote, stringPart_plain _ _ _ _ hescape hquote]
              exact hrest 0 (done + 1)

/-- Reads a string from the inside, after `done` characters. -/
def stringFrom (isBlock : Bool) (done : Nat) (cs : List Char) : Option (Nat × StringEnding) :=
  stringPart isBlock done cs cs

theorem stringFrom_escape (isBlock : Bool) (done : Nat) (rest : List Char) :
    stringFrom isBlock done ('\\' :: rest) =
      if rest.head? == some '{' then some (done, .hole)
      else if escapeLength isBlock rest = 0 then none
      else stringFrom isBlock (done + 1 + escapeLength isBlock rest)
        (rest.drop (escapeLength isBlock rest)) := by
  rw [stringFrom, stringPart_escape, stringFrom,
    stringPart_of_length_le isBlock (by simp) (Nat.le_refl _)]

theorem stringFrom_quote (isBlock : Bool) (done : Nat) (rest : List Char) :
    stringFrom isBlock done ('"' :: rest) =
      if !isBlock || ['"', '"'].isPrefixOf rest then some (done, .closed)
      else stringFrom isBlock (done + 1) rest :=
  stringPart_quote isBlock done '"' rest rest

theorem stringFrom_plain (isBlock : Bool) (done : Nat) {c : Char} (hb : c ≠ '\\') (hq : c ≠ '"')
    (rest : List Char) :
    stringFrom isBlock done (c :: rest) = stringFrom isBlock (done + 1) rest :=
  stringPart_plain isBlock done c rest hb hq rest

/-- The number of characters that end a part of a string. -/
def StringEnding.length (isBlock : Bool) : StringEnding → Nat
  | .closed => if isBlock then 3 else 1
  | .hole => 2

theorem StringEnding.length_pos (isBlock : Bool) (ending : StringEnding) :
    0 < ending.length isBlock := by
  cases ending <;> cases isBlock <;> decide

/-- Two parts of strings with the same ending, which starts in corresponding places. -/
def SamePart (isBlock : Bool) (cs : List Char) (done done' : Nat)
    (part partner : Nat × StringEnding) : Prop :=
  part.2 = partner.2 ∧ ∃ rest, Clear (part.2.length isBlock) rest ∧
    Reached cs done done' part.1 partner.1 rest

theorem SamePart.prepend {isBlock : Bool} (front : List Char) {cs : List Char} {done done' : Nat}
    (hfront : CleanCut front cs) {part partner : Option (Nat × StringEnding)}
    (h : Option.Rel (SamePart isBlock cs (done + front.length)
      (done' + (normalizeNewlines front).length)) part partner) :
    Option.Rel (SamePart isBlock (front ++ cs) done done') part partner := by
  cases h with
  | none => exact .none
  | some hpart =>
      obtain ⟨hending, rest, hclear, hreached⟩ := hpart
      exact .some ⟨hending, rest, hclear, hreached.prepend front hfront⟩

theorem SamePart.cons {isBlock : Bool} {c : Char} {cs : List Char} {done done' : Nat}
    (hc : CleanCut [c] cs) {part partner : Option (Nat × StringEnding)}
    (h : Option.Rel (SamePart isBlock cs (done + 1) (done' + 1)) part partner) :
    Option.Rel (SamePart isBlock (c :: cs) done done') part partner := by
  cases h with
  | none => exact .none
  | some hpart =>
      obtain ⟨hending, rest, hclear, hreached⟩ := hpart
      exact .some ⟨hending, rest, hclear, hreached.cons hc⟩

/-- Strings that start further on are read alike. -/
def ReadAlike (isBlock : Bool) (cs : List Char) : Prop :=
  ∀ done done', Option.Rel (SamePart isBlock cs done done') (stringFrom isBlock done cs)
    (stringFrom isBlock done' (normalizeNewlines cs))

theorem escapeLength_terminator (isBlock : Bool) {c : Char} (hc : c = '\n' ∨ c = '\r')
    (rest : List Char) : escapeLength isBlock (c :: rest) = 1 := by
  rcases hc with rfl | rfl <;> rfl

/-- An escaped line terminator is passed over, be it of one or of two characters. -/
theorem stringFrom_terminator {isBlock : Bool} {c : Char} (hc : c = '\n' ∨ c = '\r')
    {rest : List Char} (done : Nat) :
    stringFrom isBlock done ('\\' :: c :: rest) = stringFrom isBlock (done + 2) rest := by
  have hbrace : ((c :: rest).head? == some '{') = false := by
    rcases hc with rfl | rfl <;> rfl
  rw [stringFrom_escape, hbrace, escapeLength_terminator isBlock hc]
  rfl

theorem escape_rel_plain {isBlock : Bool} {c : Char} (hc : ¬ (c = '\n' ∨ c = '\r'))
    {rest : List Char}
    (ih : ∀ tail, tail.length < (c :: rest).length → ReadAlike isBlock tail) (done done' : Nat) :
    Option.Rel (SamePart isBlock ('\\' :: c :: rest) done done')
      (stringFrom isBlock done ('\\' :: c :: rest))
      (stringFrom isBlock done' ('\\' :: c :: normalizeNewlines rest)) := by
  have hescape := escapeLength_agrees isBlock hc rest
  rw [stringFrom_escape, stringFrom_escape, List.head?_cons, List.head?_cons, hescape.1]
  by_cases hbrace : c = '{'
  · subst hbrace
    refine .some ⟨rfl, '\\' :: '{' :: rest, ?_, .here _ _ _⟩
    exact ⟨['\\', '{'], rest, rfl, rfl, by decide⟩
  · have hhead : (some c == some '{') = false := by simpa using hbrace
    rw [hhead]
    by_cases hzero : escapeLength isBlock (c :: rest) = 0
    · rw [hzero]
      exact .none
    · obtain ⟨line, tail, hline, hlength, hunbroken⟩ := hescape.2
      simp only [Bool.false_eq_true, if_false, if_neg hzero]
      rw [← normalizeNewlines_cons_of_ne fun hr => hc (Or.inr hr), ← hlength, hline,
        normalizeNewlines_unbroken hunbroken, List.drop_left, List.drop_left]
      have hshorter : tail.length < (c :: rest).length := by
        rw [hline, List.length_append]
        omega
      have hfront : Unbroken ('\\' :: line) := unbroken_cons.mpr ⟨by decide, hunbroken⟩
      refine SamePart.prepend ('\\' :: line) (cleanCut_of_unbroken hfront tail) ?_
      rw [normalizeNewlines_eq_self hfront, List.length_cons, Nat.add_comm line.length 1,
        ← Nat.add_assoc, ← Nat.add_assoc]
      exact ih tail hshorter _ _

theorem escape_rel (isBlock : Bool) (cs : List Char)
    (ih : ∀ tail, tail.length < cs.length → ReadAlike isBlock tail) (done done' : Nat) :
    Option.Rel (SamePart isBlock ('\\' :: cs) done done')
      (stringFrom isBlock done ('\\' :: cs))
      (stringFrom isBlock done' ('\\' :: normalizeNewlines cs)) := by
  cases cs using newline_induction with
  | nil => exact .none
  | crlf rest _ =>
      rw [normalizeNewlines_crlf, stringFrom_terminator (Or.inr rfl),
        stringFrom_terminator (Or.inl rfl), stringFrom_plain _ _ (by decide) (by decide)]
      refine SamePart.prepend ['\\', '\r', '\n'] (cleanCut_of_getLast? (by decide)) ?_
      exact ih rest (by simp only [List.length_cons]; omega) (done + 3) (done' + 2)
  | cons c rest hc _ =>
      rw [normalizeNewlines_cons_of_cleanCut hc]
      by_cases hnewline : c = '\n' ∨ c = '\r'
      · have hfeed : (if c = '\r' then '\n' else c) = '\n' := by
          rcases hnewline with rfl | rfl <;> rfl
        rw [hfeed, stringFrom_terminator hnewline, stringFrom_terminator (Or.inl rfl)]
        refine SamePart.cons (cleanCut_of_ne (by decide) _) (SamePart.cons hc ?_)
        exact ih rest (by simp) (done + 2) (done' + 2)
      · have hsame : (if c = '\r' then '\n' else c) = c := if_neg fun hr => hnewline (Or.inr hr)
        rw [hsame]
        exact escape_rel_plain hnewline ih done done'

theorem quote_rel (isBlock : Bool) {cs : List Char} (ih : ReadAlike isBlock cs)
    (done done' : Nat) :
    Option.Rel (SamePart isBlock ('"' :: cs) done done') (stringFrom isBlock done ('"' :: cs))
      (stringFrom isBlock done' ('"' :: normalizeNewlines cs)) := by
  rw [stringFrom_quote, stringFrom_quote, isPrefixOf_normalizeNewlines (by decide)]
  by_cases hclosed : (!isBlock || ['"', '"'].isPrefixOf cs) = true
  · rw [if_pos hclosed, if_pos hclosed]
    refine .some ⟨rfl, '"' :: cs, ?_, .here _ _ _⟩
    cases isBlock with
    | false => exact ⟨['"'], cs, rfl, rfl, by decide⟩
    | true =>
        obtain ⟨tail, rfl⟩ := List.isPrefixOf_iff_prefix.mp hclosed
        exact ⟨['"', '"', '"'], tail, rfl, rfl, by decide⟩
  · rw [if_neg hclosed, if_neg hclosed]
    exact SamePart.cons (cleanCut_of_ne (by decide) cs) (ih (done + 1) (done' + 1))

/-- A string is not closed in either text, or each of its parts ends in corresponding places. -/
theorem readAlike (isBlock : Bool) (cs : List Char) : ReadAlike isBlock cs := by
  induction hlength : cs.length using Nat.strongRecOn generalizing cs with
  | ind length ih =>
      subst hlength
      intro done done'
      cases cs using newline_induction with
      | nil => exact .none
      | crlf cs _ =>
          rw [normalizeNewlines_crlf, stringFrom_plain _ _ (by decide) (by decide),
            stringFrom_plain _ _ (by decide) (by decide),
            stringFrom_plain _ _ (by decide) (by decide)]
          refine SamePart.prepend ['\r', '\n'] (cleanCut_of_getLast? (by decide)) ?_
          exact ih cs.length (by simp only [List.length_cons]; omega) cs rfl (done + 2) (done' + 1)
      | cons c cs hc _ =>
          have hrest := ih cs.length (by simp) cs rfl
          rw [normalizeNewlines_cons_of_cleanCut hc]
          by_cases hescape : c = '\\'
          · subst hescape
            refine escape_rel isBlock cs (fun tail htail => ?_) done done'
            exact ih tail.length (by simp only [List.length_cons]; omega) tail rfl
          · by_cases hquote : c = '"'
            · subst hquote
              exact quote_rel isBlock hrest done done'
            · have hother (d : Char) (hd : d = '\\' ∨ d = '"') :
                  (if c = '\r' then '\n' else c) ≠ d := by
                split
                · rcases hd with rfl | rfl <;> decide
                · rcases hd with rfl | rfl <;> assumption
              rw [stringFrom_plain _ _ hescape hquote,
                stringFrom_plain _ _ (hother _ (Or.inl rfl)) (hother _ (Or.inr rfl))]
              exact SamePart.cons hc (hrest (done + 1) (done' + 1))

end Cyclomatic.Java
