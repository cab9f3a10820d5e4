import Cyclomatic.Text.Lines

/-! # Lines of a text

A text may be cut after any line terminator. If the cut falls between the two characters of one
terminator, the second part starts with an empty line that the whole does not have, so a reader
that ignores empty lines sees no difference. The terminators may also be rewritten to one kind,
which changes no line. -/

namespace Cyclomatic.Text

/-! ## The lines by the first character -/

theorem sourceLinesOnto_terminator {c : Char} (hc : c = '\n' ∨ c = '\r') (rest : List Char)
    (h : ¬ (c = '\r' ∧ rest.head? = some '\n')) (done : List (List Char)) (line : List Char) :
    sourceLinesOnto done line (c :: rest) = sourceLinesOnto (line.reverse :: done) [] rest := by
  rw [sourceLinesOnto, if_pos hc]
  rintro tail rfl rfl
  exact h ⟨rfl, rfl⟩

theorem sourceLinesOnto_other {c : Char} (hc : ¬ (c = '\n' ∨ c = '\r')) (rest : List Char)
    (done : List (List Char)) (line : List Char) :
    sourceLinesOnto done line (c :: rest) = sourceLinesOnto done (c :: line) rest := by
  rw [sourceLinesOnto, if_neg hc]
  rintro tail rfl
  exact absurd (Or.inr rfl) hc

theorem sourceLinesOnto_append (done more : List (List Char)) (line cs : List Char) :
    sourceLinesOnto (done ++ more) line cs = more.reverse ++ sourceLinesOnto done line cs := by
  fun_induction sourceLinesOnto done line cs with
  | case1 done line =>
      simp only [sourceLinesOnto]
      split <;> simp
  | case2 done line rest ih => rw [sourceLinesOnto, ← List.cons_append, ih]
  | case3 done line c rest h hc ih =>
      rw [sourceLinesOnto, if_pos hc, ← List.cons_append, ih]
      exact h
  | case4 done line c rest h hc ih => rw [sourceLinesOnto_other hc, ih]

/-- The finished lines come first, in order. -/
theorem sourceLinesOnto_nil (done : List (List Char)) (cs : List Char) :
    sourceLinesOnto done [] cs = done.reverse ++ sourceLines cs :=
  sourceLinesOnto_append [] done [] cs

/-! ## Cuts -/

variable {β : Type} (read : List Char → Option β)

/-- For a reader that ignores empty lines every terminator ends a line, also one that goes on with
a second character. -/
theorem filterMap_sourceLinesOnto_terminator (hread : read [] = none) {c : Char}
    (hc : c = '\n' ∨ c = '\r') (done : List (List Char)) (line rest : List Char) :
    (sourceLinesOnto done line (c :: rest)).filterMap read =
      (sourceLinesOnto (line.reverse :: done) [] rest).filterMap read := by
  by_cases h : c = '\r' ∧ rest.head? = some '\n'
  · obtain ⟨rfl, hhead⟩ := h
    obtain ⟨tail, rfl⟩ := List.head?_eq_some_iff.mp hhead
    rw [sourceLinesOnto, sourceLinesOnto_terminator (Or.inl rfl) tail (by simp),
      sourceLinesOnto_nil, sourceLinesOnto_nil]
    simp [List.filterMap_cons, hread]
  · rw [sourceLinesOnto_terminator hc rest h]

theorem filterMap_sourceLinesOnto_append (hread : read [] = none) {c : Char}
    (hc : c = '\n' ∨ c = '\r') (done : List (List Char)) (line front back : List Char) :
    (sourceLinesOnto done line (front ++ c :: back)).filterMap read =
      (sourceLinesOnto done line (front ++ [c])).filterMap read ++
        (sourceLines back).filterMap read := by
  induction front generalizing done line with
  | nil =>
      rw [List.nil_append, List.nil_append, filterMap_sourceLinesOnto_terminator read hread hc,
        filterMap_sourceLinesOnto_terminator read hread hc, sourceLinesOnto_nil,
        List.filterMap_append]
      rfl
  | cons d front ih =>
      rw [List.cons_append, List.cons_append]
      by_cases hd : d = '\n' ∨ d = '\r'
      · rw [filterMap_sourceLinesOnto_terminator read hread hd,
          filterMap_sourceLinesOnto_terminator read hread hd, ih]
      · rw [sourceLinesOnto_other hd, sourceLinesOnto_other hd, ih]

/-- A text is empty or ends with a line terminator. -/
def Terminated (cs : List Char) : Prop :=
  cs = [] ∨ cs.getLast? = some '\n' ∨ cs.getLast? = some '\r'

/-- For a reader that ignores empty lines a text may be cut wherever a line has ended. -/
theorem filterMap_sourceLines_append (hread : read [] = none) {front : List Char}
    (hf : Terminated front) (back : List Char) :
    (sourceLines (front ++ back)).filterMap read =
      (sourceLines front).filterMap read ++ (sourceLines back).filterMap read := by
  have hcut {c : Char} (hc : c = '\n' ∨ c = '\r') (hl : front.getLast? = some c) :
      (sourceLines (front ++ back)).filterMap read =
        (sourceLines front).filterMap read ++ (sourceLines back).filterMap read := by
    obtain ⟨init, rfl⟩ := List.getLast?_eq_some_iff.mp hl
    rw [List.append_assoc, List.singleton_append]
    exact filterMap_sourceLinesOnto_append read hread hc [] [] init back
  rcases hf with rfl | hl | hl
  · rfl
  · exact hcut (Or.inl rfl) hl
  · exact hcut (Or.inr rfl) hl

/-! ## One line after the other -/

/-- A text without line terminators. -/
def Unbroken (cs : List Char) : Prop :=
  ∀ c ∈ cs, ¬ (c = '\n' ∨ c = '\r')

instance (cs : List Char) : Decidable (Unbroken cs) :=
  List.decidableBAll (fun c => ¬ (c = '\n' ∨ c = '\r')) cs

theorem unbroken_nil : Unbroken [] := by
  simp [Unbroken]

theorem unbroken_cons {c : Char} {cs : List Char} :
    Unbroken (c :: cs) ↔ ¬ (c = '\n' ∨ c = '\r') ∧ Unbroken cs :=
  List.forall_mem_cons

/-- A text is a line that goes on to the end, or a line, its terminator and a further text. -/
theorem line_induction {motive : List Char → Prop}
    (last : ∀ line, Unbroken line → motive line)
    (next : ∀ line c rest, Unbroken line → c = '\n' ∨ c = '\r' → motive rest →
      motive (line ++ c :: rest))
    (cs : List Char) : motive cs := by
  -- The induction is on what follows the unfinished line `front`.
  have h : ∀ front, Unbroken front → motive (front ++ cs) := by
    induction cs with
    | nil =>
        intro front hf
        rw [List.append_nil]
        exact last front hf
    | cons c cs ih =>
        intro front hf
        by_cases hc : c = '\n' ∨ c = '\r'
        · exact next front c cs hf hc (ih [] unbroken_nil)
        · have hmore : Unbroken (front ++ [c]) := by
            intro d hd
            rcases List.mem_append.mp hd with hd | hd
            · exact hf d hd
            · exact List.mem_singleton.mp hd ▸ hc
          simpa using ih (front ++ [c]) hmore
  exact h [] unbroken_nil

theorem sourceLinesOnto_unbroken {front : List Char} (h : Unbroken front)
    (done : List (List Char)) (line rest : List Char) :
    sourceLinesOnto done line (front ++ rest) =
      sourceLinesOnto done (front.reverse ++ line) rest := by
  induction front generalizing line with
  | nil => rfl
  | cons c front ih =>
      obtain ⟨hc, hfront⟩ := unbroken_cons.mp h
      rw [List.cons_append, sourceLinesOnto_other hc, ih hfront, List.reverse_cons,
        List.append_assoc, List.singleton_append]

/-- A text without terminators is one line, or none if it is empty. -/
theorem sourceLines_last {line : List Char} (h : Unbroken line) :
    sourceLines line = if line.isEmpty then [] else [line] := by
  have hrun := sourceLinesOnto_unbroken h [] [] []
  rw [List.append_nil, List.append_nil] at hrun
  rw [sourceLines, hrun, sourceLinesOnto]
  cases line <;> simp

theorem sourceLines_crlf {line : List Char} (h : Unbroken line) (rest : List Char) :
    sourceLines (line ++ '\r' :: '\n' :: rest) = line :: sourceLines rest := by
  rw [sourceLines, sourceLinesOnto_unbroken h, sourceLinesOnto, sourceLinesOnto_nil]
  simp

/-- A line ends at its terminator, unless this goes on with a line feed. -/
theorem sourceLines_next {line : List Char} (h : Unbroken line) {c : Char}
    (hc : c = '\n' ∨ c = '\r') {rest : List Char}
    (hpair : ¬ (c = '\r' ∧ rest.head? = some '\n')) :
    sourceLines (line ++ c :: rest) = line :: sourceLines rest := by
  rw [sourceLines, sourceLinesOnto_unbroken h, sourceLinesOnto_terminator hc rest hpair,
    sourceLinesOnto_nil]
  simp

theorem filterMap_sourceLines_last (hread : read [] = none) {line : List Char}
    (h : Unbroken line) : (sourceLines line).filterMap read = (read line).toList := by
  rw [sourceLines_last h]
  cases line with
  | nil => simp [hread]
  | cons c cs => cases hr : read (c :: cs) <;> simp [hr]

/-- A reader that ignores empty lines reads the lines one by one. -/
theorem filterMap_sourceLines_next (hread : read [] = none) {line : List Char}
    (h : Unbroken line) {c : Char} (hc : c = '\n' ∨ c = '\r') (rest : List Char) :
    (sourceLines (line ++ c :: rest)).filterMap read =
      (read line).toList ++ (sourceLines rest).filterMap read := by
  rw [sourceLines, sourceLinesOnto_unbroken h, List.append_nil,
    filterMap_sourceLinesOnto_terminator read hread hc, List.reverse_reverse,
    sourceLinesOnto_nil]
  cases hr : read line <;> simp [hr]

/-! ## One kind of line terminator -/

theorem normalizeNewlinesOnto_append (done more cs : List Char) :
    normalizeNewlinesOnto (done ++ more) cs = more.reverse ++ normalizeNewlinesOnto done cs := by
  fun_induction normalizeNewlinesOnto done cs with
  | case1 done => exact List.reverse_append
  | case2 done rest ih => rw [normalizeNewlinesOnto, ← List.cons_append, ih]
  | case3 done c rest h ih =>
      rw [normalizeNewlinesOnto, ← List.cons_append, ih]
      exact h

theorem normalizeNewlinesOnto_nil (done cs : List Char) :
    normalizeNewlinesOnto done cs = done.reverse ++ normalizeNewlines cs :=
  normalizeNewlinesOnto_append [] done cs

theorem normalizeNewlines_crlf (rest : List Char) :
    normalizeNewlines ('\r' :: '\n' :: rest) = '\n' :: normalizeNewlines rest := by
  rw [normalizeNewlines, normalizeNewlinesOnto, normalizeNewlinesOnto_nil]
  rfl

theorem normalizeNewlines_cons {c : Char} {rest : List Char}
    (h : ∀ tail, c = '\r' → rest = '\n' :: tail → False) :
    normalizeNewlines (c :: rest) =
      (if c = '\r' then '\n' else c) :: normalizeNewlines rest := by
  rw [normalizeNewlines, normalizeNewlinesOnto, normalizeNewlinesOnto_nil]
  · rfl
  · exact h

/-- A text with one kind of line terminator has the same lines. -/
theorem sourceLinesOnto_normalizeNewlines (done : List (List Char)) (line cs : List Char) :
    sourceLinesOnto done line (normalizeNewlines cs) = sourceLinesOnto done line cs := by
  have hfeed (rest : List Char) (done : List (List Char)) (line : List Char) :
      sourceLinesOnto done line ('\n' :: rest) = sourceLinesOnto (line.reverse :: done) [] rest :=
    sourceLinesOnto_terminator (Or.inl rfl) rest (by simp) done line
  fun_induction sourceLinesOnto done line cs with
  | case1 done line => rfl
  | case2 done line rest ih => rw [normalizeNewlines_crlf, hfeed, ih]
  | case3 done line c rest h hc ih =>
      have hone : (if c = '\r' then '\n' else c) = '\n' := by
        rcases hc with rfl | rfl <;> rfl
      rw [normalizeNewlines_cons h, hone, hfeed, ih]
  | case4 done line c rest h hc ih =>
      have hr : ¬ c = '\r' := fun he => hc (Or.inr he)
      rw [normalizeNewlines_cons h, if_neg hr, sourceLinesOnto_other hc, ih]

end Cyclomatic.Text
