import Cyclomatic.Assembly.Scan
import Cyclomatic.Proofs.Text.Blank
import Mathlib

/-! # What the patterns say about a line

A marker of the 6502 dialect starts with a character, or holds one in its first word, that no
opcode of the dialect has there, so it is never a decision. A label ends at a colon, where a
directive has a blank. -/

namespace Cyclomatic.Assembly

open Text

/-! ## Letters and case variants -/

/-- A case variant of a character is blank only if the character is. -/
theorem isBlank_foldChar (c : Char) : isBlank (foldChar c) = isBlank c := by
  unfold foldChar
  split
  · rename_i h
    rw [eq_of_beq h]
    decide
  split
  · rename_i h
    rw [eq_of_beq h]
    decide
  split
  · rename_i h
    simp only [Bool.or_eq_true, beq_iff_eq] at h
    rcases h with rfl | rfl <;> decide
  by_cases ha : c.isAlpha = true
  · have hl : c.toLower.isAlpha = true := by simpa using ha
    rw [isBlank_of_isAlpha ha, isBlank_of_isAlpha hl]
  · have hu : ¬ c.isUpper = true := fun h => ha (by simp [Char.isAlpha, h])
    rw [Char.toLower_eq_of_not_isUpper hu]

/-- The upper case form of a character is that of the ASCII character it is a case variant of. The
exceptions are a dotted capital and the kelvin sign. -/
theorem upperChar_of_foldChar {c k : Char} (h : foldChar c = k) (hk : k.toNat < 128)
    (hdot : k ≠ 'i') (hkelvin : k ≠ 'k') : upperChar c = [k.toUpper] := by
  unfold foldChar at h
  split at h
  · rename_i hc
    rw [eq_of_beq hc, ← h]
    decide
  split at h
  · exact absurd h.symm hkelvin
  split at h
  · exact absurd h.symm hdot
  have hc : c.toNat < 128 := by
    by_cases hu : c.isUpper = true
    · have ha : c.isAlpha = true := by simp [Char.isAlpha, hu]
      have hb := toNat_bounds_of_isAlpha ha
      omega
    · rw [Char.toLower_eq_of_not_isUpper hu] at h
      rwa [h]
  rw [upperChar, if_pos hc, ← h, Char.toUpper_toLower_eq_toUpper]

/-! ## Keywords -/

/-- A keyword is read off the front of a line in any mixture of cases. -/
theorem skipKeyword?_eq_some_iff {keyword line rest : List Char} :
    skipKeyword? keyword line = some rest ↔
      ∃ front, line = front ++ rest ∧ front.map foldChar = keyword := by
  induction keyword generalizing line with
  | nil => simp [skipKeyword?, eq_comm]
  | cons k keyword ih =>
      constructor
      · intro h
        cases line with
        | nil => simp [skipKeyword?] at h
        | cons c line =>
            simp only [skipKeyword?, beq_iff_eq, Option.ite_none_right_eq_some] at h
            obtain ⟨front, rfl, hf⟩ := ih.mp h.2
            exact ⟨c :: front, rfl, by simp [h.1, hf]⟩
      · rintro ⟨front, rfl, hf⟩
        cases front with
        | nil => simp at hf
        | cons c front =>
            obtain ⟨hc, htail⟩ := List.cons.inj hf
            simpa [skipKeyword?, hc] using ih.mpr ⟨front, rfl, htail⟩

/-- The opcode of a line that starts with a keyword starts with the keyword's first letter. -/
theorem head?_opcode_of_keyword {k : Char} {keyword line rest : List Char}
    (h : skipKeyword? (k :: keyword) line = some rest) (hk : k.toNat < 128)
    (hblank : isBlank k = false) (hdot : k ≠ 'i') (hkelvin : k ≠ 'k') :
    (opcode line).toList.head? = some k.toUpper := by
  obtain ⟨front, rfl, hf⟩ := skipKeyword?_eq_some_iff.mp h
  cases front with
  | nil => simp at hf
  | cons c front =>
      have hc : foldChar c = k := (List.cons.inj hf).1
      have hcb : isBlank c = false := by rw [← isBlank_foldChar, hc, hblank]
      have hup : upperChar c = [k.toUpper] := upperChar_of_foldChar hc hk hdot hkelvin
      simp [opcode, firstWord, List.span_eq_takeWhile_dropWhile, upper, hcb, hup]

/-- Of two keywords at the front of one line, one starts with the other. -/
theorem isPrefix_of_skipKeyword? {keyword other line : List Char}
    (h : (skipKeyword? keyword line).isSome = true) (h' : (skipKeyword? other line).isSome = true) :
    keyword <+: other ∨ other <+: keyword := by
  have hfront {word : List Char} (hw : (skipKeyword? word line).isSome = true) :
      word <+: line.map foldChar := by
    obtain ⟨rest, hrest⟩ := Option.isSome_iff_exists.mp hw
    obtain ⟨front, rfl, rfl⟩ := skipKeyword?_eq_some_iff.mp hrest
    simp
  exact List.prefix_or_prefix_of_prefix (hfront h) (hfront h')

/-- Every deciding opcode of the 6502 dialect is the name of a branch. -/
theorem mos6502_opcode_form : ∀ category ∈ mos6502Categories, ∀ op ∈ category.opcodes,
    op.toList.head? = some 'B' := by
  decide

theorem points_mos6502_of_opcode {line : List Char}
    (h : (opcode line).toList.head? ≠ some 'B') : Dialect.mos6502.points line = 0 := by
  simp only [Dialect.points, Dialect.categories, List.countP_eq_zero]
  intro category hc hm
  exact h (mos6502_opcode_form category hc _ (List.contains_iff_mem.mp hm))

/-- Every marker of the 6502 dialect but a label starts with one of these keywords. -/
theorem points_mos6502_of_keyword {k : Char} {keyword line : List Char}
    (h : (skipKeyword? (k :: keyword) line).isSome = true) (hk : k = '.' ∨ k = 's' ∨ k = 'r') :
    Dialect.mos6502.points line = 0 := by
  obtain ⟨rest, hskip⟩ := Option.isSome_iff_exists.mp h
  have hhead : (opcode line).toList.head? = some k.toUpper := by
    apply head?_opcode_of_keyword hskip <;> rcases hk with rfl | rfl | rfl <;> decide
  have hbranch : some k.toUpper ≠ some 'B' := by
    rcases hk with rfl | rfl | rfl <;> decide
  exact points_mos6502_of_opcode (hhead ▸ hbranch)

/-! ## Labels -/

/-- A name is the longest run of letters, digits and underscores at the front of a line. -/
theorem takeName?_eq_some {letter : Char → Bool} {line rest : List Char} {name : String}
    (h : takeName? letter line = some (name, rest)) :
    line = name.toList ++ rest ∧ name.toList ≠ [] ∧
      (∀ d ∈ name.toList, letter d = true ∨ d.isDigit = true ∨ d = '_') ∧
      rest = line.dropWhile fun d => letter d || d.isDigit || d == '_' := by
  cases line with
  | nil => simp [takeName?] at h
  | cons c tail =>
      by_cases hc : letter c = true ∨ c = '_'
      · simp only [takeName?, Bool.or_eq_true, beq_iff_eq, hc, ite_true,
          List.span_eq_takeWhile_dropWhile, Option.some.injEq, Prod.mk.injEq] at h
        obtain ⟨rfl, rfl⟩ := h
        rw [String.toList_ofList]
        refine ⟨List.takeWhile_append_dropWhile.symm, ?_, ?_, rfl⟩
        · rcases hc with hc | rfl <;> simp [*]
        · intro d hd
          simpa [or_assoc] using List.mem_takeWhile_imp hd
      · simp [takeName?, hc] at h

/-- A label is a run of letters, digits and underscores that a colon ends. -/
theorem label?_eq_some {line : List Char} {name : String} (h : label? line = some name) :
    ∃ rest, line = name.toList ++ ':' :: rest ∧
      ∀ d ∈ name.toList, d.isAlpha = true ∨ d.isDigit = true ∨ d = '_' := by
  simp only [label?, Option.bind_eq_bind, Option.bind_eq_some_iff] at h
  obtain ⟨⟨read, rest⟩, hread, hcolon⟩ := h
  split at hcolon
  · rename_i hhead
    obtain ⟨tail, rfl⟩ := List.head?_eq_some_iff.mp (eq_of_beq hhead)
    obtain rfl := Option.some.inj hcolon
    obtain ⟨hline, _, hname, _⟩ := takeName?_eq_some hread
    exact ⟨tail, hline, hname⟩
  · cases hcolon

theorem isBlank_of_name {c : Char} (h : c.isAlpha = true ∨ c.isDigit = true ∨ c = '_') :
    isBlank c = false := by
  rcases h with h | h | rfl
  · exact isBlank_of_isAlpha h
  · exact isBlank_of_isDigit h
  · decide

/-- A label is part of the first word of its line, with its colon. -/
theorem colon_mem_opcode_of_label {line : List Char} {name : String}
    (h : label? line = some name) : ':' ∈ (opcode line).toList := by
  obtain ⟨rest, rfl, hname⟩ := label?_eq_some h
  have hfront : ∀ d ∈ name.toList, (!isBlank d) = true := by
    intro d hd
    simp [isBlank_of_name (hname d hd)]
  have hcolon : isBlank ':' = false := by decide
  have hdrop : (name.toList ++ ':' :: rest).dropWhile isBlank = name.toList ++ ':' :: rest := by
    cases hn : name.toList with
    | nil => simp [hcolon]
    | cons c front => simp [isBlank_of_name (hname c (by simp [hn]))]
  have hword : (firstWord (name.toList ++ ':' :: rest)).1 =
      name.toList ++ ':' :: rest.takeWhile fun c => !isBlank c := by
    rw [firstWord, hdrop, List.span_eq_takeWhile_dropWhile]
    simp [List.takeWhile_append_of_pos hfront, hcolon]
  have hupper : upperChar ':' = [':'] := by decide
  simp [opcode, hword, upper, hupper]

theorem colon_notMem_opcode (dialect : Dialect) :
    ∀ category ∈ dialect.categories, ∀ op ∈ category.opcodes, ':' ∉ op.toList := by
  cases dialect <;> decide

/-- A label is no decision. -/
theorem points_of_label (dialect : Dialect) {line : List Char} {name : String}
    (h : label? line = some name) : dialect.points line = 0 := by
  simp only [Dialect.points, List.countP_eq_zero]
  intro category hc hm
  exact colon_notMem_opcode dialect category hc _ (List.contains_iff_mem.mp hm)
    (colon_mem_opcode_of_label h)

theorem isFoldedLetter_of_isAlpha {c : Char} (h : c.isAlpha = true) : isFoldedLetter c = true := by
  simp [isFoldedLetter, h]

/-- A label is no directive: where a directive has a blank after the name, a label has a colon. -/
theorem namedDirective?_of_label {line : List Char} {name : String}
    (h : label? line = some name) (keyword : List Char) : namedDirective? keyword line = none := by
  obtain ⟨rest, rfl, hname⟩ := label?_eq_some h
  have hfront : ∀ d ∈ name.toList, (isFoldedLetter d || d.isDigit || d == '_') = true := by
    intro d hd
    rcases hname d hd with ha | hdigit | rfl
    · simp [isFoldedLetter_of_isAlpha ha]
    · simp [hdigit]
    · simp
  cases hread : takeName? isFoldedLetter (name.toList ++ ':' :: rest) with
  | none => simp [namedDirective?, hread]
  | some read =>
      obtain ⟨found, tail⟩ := read
      have hcolon : isFoldedLetter ':' = false := by decide
      have htail : tail = ':' :: rest := by
        obtain ⟨_, _, _, hdrop⟩ := takeName?_eq_some hread
        rw [hdrop, List.dropWhile_append_of_pos hfront]
        simp [hcolon]
      have hblank : isBlank ':' = false := by decide
      simp [namedDirective?, hread, htail, skipBlanks?, hblank]

end Cyclomatic.Assembly
