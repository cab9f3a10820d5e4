import Cyclomatic.Proofs.Assembly.LineEndings

/-! # Clean lines

A line is read as the text before its comment without the white space around it. Such a line is
never empty, so it has an opcode, and nothing is left to be removed from it. -/

namespace Cyclomatic.Assembly

open Text

/-! ## Opcodes -/

theorem upperChar_ne_nil (c : Char) : upperChar c ≠ [] := by
  have htable : ∀ entry ∈ upperExpansions, entry.2 ≠ [] := by decide
  unfold upperChar
  split
  · simp
  · split
    · rename_i codes hcodes
      obtain ⟨front, back, hentries, -⟩ := List.lookup_eq_some_iff.mp hcodes
      have hentry := htable (c.toNat, codes) (by simp [hentries])
      simpa using hentry
    · simp

/-- A line that starts with something else than white space has an opcode. -/
theorem opcode_ne_empty {c : Char} (hc : isBlank c = false) (rest : List Char) :
    opcode (c :: rest) ≠ "" := by
  have hword : (firstWord (c :: rest)).1 = c :: rest.takeWhile fun d => !isBlank d := by
    simp [firstWord, List.span_eq_takeWhile_dropWhile, hc]
  intro h
  rw [opcode, hword, upper, List.flatMap_cons, ← String.toList_inj, String.toList_ofList] at h
  exact upperChar_ne_nil c (List.append_eq_nil_iff.mp h).1

/-! ## Lines that are read -/

/-- What a line is read as, unless it holds no instruction. -/
theorem cleanLine?_eq_some_iff {line clean : List Char} :
    cleanLine? line = some clean ↔
      Trimmed (line.takeWhile (· != ';')) clean ∧ ¬ WithoutInstruction line := by
  rw [trimmed_iff, WithoutInstruction, ← trim_eq_nil_iff, cleanLine?_eq]
  by_cases h : trim (line.takeWhile (· != ';')) = [] <;> simp [h]

/-- A line as the transitions get it. -/
structure Clean (line : List Char) : Prop where
  nonempty : line ≠ []
  uncommented : ';' ∉ line
  head : ∀ c ∈ line.head?, isBlank c = false
  last : ∀ c ∈ line.getLast?, isBlank c = false
  hasOpcode : opcode line ≠ ""
  unchanged : cleanLine? line = some line

theorem clean_of_trimmed {text line : List Char} (h : Trimmed text line) (hne : line ≠ [])
    (hno : ';' ∉ line) : Clean line := by
  obtain ⟨c, rest, rfl⟩ := List.exists_cons_of_ne_nil hne
  have hc : isBlank c = false := h.head c rfl
  refine ⟨hne, hno, h.head, h.last, opcode_ne_empty hc rest, ?_⟩
  have hall : (c :: rest).takeWhile (· != ';') = c :: rest :=
    List.takeWhile_eq_self_iff.mpr (bne_semicolon_of_notMem hno)
  rw [cleanLine?_eq_some_iff, WithoutInstruction, hall]
  refine ⟨⟨⟨[], [], by simp⟩, h.head, h.last⟩, fun hblank => ?_⟩
  have hblank' := hblank c List.mem_cons_self
  rw [hc] at hblank'
  cases hblank'

theorem Clean.of_cleanLine? {line clean : List Char} (h : cleanLine? line = some clean) :
    Clean clean := by
  obtain ⟨htrimmed, hline⟩ := cleanLine?_eq_some_iff.mp h
  have htrim := trimmed_iff.mp htrimmed
  refine clean_of_trimmed htrimmed ?_ ?_
  · rintro rfl
    exact hline ((trim_eq_nil_iff _).mp htrim)
  · intro hmem
    rw [← htrim] at hmem
    simpa using List.mem_takeWhile_imp (mem_of_mem_trim hmem)

/-- A line without an instruction is skipped, every other is read as the text before its comment,
trimmed. What is read is a clean line. -/
theorem cleanLine?_reads_instruction (line : List Char) :
    (cleanLine? line = none ↔ ∀ c ∈ line.takeWhile (· != ';'), isBlank c = true) ∧
      (∀ clean, cleanLine? line = some clean ↔
        Trimmed (line.takeWhile (· != ';')) clean ∧
          ¬ ∀ c ∈ line.takeWhile (· != ';'), isBlank c = true) ∧
      ∀ clean, cleanLine? line = some clean → Clean clean :=
  ⟨cleanLine?_eq_none_iff line, fun _ => cleanLine?_eq_some_iff, fun _ => Clean.of_cleanLine?⟩

/-- White space of three kinds around an instruction, and two semicolons after it. -/
theorem cleanLine?_reads_instruction_between_blanks :
    cleanLine? "\t\u2003je done\u00A0 ; je ;x".toList = some "je done".toList ∧
      Clean "je done".toList := by
  have hread : cleanLine? "\t\u2003je done\u00A0 ; je ;x".toList = some "je done".toList := by
    decide
  exact ⟨hread, (cleanLine?_reads_instruction _).2.2 _ hread⟩

end Cyclomatic.Assembly
