import Cyclomatic.Proofs.Assembly.Comments

/-! # Line endings do not matter

A source may be written with any mixture of line terminators. Where a carriage return meets the
line feed of an empty line, the two read as one terminator and the empty line is lost, but nothing
else ever is. So the lines that hold an instruction can be read back from the text, and neither the
terminators nor the lines without an instruction have any influence on the report. -/

namespace Cyclomatic.Assembly

open Text

/-! ## Lines and their terminators -/

/-- The three ways to end a line. -/
inductive Terminator where
  | feed
  | carriageReturn
  | returnAndFeed
deriving DecidableEq, Repr

/-- The characters of a terminator. -/
def Terminator.chars : Terminator → List Char
  | .feed => ['\n']
  | .carriageReturn => ['\r']
  | .returnAndFeed => ['\r', '\n']

/-- Lines with their terminators, and perhaps a last line that has none. -/
structure TerminatedLines where
  ended : List (List Char × Terminator)
  last : Option (List Char)
  unbroken : ∀ line ∈ ended.map (·.1) ++ last.toList, Unbroken line

namespace TerminatedLines

/-- The lines without their terminators. -/
def lines (source : TerminatedLines) : List (List Char) :=
  source.ended.map (·.1) ++ source.last.toList

/-- The lines as they are written one after the other. -/
def text (source : TerminatedLines) : List Char :=
  source.ended.flatMap (fun line => line.1 ++ line.2.chars) ++ source.last.getD []

end TerminatedLines

variable {β : Type} (read : List Char → Option β)

/-- A reader that ignores empty lines reads the first line and goes on after its terminator. -/
theorem filterMap_sourceLines_ended (hread : read [] = none) {line : List Char}
    (h : Unbroken line) (terminator : Terminator) (rest : List Char) :
    (sourceLines (line ++ terminator.chars ++ rest)).filterMap read =
      (read line).toList ++ (sourceLines rest).filterMap read := by
  rw [List.append_assoc]
  cases terminator with
  | feed => exact filterMap_sourceLines_next read hread h (Or.inl rfl) rest
  | carriageReturn => exact filterMap_sourceLines_next read hread h (Or.inr rfl) rest
  | returnAndFeed =>
      -- Read apart, the line feed would end an empty line.
      have hfeed := filterMap_sourceLines_next read hread unbroken_nil (Or.inl rfl) rest
      rw [hread] at hfeed
      have hreturn := filterMap_sourceLines_next read hread h (Or.inr rfl) ('\n' :: rest)
      rwa [← List.nil_append ('\n' :: rest), hfeed] at hreturn

/-- A reader that ignores empty lines reads the lines that were written. -/
theorem filterMap_sourceLines_text (hread : read [] = none) (source : TerminatedLines) :
    (sourceLines source.text).filterMap read = source.lines.filterMap read := by
  obtain ⟨ended, last, hunbroken⟩ := source
  unfold TerminatedLines.text TerminatedLines.lines
  induction ended with
  | nil =>
      cases last with
      | none => rfl
      | some line =>
          have hlast := filterMap_sourceLines_last read hread (hunbroken line List.mem_cons_self)
          simpa [List.filterMap_eq_flatMap_toList] using hlast
  | cons first ended ih =>
      rw [List.map_cons, List.cons_append, List.forall_mem_cons] at hunbroken
      obtain ⟨hfirst, hrest⟩ := hunbroken
      rw [List.flatMap_cons, List.append_assoc,
        filterMap_sourceLines_ended read hread hfirst first.2, ih hrest]
      simp [List.filterMap_eq_flatMap_toList]

theorem cleanLines_text (source : TerminatedLines) :
    cleanLines source.text = source.lines.filterMap cleanLine? :=
  filterMap_sourceLines_text cleanLine? rfl source

/-! ## Lines without an instruction -/

/-- A blank line, or one that holds nothing but a comment. -/
def WithoutInstruction (line : List Char) : Prop :=
  ∀ c ∈ line.takeWhile (· != ';'), isBlank c = true

instance (line : List Char) : Decidable (WithoutInstruction line) :=
  List.decidableBAll (isBlank · = true) (line.takeWhile (· != ';'))

theorem cleanLine?_eq_none_iff (line : List Char) :
    cleanLine? line = none ↔ WithoutInstruction line := by
  rw [cleanLine?_eq, WithoutInstruction, ← trim_eq_nil_iff]
  by_cases h : trim (line.takeWhile (· != ';')) = [] <;> simp [h]

/-- Two sequences of lines that differ only in lines without an instruction. -/
inductive SameInstructions : List (List Char) → List (List Char) → Prop where
  | nil : SameInstructions [] []
  | both (line) {lines others} (h : SameInstructions lines others) :
      SameInstructions (line :: lines) (line :: others)
  | left {line lines others} (hline : WithoutInstruction line)
      (h : SameInstructions lines others) : SameInstructions (line :: lines) others
  | right {line lines others} (hline : WithoutInstruction line)
      (h : SameInstructions lines others) : SameInstructions lines (line :: others)

theorem SameInstructions.filterMap_cleanLine? {lines others : List (List Char)}
    (h : SameInstructions lines others) :
    lines.filterMap cleanLine? = others.filterMap cleanLine? := by
  induction h with
  | nil => rfl
  | both line _ ih => rw [List.filterMap_cons, List.filterMap_cons, ih]
  | left hline _ ih => rw [List.filterMap_cons_none ((cleanLine?_eq_none_iff _).mpr hline), ih]
  | right hline _ ih => rw [List.filterMap_cons_none ((cleanLine?_eq_none_iff _).mpr hline), ih]

/-! ## The outcome -/

/-- What is read of a source are its lines, each without its comment, and the report depends
neither on the terminators nor on lines without an instruction. -/
theorem sameOutcome_of_lines (parser : Java.Parser) (source : TerminatedLines) :
    cleanLines source.text = source.lines.filterMap cleanLine? ∧
      ∀ (other : TerminatedLines) (dialect : Dialect) (fileName : FileName),
        (source.lines = other.lines →
          SameOutcome parser dialect fileName source.text other.text) ∧
        (SameInstructions source.lines other.lines →
          SameOutcome parser dialect fileName source.text other.text) := by
  refine ⟨cleanLines_text source, ?_⟩
  intro other dialect fileName
  constructor
  · intro hlines
    refine .of_cleanLines ?_ parser dialect fileName
    rw [cleanLines_text, cleanLines_text, hlines]
  · intro hlines
    refine .of_cleanLines ?_ parser dialect fileName
    rw [cleanLines_text, cleanLines_text, hlines.filterMap_cleanLine?]

/-- A carriage return that fuses with the line feed of an empty line, a comment of its own that is
left out, and a separator inside a line that ends none. -/
theorem sameOutcome_of_fused_terminators :
    SameOutcome (Java.parse none) .mos6502 "f.s65" "f:\r\n;x\r\nBEQ g\u2028\rRTS".toList
      "f:\nBEQ g\u2028\r\n \rRTS\n".toList := by
  let source : TerminatedLines :=
    { ended := [("f:".toList, .carriageReturn), ([], .feed), (";x".toList, .returnAndFeed),
        ("BEQ g\u2028".toList, .carriageReturn)]
      last := some "RTS".toList
      unbroken := by decide }
  let other : TerminatedLines :=
    { ended := [("f:".toList, .feed), ("BEQ g\u2028".toList, .returnAndFeed),
        (" ".toList, .carriageReturn), ("RTS".toList, .feed)]
      last := none
      unbroken := by decide }
  have hlines : SameInstructions source.lines other.lines := by
    refine .both _ (.left ?_ (.left ?_ (.both _ (.right ?_ (.both _ .nil))))) <;> decide
  exact ((sameOutcome_of_lines (Java.parse none) source).2 other .mos6502 "f.s65").2 hlines

end Cyclomatic.Assembly
