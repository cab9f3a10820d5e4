import Cyclomatic.Proofs.Assembly.Patterns
import Cyclomatic.Proofs.Assembly.Trace

/-! # Segmentation of x86 source

The lines are cut before every procedure directive and before every directive that closes one. Each
block between two cuts holds at most one unit, and these are the units that the transitions
finalize. -/

namespace Cyclomatic.Assembly.X86

/-! ## Blocks -/

/-- Whether a line opens or closes a procedure. -/
def marks (line : List Char) : Bool :=
  (x86Open? line).isSome || x86Close line

/-- The lines, cut immediately before every line that opens or closes a procedure. -/
def blocks (lines : List (List Char)) : List (List (List Char)) :=
  lines.splitBy fun _ line => !marks line

/-- The unit that the first label among the lines starts. -/
def labelUnit? : List (List Char) → Option ClosedUnit
  | [] => none
  | line :: rest =>
      match label? line with
      | some name => some ⟨name, 1 + Dialect.x86.pointsIn rest⟩
      | none => labelUnit? rest

/-- The unit of a block: that of the procedure if a procedure opens it, else that of its first
label. -/
def blockUnit? : List (List Char) → Option ClosedUnit
  | [] => none
  | line :: rest =>
      match x86Open? line with
      | some name => some ⟨name, 1 + Dialect.x86.pointsIn rest⟩
      | none => labelUnit? (line :: rest)

/-! ## Transitions -/

theorem step_of_open {line : List Char} {name : String} (h : x86Open? line = some name)
    (state : UnitState) :
    Dialect.x86.step state line = ⟨.opened name 1, state.unit?, some (.procedure name)⟩ := by
  simp [Dialect.step, x86Step, h]

theorem step_of_close {line : List Char} (ho : x86Open? line = none)
    (hc : x86Close line = true) (state : UnitState) :
    Dialect.x86.step state line = ⟨.idle, state.unit?, none⟩ := by
  simp [Dialect.step, x86Step, ho, hc]

theorem resets_of_marks {line : List Char} (h : marks line = true) :
    Dialect.x86.Resets line := by
  intro state
  cases ho : x86Open? line with
  | some name => simp [step_of_open ho]
  | none =>
      have hc : x86Close line = true := by simpa [marks, ho] using h
      simp [step_of_close ho hc]

theorem accrues_opened (name : String) {line : List Char} (h : marks line = false) :
    Dialect.x86.Accrues (.opened name) line := by
  intro score
  simp only [marks, Bool.or_eq_false_iff, Option.isSome_eq_false_iff, Option.isNone_iff_eq_none]
    at h
  simp [Dialect.step, x86Step, h.1, h.2, UnitState.accrue]

/-- A line that closes a procedure starts no unit, not even as a label. -/
theorem label?_of_close {line : List Char} (h : x86Close line = true) : label? line = none := by
  cases hl : label? line with
  | none => rfl
  | some name =>
      simp [x86Close, namedDirective?_of_label hl] at h

/-! ## One block -/

theorem finalized_opened (name : String) {body : List (List Char)}
    (h : ∀ line ∈ body, marks line = false) :
    Dialect.x86.finalized (.opened name 1) body =
      [⟨name, 1 + Dialect.x86.pointsIn body⟩] := by
  have hacc : ∀ line ∈ body, Dialect.x86.Accrues (.opened name) line :=
    fun line hl => accrues_opened name (h line hl)
  have hrun := Dialect.finalized_append_of_accrues _ hacc 1 []
  simpa [Dialect.finalized, UnitState.unit?] using hrun

theorem finalized_idle {body : List (List Char)} (h : ∀ line ∈ body, marks line = false) :
    Dialect.x86.finalized .idle body = (labelUnit? body).toList := by
  induction body with
  | nil => rfl
  | cons line body ih =>
      have hline := h line (by simp)
      have hbody : ∀ l ∈ body, marks l = false := fun l hl => h l (by simp [hl])
      simp only [marks, Bool.or_eq_false_iff, Option.isSome_eq_false_iff,
        Option.isNone_iff_eq_none] at hline
      cases hl : label? line with
      | none =>
          simp only [Dialect.finalized, Dialect.step, x86Step, hline, hl, labelUnit?]
          simpa using ih hbody
      | some name =>
          simp only [Dialect.finalized, Dialect.step, x86Step, hline, hl, labelUnit?]
          simpa using finalized_opened name hbody

theorem finalized_block {block : List (List Char)}
    (h : ∀ line ∈ block.tail, marks line = false) :
    Dialect.x86.finalized .idle block = (blockUnit? block).toList := by
  cases block with
  | nil => rfl
  | cons line body =>
      cases ho : x86Open? line with
      | some name =>
          rw [Dialect.finalized, step_of_open ho]
          simpa [blockUnit?, ho, UnitState.unit?] using finalized_opened name h
      | none =>
          cases hc : x86Close line with
          | true =>
              rw [Dialect.finalized, step_of_close ho hc]
              simpa [blockUnit?, ho, labelUnit?, label?_of_close hc, UnitState.unit?] using
                finalized_idle h
          | false =>
              have hall : ∀ l ∈ line :: body, marks l = false := by
                intro l hl
                rcases List.mem_cons.mp hl with rfl | hl
                · simp [marks, ho, hc]
                · exact h l hl
              simpa [blockUnit?, ho] using finalized_idle hall

/-! ## All blocks -/

theorem marks_of_isChain {block : List (List Char)}
    (h : block.IsChain fun _ line => (!marks line) = true) :
    ∀ line ∈ block.tail, marks line = false := by
  induction block with
  | nil => simp
  | cons first body ih =>
      cases body with
      | nil => simp
      | cons line body =>
          obtain ⟨hline, hbody⟩ := List.isChain_cons_cons.mp h
          intro l hl
          rcases List.mem_cons.mp hl with rfl | hl
          · simpa using hline
          · exact ih hbody l hl

/-- Blocks are finalized one by one if each but the first starts with a line that resets the
run. -/
theorem finalized_flatten (parts : List (List (List Char)))
    (hb : ∀ block ∈ parts, ∀ line ∈ block.tail, marks line = false)
    (hc : parts.IsChain fun _ next => ∃ line rest, next = line :: rest ∧ marks line = true) :
    Dialect.x86.finalized .idle parts.flatten = parts.filterMap blockUnit? := by
  induction parts with
  | nil => rfl
  | cons block more ih =>
      have hblock := finalized_block (hb block (by simp))
      have hmore : ∀ b ∈ more, ∀ line ∈ b.tail, marks line = false :=
        fun b hm => hb b (by simp [hm])
      have hsplit : Dialect.x86.finalized .idle (block ++ more.flatten) =
          Dialect.x86.finalized .idle block ++ Dialect.x86.finalized .idle more.flatten := by
        cases more with
        | nil => simp [Dialect.finalized, UnitState.unit?]
        | cons next more =>
            obtain ⟨line, rest, rfl, hm⟩ := (List.isChain_cons_cons.mp hc).1
            exact Dialect.finalized_append_of_resets _ (resets_of_marks hm) _ _ _
      rw [List.flatten_cons, hsplit, hblock, ih hmore hc.tail]
      cases hu : blockUnit? block <;> simp [hu]

theorem finalized_blocks (lines : List (List Char)) :
    Dialect.x86.finalized .idle lines = (blocks lines).filterMap blockUnit? := by
  have hflat : (blocks lines).flatten = lines := List.flatten_splitBy _ lines
  have hchain := List.isChain_getLast_head_splitBy (fun _ line => !marks line) lines
  conv_lhs => rw [← hflat]
  apply finalized_flatten
  · intro block hb
    exact marks_of_isChain (List.isChain_of_mem_splitBy hb)
  · refine hchain.imp ?_
    rintro _ next ⟨_, hne, hm⟩
    refine ⟨next.head hne, next.tail, (List.cons_head_tail hne).symm, ?_⟩
    simpa using hm

/-! ## States -/

/-- No label of x86 source is ever pending. -/
theorem step_ne_candidate {state : UnitState} (h : ∀ name score, state ≠ .candidate name score)
    (line : List Char) (name : String) (score : Int) :
    (Dialect.x86.step state line).state ≠ .candidate name score := by
  cases ho : x86Open? line with
  | some opened => simp [step_of_open ho]
  | none =>
      cases hc : x86Close line with
      | true => simp [step_of_close ho hc]
      | false =>
          cases state with
          | candidate pending points => exact absurd rfl (h pending points)
          | opened unit points => simp [Dialect.step, x86Step, ho, hc, UnitState.accrue]
          | idle => cases hl : label? line <;> simp [Dialect.step, x86Step, ho, hc, hl]

theorem stateAfter_ne_candidate {state : UnitState}
    (h : ∀ name score, state ≠ .candidate name score) (lines : List (List Char))
    (name : String) (score : Int) :
    Dialect.x86.stateAfter state lines ≠ .candidate name score := by
  induction lines generalizing state with
  | nil => exact h name score
  | cons line rest ih => exact ih (step_ne_candidate h line)

/-- Block by block, the units of the blocks are the units that the transitions finalize, and a scan
records them in this order. No state on the way is that of a pending label. -/
theorem finalized_eq_blockUnits (lines : List (List Char)) :
    Dialect.x86.finalized .idle lines = (blocks lines).filterMap blockUnit? ∧
      (scan .x86 lines).units =
        .ofList (((blocks lines).filterMap blockUnit?).map ClosedUnit.entry) ∧
      ∀ count name score,
        Dialect.x86.stateAfter .idle (lines.take count) ≠ .candidate name score := by
  refine ⟨finalized_blocks lines, ?_, ?_⟩
  · rw [scan_units, finalized_blocks]
  · intro count
    exact stateAfter_ne_candidate (by simp) (lines.take count)

end Cyclomatic.Assembly.X86
