import Cyclomatic.Assembly.Scan
import Cyclomatic.Proofs.OrderedMap

/-! # The units that a scan finalizes

The transitions of a dialect, run over lines, finalize units one after the other. The table that a
scan builds is what these units leave when each is recorded under its name. -/

namespace Cyclomatic.Assembly

/-! ## Points -/

/-- The decision points of several lines together. -/
def Dialect.pointsIn (dialect : Dialect) (lines : List (List Char)) : Nat :=
  (lines.map dialect.points).foldr (· + ·) 0

namespace Dialect

variable (dialect : Dialect)

@[simp] theorem pointsIn_nil : dialect.pointsIn [] = 0 := rfl

@[simp] theorem pointsIn_cons (line : List Char) (rest : List (List Char)) :
    dialect.pointsIn (line :: rest) = dialect.points line + dialect.pointsIn rest := rfl

@[simp] theorem pointsIn_append (front back : List (List Char)) :
    dialect.pointsIn (front ++ back) = dialect.pointsIn front + dialect.pointsIn back := by
  induction front with
  | nil => simp
  | cons line front ih => rw [List.cons_append, pointsIn_cons, pointsIn_cons, ih, Nat.add_assoc]

theorem globalScore_eq (lines : List (List Char)) :
    globalScore dialect lines = 1 + (dialect.pointsIn lines : Int) := rfl

/-! ## Runs -/

/-- The state after a run over lines. -/
def stateAfter (state : UnitState) (lines : List (List Char)) : UnitState :=
  lines.foldl (fun s line => (dialect.step s line).state) state

/-- The units that a run over lines finalizes: those that its lines close, in order, and then the
one that is still open at the end. -/
def finalized : UnitState → List (List Char) → List ClosedUnit
  | state, [] => state.unit?.toList
  | state, line :: rest =>
      (dialect.step state line).closed.toList ++ finalized (dialect.step state line).state rest

/-- A line accrues to a state, given for each score that it may have, if all that the line does is
to add its points to the score. -/
def Accrues (state : Int → UnitState) (line : List Char) : Prop :=
  ∀ score, (dialect.step (state score) line).closed = none ∧
    (dialect.step (state score) line).state = state (score + dialect.points line)

/-- A run passes over lines that accrue and adds up their points. -/
theorem finalized_append_of_accrues {state : Int → UnitState} {body : List (List Char)}
    (h : ∀ line ∈ body, dialect.Accrues state line) (score : Int) (rest : List (List Char)) :
    dialect.finalized (state score) (body ++ rest) =
      dialect.finalized (state (score + dialect.pointsIn body)) rest := by
  induction body generalizing score with
  | nil => simp
  | cons line body ih =>
      obtain ⟨hclosed, hstate⟩ := h line (by simp) score
      have hsum : score + (dialect.points line : Int) + (dialect.pointsIn body : Int) =
          score + (dialect.pointsIn (line :: body) : Int) := by
        rw [pointsIn_cons]
        omega
      rw [List.cons_append, finalized, hclosed, hstate, ih (fun l hl => h l (by simp [hl])), hsum,
        Option.toList_none, List.nil_append]

/-- A line resets a run if it closes what is open and the run then goes on as if nothing had
preceded the line. -/
def Resets (line : List Char) : Prop :=
  ∀ state, (dialect.step state line).closed = state.unit? ∧
    (dialect.step state line).state = (dialect.step .idle line).state

/-- A run may be cut before a line that resets it: what the end of the input finalizes is what the
line would have closed. -/
theorem finalized_append_of_resets {line : List Char} (h : dialect.Resets line)
    (state : UnitState) (front rest : List (List Char)) :
    dialect.finalized state (front ++ line :: rest) =
      dialect.finalized state front ++ dialect.finalized .idle (line :: rest) := by
  induction front generalizing state with
  | nil =>
      obtain ⟨hclosed, hstate⟩ := h state
      obtain ⟨hidle, _⟩ := h .idle
      simp only [List.nil_append, finalized, hclosed, hstate, hidle, UnitState.unit?,
        Option.toList_none]
  | cons first front ih => simp only [List.cons_append, finalized, ih, List.append_assoc]

end Dialect

/-! ## The table of a scan -/

/-- The entry under which a unit is recorded. -/
def ClosedUnit.entry (unit : ClosedUnit) : String × Int := (unit.name, unit.score)

namespace Progress

theorem advance_state (progress : Progress) (step : Step) :
    (progress.advance step).state = step.state := rfl

theorem advance_units (progress : Progress) (step : Step) :
    (progress.advance step).units =
      progress.units.insertAll (step.closed.toList.map ClosedUnit.entry) := by
  unfold advance
  cases step.remark <;> cases step.closed <;> rfl

theorem finish_units (progress : Progress) :
    progress.finish.units =
      progress.units.insertAll (progress.state.unit?.toList.map ClosedUnit.entry) := by
  unfold finish
  cases progress.state <;> rfl

/-- What is recorded on the way and at the end are the finalized units, in order. -/
theorem units_of_run (dialect : Dialect) (progress : Progress) (lines : List (List Char)) :
    ((lines.foldl (fun (p : Progress) line => p.advance (dialect.step p.state line))
        progress).finish).units =
      progress.units.insertAll
        ((dialect.finalized progress.state lines).map ClosedUnit.entry) := by
  induction lines generalizing progress with
  | nil => exact finish_units progress
  | cons line rest ih =>
      rw [List.foldl_cons, ih, advance_units, advance_state, Dialect.finalized, List.map_append,
        OrderedMap.insertAll_append]

end Progress

theorem scan_units (dialect : Dialect) (lines : List (List Char)) :
    (scan dialect lines).units =
      .ofList ((dialect.finalized .idle lines).map ClosedUnit.entry) :=
  Progress.units_of_run dialect .start lines

end Cyclomatic.Assembly
