import Cyclomatic.Proofs.Assembly.Patterns
import Cyclomatic.Proofs.Assembly.Trace

/-! # Segmentation of 6502 source

A label starts a unit only if a later line says so, however far ahead that line is. The rules below
read the units off the kinds of the lines with this look-ahead; the transitions, which never look
ahead, finalize exactly the same units. -/

namespace Cyclomatic.Assembly.Mos6502

/-! ## Kinds of lines -/

/-- What a line is, told by the first pattern that it matches: `.proc name`, `.endproc`,
`SUBROUTINE`, `RTS`, `name:`, or none of them. -/
inductive LineKind where
  | procedure (name : String)
  | close
  | subroutine
  | returns
  | label (name : String)
  | other
deriving DecidableEq, Repr

def lineKind (line : List Char) : LineKind :=
  match mos6502Open? line with
  | some name => .procedure name
  | none =>
      if mos6502Close line then .close
      else if mos6502Subroutine line then .subroutine
      else if mos6502Return line then .returns
      else
        match label? line with
        | some name => .label name
        | none => .other

namespace LineKind

/-- Outside a unit, a procedure or a label may start one. -/
def starts : LineKind → Bool
  | .procedure _ | .label _ => true
  | _ => false

/-- A confirmed unit extends to the next line of such a kind. -/
def endsUnit : LineKind → Bool
  | .procedure _ | .close | .returns => true
  | _ => false

/-- What becomes of a label is settled by the next line of such a kind. -/
def settles : LineKind → Bool
  | .procedure _ | .subroutine | .returns | .label _ => true
  | _ => false

end LineKind

/-- A line of a particular kind is no decision. -/
theorem points_of_lineKind {line : List Char} (h : lineKind line ≠ .other) :
    Dialect.mos6502.points line = 0 := by
  unfold lineKind at h
  split at h
  · rename_i name hopen
    obtain ⟨rest, hkey, _⟩ := Option.bind_eq_some_iff.mp hopen
    exact points_mos6502_of_keyword (Option.isSome_of_eq_some hkey) (by simp)
  split at h
  · rename_i hclose
    exact points_mos6502_of_keyword (Option.isSome_of_any hclose) (by simp)
  split at h
  · rename_i hsubroutine
    exact points_mos6502_of_keyword (Option.isSome_of_any hsubroutine) (by simp)
  split at h
  · rename_i hreturn
    exact points_mos6502_of_keyword (Option.isSome_of_any hreturn) (by simp)
  split at h
  · rename_i hlabel
    exact points_of_label .mos6502 hlabel
  · exact absurd rfl h

/-! ## Transitions by kind -/

/-- The next state and the unit closed, for a line of a kind that has these decision points. -/
def transition (points : Int) : LineKind → UnitState → UnitState × Option ClosedUnit
  | .procedure name, state => (.opened name 1, state.unit?)
  | .close, .opened name score => (.idle, some ⟨name, score⟩)
  | .subroutine, .candidate name score => (.opened name score, none)
  | .returns, .candidate name score => (.idle, some ⟨name, score⟩)
  | .returns, .opened name score => (.idle, some ⟨name, score⟩)
  | .label name, .idle => (.candidate name 1, none)
  | .label name, .candidate _ _ => (.candidate name 1, none)
  | .label _, .opened name score => (.opened name (score + points), none)
  | .other, state => (state.accrue points, none)
  | _, state => (state, none)

/-- A transition depends on the line through its kind and its points alone. -/
theorem step_eq_transition (state : UnitState) (line : List Char) :
    ((Dialect.mos6502.step state line).state, (Dialect.mos6502.step state line).closed) =
      transition (Dialect.mos6502.points line) (lineKind line) state := by
  simp only [Dialect.step, mos6502Step, lineKind]
  cases mos6502Open? line with
  | some name => rfl
  | none =>
      by_cases hclose : mos6502Close line = true
      · cases state <;> simp [hclose, transition]
      by_cases hsub : mos6502Subroutine line = true
      · cases state <;> simp [hclose, hsub, transition]
      by_cases hret : mos6502Return line = true
      · cases state <;> simp [hclose, hsub, hret, transition]
      cases label? line <;> cases state <;>
        simp [hclose, hsub, hret, transition, UnitState.accrue]

theorem finalized_cons (state : UnitState) (line : List Char) (rest : List (List Char)) :
    Dialect.mos6502.finalized state (line :: rest) =
      (transition (Dialect.mos6502.points line) (lineKind line) state).2.toList ++
        Dialect.mos6502.finalized
          (transition (Dialect.mos6502.points line) (lineKind line) state).1 rest := by
  rw [← step_eq_transition]
  rfl

/-! ## The rules -/

/-- How units are read off the lines, starting outside any unit. The score of a unit is one more
than the decision points of the lines after its first line, up to the line that ends it. -/
inductive Segmentation : List (List Char) → List ClosedUnit → Prop where
  | nil : Segmentation [] []
  /-- A line that is neither a procedure nor a label opens nothing. -/
  | skip {line rest units} (hk : (lineKind line).starts = false)
      (hs : Segmentation rest units) : Segmentation (line :: rest) units
  /-- A procedure is a unit, up to the next line that ends one or to the last line. -/
  | procedure {line name body rest units} (hk : lineKind line = .procedure name)
      (hb : ∀ l ∈ body, (lineKind l).endsUnit = false)
      (hr : ∀ l ∈ rest.head?, (lineKind l).endsUnit = true)
      (hs : Segmentation rest units) :
      Segmentation (line :: (body ++ rest))
        (⟨name, 1 + Dialect.mos6502.pointsIn body⟩ :: units)
  /-- A label is none if a procedure or another label settles it, or no line at all. -/
  | dropped {line name pending rest units} (hk : lineKind line = .label name)
      (hp : ∀ l ∈ pending, (lineKind l).settles = false)
      (hr : ∀ l ∈ rest.head?, (lineKind l).starts = true)
      (hs : Segmentation rest units) : Segmentation (line :: (pending ++ rest)) units
  /-- A label that a return settles is a unit, which ends there. -/
  | returned {line name pending last rest units} (hk : lineKind line = .label name)
      (hp : ∀ l ∈ pending, (lineKind l).settles = false) (hl : lineKind last = .returns)
      (hs : Segmentation rest units) :
      Segmentation (line :: (pending ++ last :: rest))
        (⟨name, 1 + Dialect.mos6502.pointsIn pending⟩ :: units)
  /-- A label that a subroutine directive settles is a unit, which extends as far as a procedure
  would from there. -/
  | confirmed {line name pending directive body rest units} (hk : lineKind line = .label name)
      (hp : ∀ l ∈ pending, (lineKind l).settles = false)
      (hd : lineKind directive = .subroutine)
      (hb : ∀ l ∈ body, (lineKind l).endsUnit = false)
      (hr : ∀ l ∈ rest.head?, (lineKind l).endsUnit = true)
      (hs : Segmentation rest units) :
      Segmentation (line :: (pending ++ directive :: (body ++ rest)))
        (⟨name, 1 + Dialect.mos6502.pointsIn (pending ++ directive :: body)⟩ :: units)

/-! ## Runs through a unit and through a pending label -/

theorem finalized_skip {line : List Char} (hk : (lineKind line).starts = false)
    (rest : List (List Char)) :
    Dialect.mos6502.finalized .idle (line :: rest) = Dialect.mos6502.finalized .idle rest := by
  rw [finalized_cons]
  cases h : lineKind line <;> simp_all [LineKind.starts, transition, UnitState.accrue]

theorem accrues_opened (name : String) {line : List Char}
    (hk : (lineKind line).endsUnit = false) : Dialect.mos6502.Accrues (.opened name) line := by
  intro score
  have h := step_eq_transition (.opened name score) line
  cases hline : lineKind line with
  | subroutine =>
      have hz : Dialect.mos6502.points line = 0 := points_of_lineKind (by simp [hline])
      simpa [hline, transition, hz, and_comm] using h
  | label _ => simpa [hline, transition, and_comm] using h
  | other => simpa [hline, transition, UnitState.accrue, and_comm] using h
  | _ => simp [hline, LineKind.endsUnit] at hk

theorem accrues_candidate (name : String) {line : List Char}
    (hk : (lineKind line).settles = false) : Dialect.mos6502.Accrues (.candidate name) line := by
  intro score
  have h := step_eq_transition (.candidate name score) line
  cases hline : lineKind line with
  | close =>
      have hz : Dialect.mos6502.points line = 0 := points_of_lineKind (by simp [hline])
      simpa [hline, transition, hz, and_comm] using h
  | other => simpa [hline, transition, UnitState.accrue, and_comm] using h
  | _ => simp [hline, LineKind.settles] at hk

/-- An open unit ends where one may end, and the run goes on as if it had not been open. -/
theorem finalized_opened_end (name : String) (score : Int) (rest : List (List Char))
    (hr : ∀ l ∈ rest.head?, (lineKind l).endsUnit = true) :
    Dialect.mos6502.finalized (.opened name score) rest =
      ⟨name, score⟩ :: Dialect.mos6502.finalized .idle rest := by
  cases rest with
  | nil => rfl
  | cons line rest =>
      have hk := hr line rfl
      rw [finalized_cons, finalized_cons]
      cases h : lineKind line <;> simp_all [LineKind.endsUnit, transition, UnitState.unit?]

/-- A procedure, another label or the end gives a pending label up without a trace. -/
theorem finalized_candidate_dropped (name : String) (score : Int) (rest : List (List Char))
    (hr : ∀ l ∈ rest.head?, (lineKind l).starts = true) :
    Dialect.mos6502.finalized (.candidate name score) rest =
      Dialect.mos6502.finalized .idle rest := by
  cases rest with
  | nil => rfl
  | cons line rest =>
      have hk := hr line rfl
      rw [finalized_cons, finalized_cons]
      cases h : lineKind line <;> simp_all [LineKind.starts, transition, UnitState.unit?]

/-- A run through a confirmed unit finalizes it with the points of its lines. -/
theorem finalized_unit (name : String) (score : Int) {body rest : List (List Char)}
    (hb : ∀ l ∈ body, (lineKind l).endsUnit = false)
    (hr : ∀ l ∈ rest.head?, (lineKind l).endsUnit = true) :
    Dialect.mos6502.finalized (.opened name score) (body ++ rest) =
      ⟨name, score + Dialect.mos6502.pointsIn body⟩ :: Dialect.mos6502.finalized .idle rest := by
  have h : ∀ l ∈ body, Dialect.mos6502.Accrues (.opened name) l :=
    fun l hl => accrues_opened name (hb l hl)
  rw [Dialect.finalized_append_of_accrues _ h, finalized_opened_end _ _ _ hr]

/-- A run through the lines after a label keeps the label pending with their points. -/
theorem finalized_label {line : List Char} {name : String} (hk : lineKind line = .label name)
    {pending : List (List Char)} (hp : ∀ l ∈ pending, (lineKind l).settles = false)
    (rest : List (List Char)) :
    Dialect.mos6502.finalized .idle (line :: (pending ++ rest)) =
      Dialect.mos6502.finalized
        (.candidate name (1 + Dialect.mos6502.pointsIn pending)) rest := by
  have h : ∀ l ∈ pending, Dialect.mos6502.Accrues (.candidate name) l :=
    fun l hl => accrues_candidate name (hp l hl)
  rw [← Dialect.finalized_append_of_accrues _ h, finalized_cons, hk]
  rfl

/-! ## Agreement -/

/-- Whatever the rules read is what the transitions finalize. -/
theorem Segmentation.execution {lines : List (List Char)} {units : List ClosedUnit}
    (h : Segmentation lines units) : Dialect.mos6502.finalized .idle lines = units := by
  induction h with
  | nil => rfl
  | skip hk _ ih => rw [finalized_skip hk, ih]
  | procedure hk hb hr _ ih =>
      rw [finalized_cons, hk]
      simp only [transition, UnitState.unit?, Option.toList_none, List.nil_append]
      rw [finalized_unit _ _ hb hr, ih]
  | dropped hk hp hr _ ih =>
      rw [finalized_label hk hp, finalized_candidate_dropped _ _ _ hr, ih]
  | returned hk hp hl _ ih =>
      rw [finalized_label hk hp, finalized_cons, hl]
      simp only [transition, Option.toList_some, List.singleton_append, ih]
  | @confirmed _ _ pending directive body _ _ hk hp hd hb hr _ ih =>
      have hz : Dialect.mos6502.points directive = 0 := points_of_lineKind (by simp [hd])
      have hsum : 1 + (Dialect.mos6502.pointsIn pending : Int) + Dialect.mos6502.pointsIn body =
          1 + (Dialect.mos6502.pointsIn (pending ++ directive :: body) : Int) := by
        rw [Dialect.pointsIn_append, Dialect.pointsIn_cons, hz]
        omega
      rw [finalized_label hk hp, finalized_cons, hd]
      simp only [transition, Option.toList_none, List.nil_append]
      rw [finalized_unit _ _ hb hr, ih, hsum]

/-- Every list may be cut before its first element that satisfies a test. -/
theorem exists_cut {α : Type} (test : α → Bool) (xs : List α) :
    ∃ front back, xs = front ++ back ∧ (∀ x ∈ front, test x = false) ∧
      ∀ x ∈ back.head?, test x = true := by
  refine ⟨xs.takeWhile fun x => !test x, xs.dropWhile fun x => !test x,
    List.takeWhile_append_dropWhile.symm, ?_, ?_⟩
  · intro x hx
    simpa using List.mem_takeWhile_imp hx
  · intro x hx
    have h := List.head?_dropWhile_not (fun x => !test x) xs
    rw [hx] at h
    simpa using h

/-- The rules read some list of units off every source. -/
theorem exists_segmentation (lines : List (List Char)) : ∃ units, Segmentation lines units := by
  induction hn : lines.length using Nat.strong_induction_on generalizing lines with
  | _ n ih =>
      subst hn
      cases lines with
      | nil => exact ⟨[], .nil⟩
      | cons line rest =>
          cases hk : lineKind line with
          | procedure name =>
              obtain ⟨body, after, rfl, hb, hr⟩ :=
                exists_cut (fun l => (lineKind l).endsUnit) rest
              obtain ⟨units, hs⟩ := ih after.length (by simp) after rfl
              exact ⟨_, .procedure hk hb hr hs⟩
          | label name =>
              obtain ⟨pending, after, rfl, hp, hr⟩ :=
                exists_cut (fun l => (lineKind l).settles) rest
              cases after with
              | nil => exact ⟨_, .dropped hk hp (by simp) .nil⟩
              | cons next after =>
                  have hnext := hr next rfl
                  cases hnk : lineKind next with
                  | returns =>
                      obtain ⟨units, hs⟩ := ih after.length (by simp; omega) after rfl
                      exact ⟨_, .returned hk hp hnk hs⟩
                  | subroutine =>
                      obtain ⟨body, last, rfl, hb, hlast⟩ :=
                        exists_cut (fun l => (lineKind l).endsUnit) after
                      obtain ⟨units, hs⟩ := ih last.length (by simp; omega) last rfl
                      exact ⟨_, .confirmed hk hp hnk hb hlast hs⟩
                  | procedure _ =>
                      obtain ⟨units, hs⟩ :=
                        ih (next :: after).length (by simp) (next :: after) rfl
                      exact ⟨_, .dropped hk hp (by simp [hnk, LineKind.starts]) hs⟩
                  | label _ =>
                      obtain ⟨units, hs⟩ :=
                        ih (next :: after).length (by simp) (next :: after) rfl
                      exact ⟨_, .dropped hk hp (by simp [hnk, LineKind.starts]) hs⟩
                  | _ => simp [hnk, LineKind.settles] at hnext
          | _ =>
              obtain ⟨units, hs⟩ := ih rest.length (by simp) rest rfl
              exact ⟨_, .skip (by simp [hk, LineKind.starts]) hs⟩

/-- The rules read exactly one list of units off every source, and it is the list of the units that
the transitions finalize, which a scan records in this order. No marker among the lines is a
decision. -/
theorem segmentation_iff_finalized (lines : List (List Char)) :
    (∀ units, Segmentation lines units ↔ Dialect.mos6502.finalized .idle lines = units) ∧
      (scan .mos6502 lines).units =
        .ofList ((Dialect.mos6502.finalized .idle lines).map ClosedUnit.entry) ∧
      ∀ line ∈ lines, lineKind line ≠ .other → Dialect.mos6502.points line = 0 := by
  refine ⟨?_, scan_units .mos6502 lines, fun line _ => points_of_lineKind⟩
  intro units
  refine ⟨Segmentation.execution, ?_⟩
  rintro rfl
  obtain ⟨units, hs⟩ := exists_segmentation lines
  rwa [hs.execution]

/-- A data label is given up for the next label, which a subroutine directive confirms in spite of
the stray directive between them; the label inside the unit opens nothing. -/
theorem segmentation_of_labels :
    Segmentation
      ["data:".toList, "start:".toList, ".endproc".toList, "BEQ on".toList, "SUBROUTINE".toList,
        "inner:".toList, "BNE inner".toList, "RTS".toList, ".proc last".toList, "BCC end".toList]
      [⟨"start", 3⟩, ⟨"last", 2⟩] :=
  ((segmentation_iff_finalized _).1 _).mpr (by decide)

end Cyclomatic.Assembly.Mos6502
