import Cyclomatic.Analysis
import Cyclomatic.Proofs.Assembly.Mos6502
import Cyclomatic.Proofs.Assembly.Seam
import Cyclomatic.Proofs.Assembly.X86

/-! # Decision points are credited at most once

A score is one more than the points that were credited to its unit. No line credits more points than
it has, to one unit at most, and recording a unit again only takes points away. So the points of a
report never exceed those of the file. -/

namespace Cyclomatic.Assembly

/-! ## Points of a line -/

/-- The categories of a dialect share no opcode. -/
theorem categories_disjoint (dialect : Dialect) :
    dialect.categories.Pairwise fun a b => ∀ op ∈ a.opcodes, op ∉ b.opcodes := by
  cases dialect <;> decide

theorem countP_contains_le_one {op : String} {categories : List Category}
    (h : categories.Pairwise fun a b => ∀ op ∈ a.opcodes, op ∉ b.opcodes) :
    categories.countP (fun category => category.opcodes.contains op) ≤ 1 := by
  induction categories with
  | nil => simp
  | cons category rest ih =>
      obtain ⟨hfirst, hrest⟩ := List.pairwise_cons.mp h
      rw [List.countP_cons]
      by_cases hop : op ∈ category.opcodes
      · have hnone : rest.countP (fun c => c.opcodes.contains op) = 0 := by
          rw [List.countP_eq_zero]
          intro c hc hm
          exact hfirst c hc op hop (List.contains_iff_mem.mp hm)
        rw [hnone]
        split <;> simp
      · simpa [hop] using ih hrest

/-- A line is one decision or none. -/
theorem points_le_one (dialect : Dialect) (line : List Char) : dialect.points line ≤ 1 :=
  countP_contains_le_one (categories_disjoint dialect)

theorem pointsIn_eq_countP (dialect : Dialect) (lines : List (List Char)) :
    dialect.pointsIn lines = lines.countP fun line => dialect.points line ≠ 0 := by
  induction lines with
  | nil => rfl
  | cons line rest ih =>
      have h := points_le_one dialect line
      rw [Dialect.pointsIn_cons, ih, List.countP_cons]
      by_cases hz : dialect.points line = 0
      · simp [hz]
      · have hone : dialect.points line = 1 := by omega
        simp [hone]
        omega

/-! ## What a line can do -/

/-- A state that nothing has been credited to. -/
def UnitState.Fresh : UnitState → Prop
  | .idle => True
  | .candidate _ score => score = 1
  | .opened _ score => score = 1

/-- What a line with `points` can do to a state, in any dialect: leave it alone, add its points,
start afresh and close what was open, confirm a label, or close a label as a unit. -/
inductive Effect (points : Int) : UnitState → UnitState → Option ClosedUnit → Prop where
  | keep (state) : Effect points state state none
  | accrue (state) : Effect points state (state.accrue points) none
  | fresh (state) {next} (hn : next.Fresh) : Effect points state next state.unit?
  | confirm (name score) : Effect points (.candidate name score) (.opened name score) none
  | settle (name score) : Effect points (.candidate name score) .idle (some ⟨name, score⟩)

theorem x86_effect (state : UnitState) (line : List Char) :
    Effect (Dialect.x86.points line) state (Dialect.x86.step state line).state
      (Dialect.x86.step state line).closed := by
  cases ho : x86Open? line with
  | some name =>
      rw [X86.step_of_open ho]
      exact .fresh state rfl
  | none =>
      cases hc : x86Close line with
      | true =>
          rw [X86.step_of_close ho hc]
          exact .fresh state trivial
      | false =>
          simp only [Dialect.step, x86Step, ho, hc]
          cases state with
          | opened name score => exact .accrue _
          | idle =>
              cases label? line with
              | none => exact .keep _
              | some name => exact .fresh .idle rfl
          | candidate name score =>
              cases label? line with
              | none => exact .keep _
              | some next => exact .fresh (.candidate name score) rfl

theorem mos6502_effect (state : UnitState) (line : List Char) :
    Effect (Dialect.mos6502.points line) state (Dialect.mos6502.step state line).state
      (Dialect.mos6502.step state line).closed := by
  obtain ⟨hstate, hclosed⟩ := Prod.mk.inj (Mos6502.step_eq_transition state line)
  rw [hstate, hclosed]
  cases Mos6502.lineKind line with
  | procedure name => exact .fresh state rfl
  | other => exact .accrue state
  | close =>
      cases state with
      | opened name score => exact .fresh (.opened name score) trivial
      | _ => exact .keep _
  | subroutine =>
      cases state with
      | candidate name score => exact .confirm name score
      | _ => exact .keep _
  | returns =>
      cases state with
      | idle => exact .keep _
      | candidate name score => exact .settle name score
      | opened name score => exact .fresh (.opened name score) trivial
  | label next =>
      cases state with
      | idle => exact .fresh .idle rfl
      | candidate name score => exact .fresh (.candidate name score) rfl
      | opened name score => exact .accrue (.opened name score)

theorem step_effect (dialect : Dialect) (state : UnitState) (line : List Char) :
    Effect (dialect.points line) state (dialect.step state line).state
      (dialect.step state line).closed := by
  cases dialect with
  | x86 => exact x86_effect state line
  | mos6502 => exact mos6502_effect state line

/-! ## Credit -/

/-- The points credited to the unit or the label that a state is about. -/
def UnitState.credit : UnitState → Int
  | .idle => 0
  | .candidate _ score => score - 1
  | .opened _ score => score - 1

/-- The points credited to the units of some entries together. -/
def creditIn (entries : List (String × Int)) : Int :=
  (entries.map fun entry => entry.2 - 1).foldr (· + ·) 0

@[simp] theorem creditIn_nil : creditIn [] = 0 := rfl

@[simp] theorem creditIn_cons (entry : String × Int) (rest : List (String × Int)) :
    creditIn (entry :: rest) = entry.2 - 1 + creditIn rest := rfl

theorem creditIn_append (front back : List (String × Int)) :
    creditIn (front ++ back) = creditIn front + creditIn back := by
  induction front with
  | nil => simp
  | cons entry front ih =>
      rw [List.cons_append, creditIn_cons, creditIn_cons, ih]
      omega

theorem UnitState.Fresh.credit_eq {state : UnitState} (h : state.Fresh) : state.credit = 0 := by
  cases state <;> simp_all [UnitState.Fresh, UnitState.credit]

theorem UnitState.credit_accrue (state : UnitState) {points : Int} (hp : 0 ≤ points) :
    state.credit ≤ (state.accrue points).credit ∧
      (state.accrue points).credit ≤ state.credit + points := by
  cases state <;> simp only [UnitState.accrue, UnitState.credit] <;> omega

/-- The unit that a state would close has the credit of the state. -/
theorem UnitState.credit_unit? {state : UnitState} (hs : 0 ≤ state.credit) :
    creditIn (state.unit?.toList.map ClosedUnit.entry) ≤ state.credit ∧
      ∀ unit ∈ state.unit?, 1 ≤ unit.score := by
  cases state with
  | opened name score =>
      simp only [UnitState.credit] at hs
      simp only [UnitState.unit?, UnitState.credit, ClosedUnit.entry, Option.toList_some,
        List.map_cons, List.map_nil, creditIn_cons, creditIn_nil]
      refine ⟨by omega, ?_⟩
      intro unit hu
      obtain rfl := Option.some.inj hu
      exact Int.sub_nonneg.mp hs
  | _ => simpa [UnitState.unit?] using hs

/-- What a line keeps: nothing is owed, in the next state and in the unit that it closes, and the
credit grows by no more than the points of the line. -/
structure EffectCredit (points : Int) (state next : UnitState) (closed : Option ClosedUnit) :
    Prop where
  credit_nonneg : 0 ≤ next.credit
  closed_pos : ∀ unit ∈ closed, 1 ≤ unit.score
  credit_le : creditIn (closed.toList.map ClosedUnit.entry) + next.credit ≤ state.credit + points

theorem Effect.credit {points : Int} {state next : UnitState} {closed : Option ClosedUnit}
    (h : Effect points state next closed) (hs : 0 ≤ state.credit) (hp : 0 ≤ points) :
    EffectCredit points state next closed := by
  cases h with
  | keep => exact ⟨hs, by simp, by simpa using hp⟩
  | accrue =>
      obtain ⟨hge, hle⟩ := state.credit_accrue hp
      exact ⟨by omega, by simp, by simpa using hle⟩
  | fresh _ hn =>
      obtain ⟨hle, hpos⟩ := UnitState.credit_unit? hs
      have hz := hn.credit_eq
      exact ⟨by omega, hpos, by omega⟩
  | confirm name score => exact ⟨hs, by simp, by simpa [UnitState.credit] using hp⟩
  | settle name score =>
      have hopened : 0 ≤ (UnitState.opened name score).credit := hs
      obtain ⟨hle, hpos⟩ := UnitState.credit_unit? hopened
      exact ⟨le_rfl, hpos, Int.add_le_add hle hp⟩

/-- A run over lines credits at most their points. -/
theorem finalized_credit (dialect : Dialect) (lines : List (List Char)) {state : UnitState}
    (hs : 0 ≤ state.credit) :
    creditIn ((dialect.finalized state lines).map ClosedUnit.entry) ≤
        state.credit + dialect.pointsIn lines ∧
      ∀ entry ∈ (dialect.finalized state lines).map ClosedUnit.entry, 1 ≤ entry.2 := by
  induction lines generalizing state with
  | nil =>
      obtain ⟨hle, hpos⟩ := UnitState.credit_unit? hs
      refine ⟨by simpa [Dialect.finalized] using hle, ?_⟩
      intro entry he
      simp only [Dialect.finalized, List.mem_map, Option.mem_toList] at he
      obtain ⟨unit, hu, rfl⟩ := he
      exact hpos unit hu
  | cons line rest ih =>
      have hstep := (step_effect dialect state line).credit hs (Int.natCast_nonneg _)
      obtain ⟨hle, hpos⟩ := ih hstep.credit_nonneg
      have hclosed := hstep.credit_le
      rw [Dialect.finalized, List.map_append, creditIn_append, Dialect.pointsIn_cons]
      refine ⟨by omega, ?_⟩
      intro entry he
      rcases List.mem_append.mp he with he | he
      · simp only [List.mem_map, Option.mem_toList] at he
        obtain ⟨unit, hu, rfl⟩ := he
        exact hstep.closed_pos unit hu
      · exact hpos entry he

/-! ## The table -/

/-- Recording a unit adds its credit, less that of the unit that it replaces. -/
theorem creditIn_insertEntry (key : String) (value : Int) {entries : List (String × Int)}
    (h : ∀ entry ∈ entries, 1 ≤ entry.2) :
    creditIn (OrderedMap.insertEntry key value entries) ≤ creditIn entries + (value - 1) := by
  induction entries with
  | nil => simp [OrderedMap.insertEntry]
  | cons first rest ih =>
      have hfirst := h first (by simp)
      have hrest := ih fun entry he => h entry (by simp [he])
      by_cases hf : first.1 = key
      · simp only [OrderedMap.insertEntry, hf, ite_true, creditIn_cons]
        omega
      · simp only [OrderedMap.insertEntry, hf, ite_false, creditIn_cons]
        omega

theorem creditIn_insertAll (entries : List (String × Int)) {table : UnitTable}
    (ht : ∀ entry ∈ table.entries, 1 ≤ entry.2) (he : ∀ entry ∈ entries, 1 ≤ entry.2) :
    creditIn (table.insertAll entries).entries ≤ creditIn table.entries + creditIn entries ∧
      ∀ entry ∈ (table.insertAll entries).entries, 1 ≤ entry.2 := by
  induction entries generalizing table with
  | nil => simpa using ht
  | cons first rest ih =>
      have hfirst := he first (by simp)
      have hnext : ∀ entry ∈ (table.insert first.1 first.2).entries, 1 ≤ entry.2 := by
        intro entry hm
        rcases OrderedMap.mem_insertEntry hm with hv | hm
        · rw [hv]
          exact hfirst
        · exact ht entry hm
      obtain ⟨hle, hpos⟩ := ih hnext fun entry hm => he entry (by simp [hm])
      have hins : creditIn (table.insert first.1 first.2).entries ≤
          creditIn table.entries + (first.2 - 1) :=
        creditIn_insertEntry first.1 first.2 ht
      rw [OrderedMap.insertAll_cons, creditIn_cons]
      exact ⟨by omega, hpos⟩

theorem scanUnits_credit (dialect : Dialect) (source : List Char) :
    creditIn (scanUnits dialect source).entries ≤ dialect.pointsIn (cleanLines source) ∧
      ∀ entry ∈ (scanUnits dialect source).entries, 1 ≤ entry.2 := by
  have hidle : 0 ≤ UnitState.idle.credit := le_rfl
  obtain ⟨hrun, hpos⟩ := finalized_credit dialect (cleanLines source) hidle
  have hempty : ∀ entry ∈ (OrderedMap.empty : UnitTable).entries, 1 ≤ entry.2 := by
    simp [OrderedMap.empty]
  obtain ⟨hle, hall⟩ := creditIn_insertAll _ hempty hpos
  rw [scanUnits_eq_ofList, OrderedMap.ofList]
  refine ⟨?_, hall⟩
  have hz : creditIn (OrderedMap.empty : UnitTable).entries = 0 := rfl
  have hc : UnitState.idle.credit = 0 := rfl
  omega

/-! ## The report -/

/-- The language of a dialect. -/
def Dialect.language : Dialect → Language
  | .x86 => .x86
  | .mos6502 => .mos6502

theorem totalComplexity_sub_unitCount (report : Report) :
    report.totalComplexity - report.unitCount = creditIn report.units.entries := by
  unfold Report.totalComplexity Report.unitCount OrderedMap.size
  induction report.units.entries with
  | nil => rfl
  | cons entry rest ih =>
      simp only [List.map_cons, List.foldr_cons, List.length_cons, creditIn_cons, ← ih]
      omega

/-- The points that a report credits are points of the file. -/
structure ReportCredit (dialect : Dialect) (source : List Char) (report : Report) : Prop where
  /-- No more points are credited than the file has. -/
  credit_le : report.totalComplexity - report.unitCount ≤
    globalScore dialect (cleanLines source) - 1
  /-- The points of the file are its decision lines, each counted once. -/
  points_eq : globalScore dialect (cleanLines source) - 1 =
    ((cleanLines source).countP fun line => dialect.points line ≠ 0 : Nat)
  /-- A file without units gets all its points credited as a whole. -/
  credit_eq : (scanUnits dialect source).isEmpty = true →
    report.totalComplexity - report.unitCount = globalScore dialect (cleanLines source) - 1
  count_pos : 1 ≤ report.unitCount
  score_pos : ∀ entry ∈ report.units.entries, 1 ≤ entry.2

theorem calculate_eq (parser : Java.Parser) (dialect : Dialect) (source : List Char)
    (fileName : FileName) :
    calculate parser dialect.language (CodePoint.ofChars source) fileName =
      .ok (assemblyReport dialect.language fileName
        (unitsAndRemarks dialect source fileName.shown)) := by
  cases dialect with
  | x86 => rw [Dialect.language, calculate, CodePoint.toChars_ofChars]
  | mos6502 => rw [Dialect.language, calculate, CodePoint.toChars_ofChars]

theorem unitsAndRemarks_fst (dialect : Dialect) (source : List Char) (fileName : String) :
    (unitsAndRemarks dialect source fileName).1 =
      if (scanUnits dialect source).isEmpty = true then
        ⟨[(globalUnit, globalScore dialect (cleanLines source))]⟩
      else scanUnits dialect source := by
  simp only [unitsAndRemarks, Progress.result, Progress.whole, Progress.found, scanUnits]
  by_cases h : (scan dialect (cleanLines source)).units.isEmpty = true
  · have hnil : (scan dialect (cleanLines source)).units.entries = [] := List.isEmpty_iff.mp h
    simp [h, hnil, OrderedMap.insert, OrderedMap.insertEntry]
  · simp [h]

/-- Every calculation yields a report, and no decision point of the file is credited twice in it or
made up. -/
theorem calculate_credit (parser : Java.Parser) (dialect : Dialect) (source : List Char)
    (fileName : FileName) :
    ∃ report records,
      calculate parser dialect.language (CodePoint.ofChars source) fileName =
        .ok (report, records) ∧
      ReportCredit dialect source report := by
  refine ⟨_, _, calculate_eq parser dialect source fileName, ?_⟩
  have hglobal := dialect.globalScore_eq (cleanLines source)
  have hpoints : globalScore dialect (cleanLines source) - 1 =
      ((cleanLines source).countP fun line => dialect.points line ≠ 0 : Nat) := by
    rw [← pointsIn_eq_countP]
    omega
  obtain ⟨hcredit, hscores⟩ := scanUnits_credit dialect source
  have hunits := unitsAndRemarks_fst dialect source fileName.shown
  by_cases h : (scanUnits dialect source).isEmpty = true
  · -- The whole file is the only unit.
    rw [if_pos h] at hunits
    have hwhole : creditIn (unitsAndRemarks dialect source fileName.shown).1.entries =
        globalScore dialect (cleanLines source) - 1 := by
      simp [hunits]
    refine ⟨?_, hpoints, fun _ => ?_, ?_, ?_⟩
    · rw [totalComplexity_sub_unitCount]
      exact hwhole.le
    · rw [totalComplexity_sub_unitCount]
      exact hwhole
    · simp [Report.unitCount, hunits, OrderedMap.size]
    · intro entry he
      simp only [hunits, List.mem_singleton] at he
      rw [he]
      omega
  · rw [if_neg h] at hunits
    refine ⟨?_, hpoints, fun he => absurd he h, ?_, ?_⟩
    · rw [totalComplexity_sub_unitCount]
      simp only [hunits]
      omega
    · simp only [Report.unitCount, hunits, OrderedMap.size]
      exact List.length_pos_iff.mpr fun hnil => h (List.isEmpty_iff.mpr hnil)
    · simpa only [assemblyReport, hunits] using hscores

end Cyclomatic.Assembly
