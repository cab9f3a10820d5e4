import Cyclomatic.Proofs.Assembly.Accounting

/-! # Scans that are interrupted

A transition that may fail ends a scan at the first line on which it fails: nothing that was found
up to there is reported, no further line is fed, and the source is not scored as a whole either. If
it fails on no line that is fed to it, it does not matter that it could have failed. -/

namespace Cyclomatic.Assembly

/-! ## Observed scans

A scan is the same program for every kind of effect, so what it asks for can be written down while
it runs. -/

inductive Request where
  | step (index : Nat) (state : UnitState) (line : List Char)
  | wholeScore
deriving DecidableEq

/-- Computations that may fail, with the requests made up to their end. -/
abbrev Observed := ExceptT Fault (StateM (List Request))

def Observed.after {α : Type} (x : Observed α) (requests : List Request) :
    Except Fault α × List Request :=
  x.run.run requests

/-- Answers a request and writes it down. -/
def noted {α : Type} (request : Request) (answer : Except Fault α) : Observed α :=
  ExceptT.mk fun requests => (answer, requests ++ [request])

def observed (step : FallibleStep) : StepIn Observed :=
  fun index state line => noted (.step index state line) (step index state line)

/-- What a scan comes to and what it asks for, in order. -/
def observedScan (step : FallibleStep) (dialect : Dialect) (lines : List (List Char))
    (fileName : String) : Except Fault (UnitTable × List ScanRemark) × List Request :=
  (scanIn (observed step) (noted .wholeScore (.ok (globalScore dialect lines))) lines
    fileName).after []

@[simp] theorem after_pure {α : Type} (a : α) (requests : List Request) :
    Observed.after (pure a) requests = (.ok a, requests) := rfl

@[simp] theorem after_bind {α β : Type} (x : Observed α) (f : α → Observed β)
    (requests : List Request) :
    Observed.after (x >>= f) requests =
      match x.after requests with
      | (.ok a, more) => (f a).after more
      | (.error fault, more) => (.error fault, more) := by
  cases hx : x.after requests with
  | mk result more =>
      rw [Observed.after] at hx
      cases result with
      | error fault =>
          simp only [Observed.after, ExceptT.run_bind, StateT.run_bind, hx]
          rfl
      | ok a =>
          simp only [Observed.after, ExceptT.run_bind, StateT.run_bind, hx]
          rfl

@[simp] theorem after_noted {α : Type} (request : Request) (answer : Except Fault α)
    (requests : List Request) :
    (noted request answer).after requests = (answer, requests ++ [request]) := rfl

theorem feed_observed (step : FallibleStep) (lines : List (List Char)) (index : Nat)
    (progress : Progress) (requests : List Request) :
    ((feed (observed step) index progress lines).after requests).1 =
      feed step index progress lines := by
  induction lines generalizing index progress requests with
  | nil => rfl
  | cons line rest ih =>
      simp only [feed, observed, after_bind, after_noted]
      cases step index progress.state line with
      | error fault => rfl
      | ok outcome => exact ih _ _ _

/-- To be observed changes nothing. -/
theorem observedScan_fst (step : FallibleStep) (dialect : Dialect) (lines : List (List Char))
    (fileName : String) :
    (observedScan step dialect lines fileName).1 =
      scanIn step (.ok (globalScore dialect lines)) lines fileName := by
  have hfeed := feed_observed step lines 0 .start []
  simp only [observedScan, scanIn, after_bind]
  rw [← hfeed]
  cases (feed (observed step) 0 .start lines).after [] with
  | mk result requests =>
      cases result with
      | error fault => rfl
      | ok last =>
          simp only [bind, Except.bind]
          split <;> rfl

/-! ## The first line that fails -/

/-- A transition does what that of a dialect does, or it fails. -/
def Imitates (step : FallibleStep) (dialect : Dialect) : Prop :=
  ∀ index state line, step index state line = .ok (dialect.step state line) ∨
    ∃ fault, step index state line = .error fault

/-- The transition fails on the line of number `k`, in the state in which a run of the dialect that
starts in `state` comes to that line. The first line has number `index` for the transition. -/
def RaisesFrom (step : FallibleStep) (dialect : Dialect) (index : Nat) (state : UnitState)
    (lines : List (List Char)) (k : Nat) (fault : Fault) : Prop :=
  ∃ line, lines[k]? = some line ∧
    step (index + k) (dialect.stateAfter state (lines.take k)) line = .error fault

/-- The requests of a run of the dialect over lines. -/
def Dialect.requests (dialect : Dialect) : Nat → UnitState → List (List Char) → List Request
  | _, _, [] => []
  | index, state, line :: rest =>
      .step index state line :: requests dialect (index + 1) (dialect.step state line).state rest

variable {step : FallibleStep} {dialect : Dialect}

theorem raisesFrom_cons_zero {index : Nat} {state : UnitState} {line : List Char}
    {rest : List (List Char)} {fault : Fault} :
    RaisesFrom step dialect index state (line :: rest) 0 fault ↔
      step index state line = .error fault := by
  simp [RaisesFrom, Dialect.stateAfter]

theorem raisesFrom_cons_succ {index k : Nat} {state : UnitState} {line : List Char}
    {rest : List (List Char)} {fault : Fault} :
    RaisesFrom step dialect index state (line :: rest) (k + 1) fault ↔
      RaisesFrom step dialect (index + 1) (dialect.step state line).state rest k fault := by
  have hindex : index + (k + 1) = index + 1 + k := by omega
  simp [RaisesFrom, Dialect.stateAfter, hindex]

theorem feed_of_silent (himitates : Imitates step dialect) (progress : Progress)
    {lines : List (List Char)} {index : Nat}
    (h : ∀ k fault, ¬ RaisesFrom step dialect index progress.state lines k fault)
    (requests : List Request) :
    (feed (observed step) index progress lines).after requests =
      (.ok (lines.foldl (fun (p : Progress) line => p.advance (dialect.step p.state line))
          progress),
        requests ++ dialect.requests index progress.state lines) := by
  induction lines generalizing index progress requests with
  | nil => simp [feed, Dialect.requests]
  | cons line rest ih =>
      have hstep : step index progress.state line = .ok (dialect.step progress.state line) := by
        rcases himitates index progress.state line with hok | ⟨fault, hfault⟩
        · exact hok
        · exact absurd (raisesFrom_cons_zero.mpr hfault) (h 0 fault)
      have hrest : ∀ k fault, ¬ RaisesFrom step dialect (index + 1)
          (progress.advance (dialect.step progress.state line)).state rest k fault :=
        fun k fault hraises => h (k + 1) fault (raisesFrom_cons_succ.mpr hraises)
      simp [feed, observed, hstep, ih _ hrest, Dialect.requests, Progress.advance_state]

theorem feed_of_raise (himitates : Imitates step dialect) (progress : Progress)
    {lines : List (List Char)} {index k : Nat} {fault : Fault}
    (hraises : RaisesFrom step dialect index progress.state lines k fault)
    (hfirst : ∀ j < k, ∀ other, ¬ RaisesFrom step dialect index progress.state lines j other)
    (requests : List Request) :
    (feed (observed step) index progress lines).after requests =
      (.error fault, requests ++ dialect.requests index progress.state (lines.take (k + 1))) := by
  induction lines generalizing index k progress requests with
  | nil => simp [RaisesFrom] at hraises
  | cons line rest ih =>
      cases k with
      | zero =>
          have hstep := raisesFrom_cons_zero.mp hraises
          simp [feed, observed, hstep, Dialect.requests]
      | succ k =>
          have hstep : step index progress.state line =
              .ok (dialect.step progress.state line) := by
            rcases himitates index progress.state line with hok | ⟨other, hother⟩
            · exact hok
            · exact absurd (raisesFrom_cons_zero.mpr hother) (hfirst 0 (by omega) other)
          have hlater : RaisesFrom step dialect (index + 1)
              (progress.advance (dialect.step progress.state line)).state rest k fault :=
            raisesFrom_cons_succ.mp hraises
          have hbefore : ∀ j < k, ∀ other, ¬ RaisesFrom step dialect (index + 1)
              (progress.advance (dialect.step progress.state line)).state rest j other :=
            fun j hj other hr => hfirst (j + 1) (by omega) other (raisesFrom_cons_succ.mpr hr)
          simp [feed, observed, hstep, ih _ hlater hbefore, Dialect.requests,
            Progress.advance_state]

/-! ## Whole scans -/

/-- The transition fails on the line of number `k` of a source text. -/
abbrev RaisesAt (step : FallibleStep) (dialect : Dialect) (source : List Char) (k : Nat)
    (fault : Fault) : Prop :=
  RaisesFrom step dialect 0 .idle (cleanLines source) k fault

/-- Either no line fails, or one of those that fail is the first. -/
theorem silent_or_first (step : FallibleStep) (dialect : Dialect) (source : List Char) :
    (∀ k fault, ¬ RaisesAt step dialect source k fault) ∨
      ∃ k fault, RaisesAt step dialect source k fault ∧
        ∀ j < k, ∀ other, ¬ RaisesAt step dialect source j other := by
  classical
  by_cases h : ∃ k, ∃ fault, RaisesAt step dialect source k fault
  · obtain ⟨fault, hfault⟩ := Nat.find_spec h
    exact .inr ⟨Nat.find h, fault, hfault, fun j hj other hr => Nat.find_min h hj ⟨other, hr⟩⟩
  · exact .inl fun k fault hr => h ⟨k, fault, hr⟩

theorem observedScan_of_silent (himitates : Imitates step dialect) {source : List Char}
    (h : ∀ k fault, ¬ RaisesAt step dialect source k fault) (fileName : String) :
    observedScan step dialect (cleanLines source) fileName =
      (.ok (unitsAndRemarks dialect source fileName),
        dialect.requests 0 .idle (cleanLines source) ++
          if (scanUnits dialect source).isEmpty then [.wholeScore] else []) := by
  have hfeed := feed_of_silent himitates .start h []
  simp only [observedScan, scanIn, after_bind, hfeed, List.nil_append]
  change Observed.after (if (scanUnits dialect source).isEmpty = true then _ else _) _ = _
  by_cases hempty : (scanUnits dialect source).isEmpty = true
  · have hunits : unitsAndRemarks dialect source fileName =
        (scan dialect (cleanLines source)).whole fileName
          (globalScore dialect (cleanLines source)) := if_pos hempty
    simp only [hempty, if_true, after_bind, after_noted, after_pure, hunits]
    rfl
  · have hunits : unitsAndRemarks dialect source fileName =
        (scan dialect (cleanLines source)).found := if_neg hempty
    simp only [hempty, Bool.false_eq_true, if_false, after_pure, List.append_nil, hunits]
    rfl

theorem observedScan_of_raise (himitates : Imitates step dialect) {source : List Char} {k : Nat}
    {fault : Fault} (hraises : RaisesAt step dialect source k fault)
    (hfirst : ∀ j < k, ∀ other, ¬ RaisesAt step dialect source j other) (fileName : String) :
    observedScan step dialect (cleanLines source) fileName =
      (.error fault, dialect.requests 0 .idle ((cleanLines source).take (k + 1))) := by
  have hfeed := feed_of_raise himitates .start hraises hfirst []
  simp only [observedScan, scanIn, after_bind, hfeed, List.nil_append]
  rfl

/-! ## Faults that become errors -/

/-- The faults of files, of values and of texts that cannot be encoded or decoded, and all special
cases of them. -/
inductive IsStreamFault : FaultKind → Prop where
  | io (kind : IoKind) : IsStreamFault (.io kind)
  | value : IsStreamFault .invalidValue
  | document : IsStreamFault .document
  | encoding : IsStreamFault .encoding
  | undecodable : IsStreamFault .undecodable
  | special (name : String) {parent : FaultKind} :
      IsStreamFault parent → IsStreamFault (.special name parent)

theorem isStreamFault_iff (kind : FaultKind) :
    IsStreamFault kind ↔ interruptsScan kind = true := by
  constructor
  · intro h
    induction h with
    | special name _ ih => exact ih
    | _ => rfl
  · intro h
    induction kind with
    | special name parent ih => exact .special name (ih h)
    | io kind => exact .io kind
    | invalidValue => exact .value
    | document => exact .document
    | encoding => exact .encoding
    | undecodable => exact .undecodable
    | _ => cases h

theorem IsStreamFault.base_ne_lookup {kind : FaultKind} (h : IsStreamFault kind) :
    kind.base ≠ .lookup := by
  induction h with
  | special name _ ih => exact ih
  | _ => nofun

theorem IsStreamFault.message_eq {fault : Fault} (h : IsStreamFault fault.kind) :
    fault.message = fault.text := by
  unfold Fault.message
  split
  · rename_i hlookup
    exact absurd hlookup h.base_ne_lookup
  · rfl

theorem scanFailure_of_stream {fault : Fault} (h : IsStreamFault fault.kind) (fileName : String) :
    scanFailure fileName fault =
      .error (.calculation fileName fault.text) (some fault.kind) := by
  rw [scanFailure, if_pos ((isStreamFault_iff _).mp h), h.message_eq]

theorem scanFailure_of_other {fault : Fault} (h : ¬ IsStreamFault fault.kind) (fileName : String) :
    scanFailure fileName fault = .fault fault := by
  rw [scanFailure, if_neg (mt (isStreamFault_iff _).mpr h)]

/-! ## Calculations -/

/-- What comes of assembler source when the transition may fail. -/
structure Interruptible (parser : Java.Parser) (step : FallibleStep) (dialect : Dialect)
    (source : List Char) (fileName : FileName) : Prop where
  /-- The requests that are written down are those of the calculation. -/
  observed : calculateWith step dialect dialect.language source fileName =
    ((observedScan step dialect (cleanLines source) fileName.shown).1.mapError
      (scanFailure fileName.shown)).map (assemblyReport dialect.language fileName)
  returns : (∃ result, calculateWith step dialect dialect.language source fileName = .ok result) ↔
    ∀ k fault, ¬ RaisesAt step dialect source k fault
  normal : (∀ k fault, ¬ RaisesAt step dialect source k fault) →
    calculateWith step dialect dialect.language source fileName =
        calculate parser dialect.language (CodePoint.ofChars source) fileName ∧
      (observedScan step dialect (cleanLines source) fileName.shown).2 =
        dialect.requests 0 .idle (cleanLines source) ++
          if (scanUnits dialect source).isEmpty then [.wholeScore] else []
  /-- The first line that fails is the last one that is fed, and its fault decides. -/
  interrupted : ∀ k fault, RaisesAt step dialect source k fault →
    (∀ j < k, ∀ other, ¬ RaisesAt step dialect source j other) →
      (observedScan step dialect (cleanLines source) fileName.shown).2 =
          dialect.requests 0 .idle ((cleanLines source).take (k + 1)) ∧
        (IsStreamFault fault.kind →
          calculateWith step dialect dialect.language source fileName =
            .error (.error (.calculation fileName.shown fault.text) (some fault.kind))) ∧
        (¬ IsStreamFault fault.kind →
          calculateWith step dialect dialect.language source fileName = .error (.fault fault))

theorem calculateWith_eq_observed (step : FallibleStep) (dialect : Dialect) (source : List Char)
    (fileName : FileName) :
    calculateWith step dialect dialect.language source fileName =
      ((observedScan step dialect (cleanLines source) fileName.shown).1.mapError
        (scanFailure fileName.shown)).map (assemblyReport dialect.language fileName) := by
  rw [calculateWith, unitsWith, observedScan_fst]

theorem calculateWith_of_silent (himitates : Imitates step dialect) {source : List Char}
    (h : ∀ k fault, ¬ RaisesAt step dialect source k fault) (parser : Java.Parser)
    (fileName : FileName) :
    calculateWith step dialect dialect.language source fileName =
      calculate parser dialect.language (CodePoint.ofChars source) fileName := by
  rw [calculateWith_eq_observed, observedScan_of_silent himitates h, calculate_eq]
  rfl

theorem calculateWith_of_raise (himitates : Imitates step dialect) {source : List Char} {k : Nat}
    {fault : Fault} (hraises : RaisesAt step dialect source k fault)
    (hfirst : ∀ j < k, ∀ other, ¬ RaisesAt step dialect source j other) (fileName : FileName) :
    calculateWith step dialect dialect.language source fileName =
      .error (scanFailure fileName.shown fault) := by
  rw [calculateWith_eq_observed, observedScan_of_raise himitates hraises hfirst]
  rfl

/-- A calculation whose transition may fail returns what it always does if no line fails, and fails
with the fault of the first failing line otherwise. Then no line after it is looked at, and the
source is not scored as a whole. -/
theorem calculateWith_interruptible (parser : Java.Parser) (step : FallibleStep)
    (dialect : Dialect) (himitates : Imitates step dialect) (source : List Char)
    (fileName : FileName) : Interruptible parser step dialect source fileName where
  observed := calculateWith_eq_observed step dialect source fileName
  returns := by
    constructor
    · rintro ⟨result, hresult⟩
      rcases silent_or_first step dialect source with hsilent | ⟨k, fault, hraises, hfirst⟩
      · exact hsilent
      · rw [calculateWith_of_raise himitates hraises hfirst] at hresult
        cases hresult
    · intro hsilent
      rw [calculateWith_of_silent himitates hsilent parser, calculate_eq]
      exact ⟨_, rfl⟩
  normal hsilent := by
    refine ⟨calculateWith_of_silent himitates hsilent parser fileName, ?_⟩
    rw [observedScan_of_silent himitates hsilent]
  interrupted k fault hraises hfirst := by
    have hfails := calculateWith_of_raise himitates hraises hfirst fileName
    refine ⟨?_, fun hstream => ?_, fun hother => ?_⟩
    · rw [observedScan_of_raise himitates hraises hfirst]
    · rw [hfails, scanFailure_of_stream hstream]
    · rw [hfails, scanFailure_of_other hother]

theorem imitates_failingAt (dialect : Dialect) (index : Nat) (fault : Fault) :
    Imitates (dialect.failingAt index fault) dialect := by
  intro i state line
  unfold Dialect.failingAt
  split
  · exact .inr ⟨fault, rfl⟩
  · exact .inl rfl

theorem eq_of_raisesAt_failingAt {index k : Nat} {fault other : Fault} {source : List Char}
    (h : RaisesAt (dialect.failingAt index fault) dialect source k other) : k = index := by
  obtain ⟨line, -, hstep⟩ := h
  unfold Dialect.failingAt at hstep
  split at hstep
  · omega
  · cases hstep

/-- The last of four lines fails, after one unit is closed and while another one is open. -/
theorem calculateWith_interrupted_at_end :
    let fault : Fault := ⟨.special "StreamError" (.io .general), "stream broke"⟩
    let source := "P PROC\nP ENDP\nQ PROC ; two\n\nje x".toList
    RaisesAt (Dialect.x86.failingAt 3 fault) .x86 source 3 fault ∧
      calculateWith (Dialect.x86.failingAt 3 fault) .x86 .x86 source "a.asm" =
        .error (.error (.calculation "a.asm" "stream broke") (some fault.kind)) := by
  intro fault source
  have hraises : RaisesAt (Dialect.x86.failingAt 3 fault) .x86 source 3 fault :=
    ⟨"je x".toList, by decide, rfl⟩
  have hfirst : ∀ j < 3, ∀ other,
      ¬ RaisesAt (Dialect.x86.failingAt 3 fault) .x86 source j other := by
    intro j hj other hraised
    have hindex := eq_of_raisesAt_failingAt hraised
    omega
  have himitates := imitates_failingAt .x86 3 fault
  have hinterruptible :=
    calculateWith_interruptible (Java.parse none) _ .x86 himitates source "a.asm"
  exact ⟨hraises,
    (hinterruptible.interrupted 3 fault hraises hfirst).2.1 (.special _ (.io _))⟩

end Cyclomatic.Assembly
