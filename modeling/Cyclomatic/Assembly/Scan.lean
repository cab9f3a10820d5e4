import Cyclomatic.Assembly.Unit
import Cyclomatic.Error

/-!
# Scanning assembler source

The units of a source text are those that the transitions close, and the one that is still open at
the end. A source without units is one unit as a whole.
-/

namespace Cyclomatic.Assembly

/-- What a scan has to remark. -/
inductive ScanRemark where
  /-- A transition's remark. -/
  | step (remark : Remark)
  /-- A unit of the same name was recorded before. -/
  | redefined (name : String)
  /-- A label was still a candidate at the end. -/
  | discarded (name : String)
  /-- No unit was found, and the source as a whole has this score. -/
  | wholeFile (fileName : String) (score : Int)
deriving DecidableEq, Repr

/-- A scan on its way: the state, the units recorded so far, and the remarks in reverse order. -/
structure Progress where
  state : UnitState
  units : UnitTable
  remarks : List ScanRemark
deriving DecidableEq, Repr

namespace Progress

/-- Before the first line. -/
def start : Progress := ⟨.idle, .empty, []⟩

/-- Records a finished unit. The later of two units of one name counts. -/
def record (progress : Progress) (unit : ClosedUnit) : Progress :=
  { progress with
    units := progress.units.insert unit.name unit.score
    remarks :=
      if progress.units.contains unit.name then .redefined unit.name :: progress.remarks
      else progress.remarks }

/-- Takes over the outcome of one line. -/
def advance (progress : Progress) (step : Step) : Progress :=
  let noted :=
    match step.remark with
    | some remark => { progress with remarks := .step remark :: progress.remarks }
    | none => progress
  let recorded :=
    match step.closed with
    | some unit => noted.record unit
    | none => noted
  { recorded with state := step.state }

/-- After the last line: an open unit is recorded, a candidate is discarded. -/
def finish (progress : Progress) : Progress :=
  match progress.state with
  | .opened name score => progress.record ⟨name, score⟩
  | .candidate name _ => { progress with remarks := .discarded name :: progress.remarks }
  | .idle => progress

end Progress

/-- Scans lines. -/
def scan (dialect : Dialect) (lines : List (List Char)) : Progress :=
  (lines.foldl (fun (p : Progress) line => p.advance (dialect.step p.state line)) .start).finish

/-- The units of a source text. -/
def scanUnits (dialect : Dialect) (source : List Char) : UnitTable :=
  (scan dialect (cleanLines source)).units

/-- The score of a source text taken as one unit. -/
def globalScore (dialect : Dialect) (lines : List (List Char)) : Int :=
  1 + ((lines.map dialect.points).foldr (· + ·) 0 : Nat)

/-- The name under which a source without units is reported. -/
def globalUnit : String := "_global_"

/-- The units that a scan has found, and all remarks in order. -/
def Progress.found (progress : Progress) : UnitTable × List ScanRemark :=
  (progress.units, progress.remarks.reverse)

/-- The one unit of a source without units, given its score, and all remarks in order. -/
def Progress.whole (progress : Progress) (fileName : String) (score : Int) :
    UnitTable × List ScanRemark :=
  (progress.units.insert globalUnit score, (.wholeFile fileName score :: progress.remarks).reverse)

/-- The units that are reported after a scan of `lines`, and all remarks in order. -/
def Progress.result (progress : Progress) (dialect : Dialect) (lines : List (List Char))
    (fileName : String) : UnitTable × List ScanRemark :=
  if progress.units.isEmpty then progress.whole fileName (globalScore dialect lines)
  else progress.found

/-- The units reported for a source text and the remarks made on the way. -/
def unitsAndRemarks (dialect : Dialect) (source : List Char) (fileName : String) :
    UnitTable × List ScanRemark :=
  let lines := cleanLines source
  (scan dialect lines).result dialect lines fileName

/-! ## Scanning with a transition that has effects -/

/-- A transition with effects; it is told the number of the line, counted from zero. -/
abbrev StepIn (m : Type → Type) := Nat → UnitState → List Char → m Step

/-- A transition that may fail. -/
abbrev FallibleStep := StepIn (Except Fault)

/-- A transition that fails at line `at` and is otherwise that of a dialect. -/
def Dialect.failingAt (dialect : Dialect) (index : Nat) (fault : Fault) : FallibleStep :=
  fun i state line => if i = index then .error fault else .ok (dialect.step state line)

/-- Feeds lines, of which the first has number `index`, one after the other. -/
def feed {m : Type → Type} [Monad m] (step : StepIn m) (index : Nat) (progress : Progress) :
    List (List Char) → m Progress
  | [] => pure progress
  | line :: rest => do
      let outcome ← step index progress.state line
      feed step (index + 1) (progress.advance outcome) rest

/-- Scans lines and asks for the score of the whole source if there is no unit on them. -/
def scanIn {m : Type → Type} [Monad m] (step : StepIn m) (score : m Int)
    (lines : List (List Char)) (fileName : String) : m (UnitTable × List ScanRemark) := do
  let last ← feed step 0 Progress.start lines
  let progress := last.finish
  if progress.units.isEmpty then
    return progress.whole fileName (← score)
  else
    return progress.found

/-- Whether a scan turns a fault of this kind into an error: a fault of reading, of decoding or of
a value does, every other comes out as it is. -/
def interruptsScan (kind : FaultKind) : Bool :=
  match kind.base with
  | .io _ | .invalidValue | .undecodable | .encoding | .document => true
  | _ => false

/-- How a scan of the file `fileName` fails on a fault. -/
def scanFailure (fileName : String) (fault : Fault) : Failure :=
  if interruptsScan fault.kind then
    .error (.calculation fileName fault.message) (some fault.kind)
  else .fault fault

/-- The units reported for a source text when transitions may fail. -/
def unitsWith (step : FallibleStep) (dialect : Dialect) (source : List Char) (fileName : String) :
    Except Failure (UnitTable × List ScanRemark) :=
  let lines := cleanLines source
  (scanIn step (.ok (globalScore dialect lines)) lines fileName).mapError (scanFailure fileName)

end Cyclomatic.Assembly
