import Cyclomatic.FileName
import Cyclomatic.Number.Writing
import Cyclomatic.OrderedMap

/-!
# Reports

The scores of one file with the figures that summarize them, and the ranked text report.
-/

namespace Cyclomatic

/-- The scores of one file. -/
structure Report where
  fileName : FileName
  language : String
  units : UnitTable
deriving DecidableEq, Repr

namespace Report

/-- Units that score above this are flagged unless another threshold is given. -/
def defaultThreshold : Number := .int 10

/-- The number of units. -/
def unitCount (report : Report) : Nat :=
  report.units.size

/-- The sum of all scores. -/
def totalComplexity (report : Report) : Int :=
  (report.units.entries.map (·.2)).foldr (· + ·) 0

/-- The first entry with the greatest score, `best` if none has a greater one. -/
def highestOf (best : String × Int) : List (String × Int) → String × Int
  | [] => best
  | entry :: rest => highestOf (if best.2 < entry.2 then entry else best) rest

/-- The unit with the greatest score, the first one if there are several. -/
def highest? (report : Report) : Option (String × Int) :=
  match report.units.entries with
  | [] => none
  | entry :: rest => some (highestOf entry rest)

/-- The greatest score, zero if there are no units. -/
def maxComplexity (report : Report) : Int :=
  (report.highest?.map (·.2)).getD 0

/-- The name of the unit with the greatest score. -/
def mostComplexUnit (report : Report) : String :=
  (report.highest?.map (·.1)).getD "N/A"

/-- The units by falling score. Units of equal score keep their order. -/
def ranked (report : Report) : List (String × Int) :=
  report.units.entries.mergeSort fun a b => b.2 ≤ a.2

/-- The units that score above a threshold, by falling score. -/
def unitsAbove (report : Report) (threshold : Number) : List String :=
  (report.ranked.filter fun entry => threshold.below entry.2).map (·.1)

/-- What marks a unit above the threshold. -/
def warningMarker : String := " ⚠️"

/-- The line of the text report for one unit. -/
def unitLine (threshold : Number) (entry : String × Int) : String :=
  let marker := if threshold.below entry.2 then warningMarker else ""
  s!"  {entry.1}: {entry.2}" ++ marker

/-- The lines of the text report. -/
def summaryLines (report : Report) (threshold : Number) : List String := [
    s!"File: {report.fileName.shown} ({report.language})",
    s!"Total Functions: {report.unitCount}",
    s!"Total Complexity: {report.totalComplexity}",
    s!"Max Complexity: {report.maxComplexity} in {report.mostComplexUnit}",
    "",
    "Function Complexities:"] ++
  report.ranked.map (unitLine threshold)

/-- The integers that every form of the report shows. -/
def figures (report : Report) : List Int :=
  (report.unitCount : Int) :: report.totalComplexity :: report.maxComplexity ::
    report.units.entries.map (·.2)

/-- The text report. Every line ends with a line feed. -/
def summary (report : Report) (threshold : Number) : Except Fault String :=
  withFigures report.figures (String.join ((report.summaryLines threshold).map (· ++ "\n")))

end Report

end Cyclomatic
