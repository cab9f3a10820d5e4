import Cyclomatic.Language
import Cyclomatic.Render.Json
import Cyclomatic.Render.Screen
import Cyclomatic.Settings

/-!
# Reports in their three forms

A report is shown as a panel and a table, as JSON or as plain text.
-/

namespace Cyclomatic

/-! ## Panels and tables -/

/-- A score in a colour that says how it compares with the threshold: above twice of it, above it,
above half of it, or not even that. -/
def scoreLabel (score : Int) (threshold : Number) : String :=
  let style :=
    if threshold.double.below score then "red bold"
    else if threshold.below score then "red"
    else if threshold.half.below score then "yellow"
    else "green"
  Markup.styled style (toString score)

namespace Report

variable (screen : Screen) (report : Report) (threshold : Number)

/-- The line of a panel that counts the units above the threshold. -/
def flaggedLine : String :=
  Markup.styled "red" s!"{(report.unitsAbove threshold).length} unit(s) above {threshold.text}"

/-- The line of a panel with the figures of a report. -/
def figuresLine : String :=
  let units := Markup.styled "bold" (toString report.unitCount)
  let total := Markup.styled "bold" (toString report.totalComplexity)
  let label := scoreLabel report.maxComplexity threshold
  let unit := Markup.styled "cyan" (screen.escape report.mostComplexUnit)
  s!"Units: {units}   Total complexity: {total}   Max: {label} in {unit}"

/-- The integers that a panel shows: those of the figures, and the threshold if units are counted
that are above it. -/
def panelFigures : List Int :=
  let figures := [(report.unitCount : Int), report.totalComplexity, report.maxComplexity]
  if (report.unitsAbove threshold).isEmpty then figures else figures ++ threshold.integers

/-- The figures of a report, and how many units are above the threshold if any are. -/
def panelBody : Except Fault String :=
  withFigures (report.panelFigures threshold)
    (if (report.unitsAbove threshold).isEmpty then report.figuresLine screen threshold
    else report.figuresLine screen threshold ++ "\n" ++ report.flaggedLine threshold)

/-- The title of a panel. Bytes are no name that markup could be made of. -/
def panelTitle : Except Fault String :=
  match report.fileName with
  | .text name =>
      .ok (Markup.styled "bold" (screen.escape name) ++ s!" ({report.language})")
  | .bytes _ => .error ⟨.typeMismatch, "cannot use a string pattern on a bytes-like object"⟩

/-- The panel of a report. -/
def panel : Except Fault Panel := do
  let body ← report.panelBody screen threshold
  let title ← report.panelTitle screen
  .ok { title, body }

/-- The row of a unit, of which `index` others score higher. -/
def tableRow (unit : (String × Int) × Nat) : List String :=
  [toString (unit.2 + 1), screen.escape unit.1.1, scoreLabel unit.1.2 threshold]

/-- The table of the units by falling score. -/
def table : Except Fault Table :=
  withFigures ((report.unitCount : Int) :: report.ranked.map (·.2)) {
    columns := [⟨"#", .right⟩, ⟨"Unit", .left⟩, ⟨"Complexity", .right⟩]
    rows := report.ranked.zipIdx.map (tableRow screen threshold) }

/-- The report as a panel and, if there are units, a table. -/
def rich : Except Fault String := do
  let panel ← report.panel screen threshold
  if report.unitCount == 0 then .ok (screen.panel panel)
  else
    let table ← report.table screen threshold
    .ok (screen.panel panel ++ screen.table table)

/-- The report as JSON. -/
def json : Except Fault String := do
  let members ← report.toJson threshold
  members.render

/-- The report in a form. -/
def format (form : OutputFormat) : Except Fault String :=
  match form with
  | .rich => report.rich screen threshold
  | .json => report.json threshold
  | .text => report.summary threshold

/-- What is printed to show the report in a form. -/
def printed (form : OutputFormat) : Except Fault String :=
  match form with
  | .json => (report.format screen threshold form).map (· ++ "\n")
  | _ => report.format screen threshold form

end Report

/-- The form that a name stands for. -/
def formatNamed (name : String) : Except Fault OutputFormat :=
  match OutputFormat.ofWord? name with
  | some form => .ok form
  | none =>
      .error ⟨.invalidValue,
        s!"Unknown formatter: {Text.quoted name}. Choose from: json, rich, text"⟩

/-- The table of all languages. -/
def languageTable : Table where
  columns := [{ head := "Key" }, { head := "Language" }, { head := "Extensions" }]
  rows := Language.all.map fun language =>
    [language.key, language.displayName, ", ".intercalate language.extensions]

end Cyclomatic
