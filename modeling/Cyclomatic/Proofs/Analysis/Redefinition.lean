import Cyclomatic.Proofs.Assembly.Accounting
import Cyclomatic.Proofs.Java.Units
import Cyclomatic.Proofs.Report

/-! # Units that are defined more than once

Units come one after the other, each with its name and score. In a report a name stands at the place
of its first unit and has the score of its last one, and both decide which unit is shown as the most
complex: of the names with the greatest last score, the one that came first. -/

namespace Cyclomatic

open OrderedMap (IsLast)

/-- The place at which a name occurs first. -/
def firstPlace (units : List (String × Int)) (name : String) : Nat :=
  (units.map (·.1)).idxOf name

/-- What a report keeps of units that came one after the other, some of them under one name. -/
structure KeepsLast (units : List (String × Int)) (report : Report) : Prop where
  once : report.units.keys.Nodup
  names : ∀ name, name ∈ report.units.keys ↔ name ∈ units.map (·.1)
  /-- The names stand in the order in which they occurred first. -/
  order : report.units.keys.Pairwise fun a b => firstPlace units a < firstPlace units b
  /-- The scores are those that the names had last. -/
  scores : ∀ entry, entry ∈ report.units.entries ↔ IsLast units entry
  highest : units ≠ [] → IsLast units (report.mostComplexUnit, report.maxComplexity)
  greatest : ∀ entry, IsLast units entry → entry.2 ≤ report.maxComplexity
  /-- Of several names with the greatest score the one that occurred first is shown. -/
  earliest : ∀ entry, IsLast units entry → entry.2 = report.maxComplexity →
    firstPlace units report.mostComplexUnit ≤ firstPlace units entry.1

/-- A unit that scores as much as the one shown was recorded no earlier. -/
theorem firstPlace_le_of_firstHighest {units entries : List (String × Int)}
    {best entry : String × Int} (hbest : Report.FirstHighest entries best)
    (horder : (entries.map (·.1)).Pairwise fun a b => firstPlace units a < firstPlace units b)
    (hentry : entry ∈ entries) (hscore : entry.2 = best.2) :
    firstPlace units best.1 ≤ firstPlace units entry.1 := by
  obtain ⟨front, back, rfl, hfront, -⟩ := hbest
  rw [List.map_append, List.map_cons, List.pairwise_append] at horder
  obtain ⟨-, hback, -⟩ := horder
  rcases List.mem_append.mp hentry with hm | hm
  · exact absurd hscore (Int.ne_of_lt (hfront entry hm))
  · rcases List.mem_cons.mp hm with rfl | hm
    · exact Nat.le_refl _
    · exact Nat.le_of_lt (List.rel_of_pairwise_cons hback (List.mem_map_of_mem hm))

theorem keepsLast_of_units {units : List (String × Int)} {report : Report}
    (h : report.units = .ofList units) : KeepsLast units report := by
  have hscores (entry : String × Int) : entry ∈ report.units.entries ↔ IsLast units entry := by
    rw [h]
    exact OrderedMap.mem_entries_ofList units entry
  have horder : report.units.keys.Pairwise
      fun a b => firstPlace units a < firstPlace units b := by
    rw [h]
    exact OrderedMap.pairwise_keys_ofList units
  -- A last unit is a unit, so the table has a first entry with the greatest score.
  have hfirst {entry : String × Int} (hentry : IsLast units entry) :
      Report.FirstHighest report.units.entries (report.mostComplexUnit, report.maxComplexity) :=
    Report.firstHighest_of_units (List.ne_nil_of_mem ((hscores entry).mpr hentry))
  refine ⟨?_, ?_, horder, hscores, ?_, ?_, ?_⟩
  · rw [h]
    exact OrderedMap.nodup_keys_ofList units
  · intro name
    rw [h]
    exact OrderedMap.mem_keys_ofList units name
  · intro hne
    have hentries : report.units.entries ≠ [] := by
      rwa [h, Ne, OrderedMap.entries_ofList_eq_nil_iff]
    exact (hscores _).mp (Report.firstHighest_of_units hentries).mem
  · intro entry hentry
    exact (hfirst hentry).le ((hscores entry).mpr hentry)
  · intro entry hentry hscore
    exact firstPlace_le_of_firstHighest (hfirst hentry) horder ((hscores entry).mpr hentry) hscore

/-- The report of an assembler source in which a unit was found, and the report of a syntax tree,
keep of all units that were finalized the last of each name, at the place of the first. -/
theorem report_keepsLast (parser : Java.Parser) :
    (∀ (dialect : Assembly.Dialect) (source : List Char) (fileName : FileName),
      dialect.finalized .idle (Assembly.cleanLines source) ≠ [] →
      ∃ report records,
        calculate parser dialect.language (CodePoint.ofChars source) fileName =
          .ok (report, records) ∧
        KeepsLast ((dialect.finalized .idle (Assembly.cleanLines source)).map
          Assembly.ClosedUnit.entry) report) ∧
    ∀ (tree : Node) (fileName : FileName),
      ∃ report records, javaOutcome fileName (.ok tree) = .ok (report, records) ∧
        KeepsLast ((Java.unitNodes tree).map Java.entryOf) report := by
  constructor
  · intro dialect source fileName hfound
    refine ⟨_, _, Assembly.calculate_eq parser dialect source fileName, keepsLast_of_units ?_⟩
    have hscan := Assembly.scanUnits_eq_ofList dialect source
    have hunits := Assembly.unitsAndRemarks_fst dialect source fileName.shown
    have hfull : ¬ (Assembly.scanUnits dialect source).isEmpty = true := by
      rw [hscan, OrderedMap.isEmpty, List.isEmpty_iff, OrderedMap.entries_ofList_eq_nil_iff,
        List.map_eq_nil_iff]
      exact hfound
    rw [if_neg hfull, hscan] at hunits
    exact hunits
  · intro tree fileName
    exact ⟨_, _, rfl, keepsLast_of_units (Java.unitsOf_eq_ofList tree)⟩

/-- The unit `f` loses its lead when it is defined again, and is still the first of the two. -/
theorem report_keepsLast_of_redefinition :
    ∃ report records,
      calculate (Java.parse none) .x86
          (CodePoint.ofChars "f PROC\nJE a\nJE b\ng PROC\nJE c\nf PROC\nJE d".toList) "f.asm" =
        .ok (report, records) ∧
      KeepsLast [("f", 3), ("g", 2), ("f", 2)] report :=
  (report_keepsLast (Java.parse none)).1 .x86
    "f PROC\nJE a\nJE b\ng PROC\nJE c\nf PROC\nJE d".toList "f.asm" (by decide)

end Cyclomatic
