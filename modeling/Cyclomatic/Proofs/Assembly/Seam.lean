import Cyclomatic.Proofs.Assembly.Trace
import Cyclomatic.Proofs.Text.Lines

/-! # Source put together from two parts

Where the second part starts with a directive that opens a unit, the directive closes what the first
part left open, and the end of the first part alone would have done the same. So the table of the
whole is the table of the first part, updated with that of the second. -/

namespace Cyclomatic.Assembly

open Text

/-- The name on a line that opens a unit by a directive. -/
def Dialect.opens? : Dialect → List Char → Option String
  | .x86 => x86Open?
  | .mos6502 => mos6502Open?

/-- A directive that opens a unit closes an open one, gives a pending label up and starts afresh. -/
theorem Dialect.resets_of_opens {dialect : Dialect} {line : List Char}
    (h : (dialect.opens? line).isSome = true) : dialect.Resets line := by
  obtain ⟨name, hname⟩ := Option.isSome_iff_exists.mp h
  intro state
  cases dialect with
  | x86 =>
      have ho : x86Open? line = some name := hname
      simp [step, x86Step, ho]
  | mos6502 =>
      have ho : mos6502Open? line = some name := hname
      simp [step, mos6502Step, ho]

theorem cleanLines_append {front : List Char} (hf : Terminated front) (back : List Char) :
    cleanLines (front ++ back) = cleanLines front ++ cleanLines back :=
  filterMap_sourceLines_append cleanLine? rfl hf back

theorem scanUnits_eq_ofList (dialect : Dialect) (source : List Char) :
    scanUnits dialect source =
      .ofList ((dialect.finalized .idle (cleanLines source)).map ClosedUnit.entry) :=
  scan_units dialect (cleanLines source)

theorem scanUnits_append {dialect : Dialect} {front back line : List Char}
    (hf : Terminated front) (hline : line ∈ (cleanLines back).head?)
    (ho : (dialect.opens? line).isSome = true) :
    scanUnits dialect (front ++ back) =
      (scanUnits dialect front).insertAll (scanUnits dialect back).entries := by
  obtain ⟨rest, hback⟩ := List.head?_eq_some_iff.mp hline
  have hrun : dialect.finalized .idle (cleanLines (front ++ back)) =
      dialect.finalized .idle (cleanLines front) ++
        dialect.finalized .idle (cleanLines back) := by
    rw [cleanLines_append hf, hback]
    exact dialect.finalized_append_of_resets (Dialect.resets_of_opens ho) _ _ _
  simp only [scanUnits_eq_ofList, hrun, List.map_append, OrderedMap.insertAll_entries_ofList]
  exact OrderedMap.insertAll_append _ _ _

/-- The end of the input agrees with a directive that follows. In the table of the whole a unit of
the first part keeps its place, with the new score if the second part has it too, and the other
units of the second part come after it. -/
theorem scanUnits_append_of_opens (dialect : Dialect) (front back line : List Char)
    (hf : Terminated front) (hline : line ∈ (cleanLines back).head?)
    (ho : (dialect.opens? line).isSome = true) :
    scanUnits dialect (front ++ back) =
        (scanUnits dialect front).insertAll (scanUnits dialect back).entries ∧
      (scanUnits dialect (front ++ back)).keys =
        (scanUnits dialect front).keys ++
          (scanUnits dialect back).keys.filter (fun name => name ∉ (scanUnits dialect front).keys) ∧
      ∀ name, (scanUnits dialect (front ++ back)).get? name =
        ((scanUnits dialect back).get? name).or ((scanUnits dialect front).get? name) := by
  have hnodup : (scanUnits dialect back).keys.Nodup := by
    rw [scanUnits_eq_ofList]
    exact OrderedMap.nodup_keys_ofList _
  rw [scanUnits_append hf hline ho]
  exact ⟨rfl, OrderedMap.keys_insertAll _ _ hnodup,
    fun name => OrderedMap.get?_insertAll _ _ name hnodup⟩

/-- A cut between the two characters of a terminator, with a unit open before it that the second
part has again. -/
theorem scanUnits_append_at_crlf :
    Terminated "f PROC\nJE x\ng PROC\r".toList ∧
      scanUnits .x86 ("f PROC\nJE x\ng PROC\r".toList ++ "\nf PROC".toList) =
        (⟨[("f", 2), ("g", 1)]⟩ : UnitTable).insertAll [("f", 1)] := by
  refine ⟨Or.inr (Or.inr rfl), ?_⟩
  exact (scanUnits_append_of_opens .x86 _ _ "f PROC".toList (Or.inr (Or.inr rfl)) (by decide)
    (by decide)).1

end Cyclomatic.Assembly
