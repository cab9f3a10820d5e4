import Cyclomatic.Report
import Cyclomatic.Text.Quoted

/-!
# JSON reports

A report as a JSON object, two spaces to a level. Everything that is not printable ASCII is escaped,
so that the text is the same in every encoding.
-/

namespace Cyclomatic

/-- The JSON values that reports are made of. -/
inductive Json where
  | int (n : Int)
  | text (s : String)
  | list (items : List Json)
  | object (entries : List (String × Json))

namespace Json

/-! ## Strings -/

/-- The escape of one unit of two bytes. -/
def escapeUnit (n : Nat) : List Char :=
  '\\' :: 'u' :: Text.hexDigits 4 n

/-- The escape of a character by its code point; one beyond the first plane is a pair of units. -/
def escapeCode (n : Nat) : List Char :=
  if n < 0x10000 then escapeUnit n
  else
    let rest := n - 0x10000
    escapeUnit (0xD800 + rest / 0x400) ++ escapeUnit (0xDC00 + rest % 0x400)

/-- A character inside a string. -/
def escapeChar (c : Char) : List Char :=
  if c = '"' then ['\\', '"']
  else if c = '\\' then ['\\', '\\']
  else if c = '\n' then ['\\', 'n']
  else if c = '\r' then ['\\', 'r']
  else if c = '\t' then ['\\', 't']
  else if c = '\x0C' then ['\\', 'f']
  else if c = '\x08' then ['\\', 'b']
  else if 32 ≤ c.toNat && c.toNat < 127 then [c]
  else escapeCode c.toNat

/-- A string with its quotes. -/
def quote (s : String) : List Char :=
  '"' :: s.toList.flatMap escapeChar ++ ['"']

/-! ## Values -/

/-- A line end and the indentation of a level. -/
def newLine (level : Nat) : List Char :=
  '\n' :: List.replicate (2 * level) ' '

/-- Parts between brackets, each on a line of its own. -/
def enclose (opening closing : Char) (level : Nat) (parts : List (List Char)) : List Char :=
  if parts.isEmpty then [opening, closing]
  else
    let inner := newLine (level + 1)
    opening :: inner ++ List.intercalate (',' :: inner) parts ++ newLine level ++ [closing]

mutual

/-- Writes a value at a level of indentation. -/
def write (level : Nat) : Json → List Char
  | .int n => (toString n).toList
  | .text s => quote s
  | .list items => enclose '[' ']' level (writeItems (level + 1) items)
  | .object entries => enclose '{' '}' level (writeEntries (level + 1) entries)

/-- Writes the items of a list. -/
def writeItems (level : Nat) : List Json → List (List Char)
  | [] => []
  | item :: items => write level item :: writeItems level items

/-- Writes the entries of an object. -/
def writeEntries (level : Nat) : List (String × Json) → List (List Char)
  | [] => []
  | (key, value) :: entries =>
      (quote key ++ [':', ' '] ++ write level value) :: writeEntries level entries

end

mutual

/-- The integers in a value. -/
def integers : Json → List Int
  | .int n => [n]
  | .text _ => []
  | .list items => integersOfItems items
  | .object entries => integersOfEntries entries

/-- The integers in the items of a list. -/
def integersOfItems : List Json → List Int
  | [] => []
  | item :: items => item.integers ++ integersOfItems items

/-- The integers in the entries of an object. -/
def integersOfEntries : List (String × Json) → List Int
  | [] => []
  | entry :: entries => entry.2.integers ++ integersOfEntries entries

end

/-- The text of a value. -/
def render (json : Json) : Except Fault String :=
  withFigures json.integers (String.ofList (json.write 0))

end Json

/-- A file name in JSON, where bytes have no form. -/
def FileName.toJson : FileName → Except Fault Json
  | .text s => .ok (.text s)
  | .bytes _ => .error ⟨.typeMismatch, "Object of type bytes is not JSON serializable"⟩

/-- A report as a JSON object. -/
def Report.toJson (report : Report) (threshold : Number) : Except Fault Json := do
  let fileName ← report.fileName.toJson
  .ok (.object [
    ("file_name", fileName),
    ("language", .text report.language),
    ("unit_count", .int report.unitCount),
    ("total_complexity", .int report.totalComplexity),
    ("max_complexity", .int report.maxComplexity),
    ("most_complex_unit", .text report.mostComplexUnit),
    ("units", .object (report.units.entries.map fun entry => (entry.1, .int entry.2))),
    ("over_threshold", .list ((report.unitsAbove threshold).map .text))])

end Cyclomatic
