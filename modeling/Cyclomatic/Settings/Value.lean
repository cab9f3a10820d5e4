import Cyclomatic.Number
import Cyclomatic.Path

/-!
# Values given for settings

A setting may come from a settings file, from the environment or from a caller, so that a value of
any type may be given where a number or a text is expected.
-/

namespace Cyclomatic

/-- A value of any type. -/
inductive Value where
  /-- No value. -/
  | null
  | bool (b : Bool)
  | int (n : Int)
  | float (x : Float)
  | text (s : String)
  | list (items : List Value)
  | table (entries : List (String × Value))
  /-- A day of the calendar. -/
  | date
  /-- A day and a time of day. -/
  | dateTime
  /-- A time of day. -/
  | time
  | bytes (content : List UInt8)
  | path (path : Path)

instance : Inhabited Value := ⟨.null⟩

namespace Value

/-- The name of a value's type in messages. -/
def typeName : Value → String
  | .null => "NoneType"
  | .bool _ => "bool"
  | .int _ => "int"
  | .float _ => "float"
  | .text _ => "str"
  | .list _ => "list"
  | .table _ => "dict"
  | .date => "datetime.date"
  | .dateTime => "datetime.datetime"
  | .time => "datetime.time"
  | .bytes _ => "bytes"
  | .path _ => "PosixPath"

/-- The number that a value is. -/
def number? : Value → Option Number
  | .bool b => some (.bool b)
  | .int n => some (.int n)
  | .float x => some (.float x)
  | _ => none

/-- The text that a value is. -/
def text? : Value → Option String
  | .text s => some s
  | _ => none

/-- Whether a value counts as set: no value, zero and what is empty do not. -/
def isSet : Value → Bool
  | .null => false
  | .bool b => b
  | .int n => n != 0
  | .float x => x != 0
  | .text s => s != ""
  | .list items => !items.isEmpty
  | .table entries => !entries.isEmpty
  | .bytes content => !content.isEmpty
  | .date | .dateTime | .time | .path _ => true

end Value

end Cyclomatic
