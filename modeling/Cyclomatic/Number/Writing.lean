import Cyclomatic.Error
import Cyclomatic.Number
import Cyclomatic.Number.Reading

/-!
# Numbers that can be written

An integer with too many decimal digits cannot be written. A text with several figures is not
written at all if one of them cannot be.
-/

namespace Cyclomatic

/-- Whether an integer has few enough digits to be written. -/
def isWritable (n : Int) : Bool :=
  (Nat.toDigits 10 n.natAbs).length ≤ Number.maxDigits

/-- The integers that are written when a number is: itself, if it is one. -/
def Number.integers : Number → List Int
  | .int n => [n]
  | .bool _ | .float _ => []

/-- The fault of an integer that has too many digits to be written. -/
def tooLong : Fault where
  kind := .invalidValue
  text := s!"Exceeds the limit ({Number.maxDigits} digits) for integer string conversion; " ++
    "use sys.set_int_max_str_digits() to increase the limit"

/-- What is written with some figures in it, if all of them can be written. -/
def withFigures {α : Type} (figures : List Int) (written : α) : Except Fault α :=
  if figures.all isWritable then .ok written else .error tooLong

end Cyclomatic
