import Cyclomatic.Number.Binary

/-!
# Numbers of settings

A setting that counts something may be given as an integer, as a truth value, which counts as one
or zero, or as a floating point number. It is shown in the form in which it was given.
-/

namespace Cyclomatic

/-- A number as it was given. -/
inductive Number where
  | int (n : Int)
  | bool (b : Bool)
  | float (x : Float)

namespace Number

/-- The text of a number. -/
def text : Number → String
  | .int n => toString n
  | .bool true => "True"
  | .bool false => "False"
  | .float x =>
      match Binary.ofFloat? x with
      | some b => b.text
      | none => if x != x then "nan" else if x < 0 then "-inf" else "inf"

/-- The greatest integer that is not above the number. -/
inductive Floor where
  | finite (n : Int)
  | infinite
  | negInfinite
  | undefined

/-- Rounds a number downwards. -/
def floor : Number → Floor
  | .int n => .finite n
  | .bool b => .finite b.toInt
  | .float x =>
      match Binary.ofFloat? x with
      | some b => .finite b.floor
      | none => if x != x then .undefined else if x < 0 then .negInfinite else .infinite

/-- Whether an integer is greater than the number. None is greater than an undefined number. -/
def below (limit : Number) (n : Int) : Bool :=
  match limit.floor with
  | .finite m => m < n
  | .negInfinite => true
  | .infinite | .undefined => false

/-- Whether the number is less than an integer. -/
def lessThan (number : Number) (n : Int) : Bool :=
  match number.floor with
  | .finite m => m < n
  | .negInfinite => true
  | .infinite | .undefined => false

/-- Whether the number is at most zero. -/
def notPositive : Number → Bool
  | .int n => n ≤ 0
  | .bool b => !b
  | .float x => x ≤ 0

/-- Twice the number. -/
def double : Number → Number
  | .int n => .int (2 * n)
  | .bool b => .int (2 * b.toInt)
  | .float x => .float (x * 2)

/-- Half of the number, rounded downwards. -/
def half : Number → Number
  | .int n => .int (n.fdiv 2)
  | .bool b => .int (b.toInt.fdiv 2)
  | .float x => .float (Float.floor (x / 2))

/-- Why a number is no integer. -/
inductive NoInteger where
  | infinite
  | undefined
deriving DecidableEq, Repr

/-- Rounds a number towards zero. -/
def truncate : Number → Except NoInteger Int
  | .int n => .ok n
  | .bool b => .ok b.toInt
  | .float x =>
      match Binary.ofFloat? x with
      | some b => .ok b.truncate
      | none => .error (if x != x then .undefined else .infinite)

/-- The number of bytes in this many megabytes, rounded towards zero. -/
def megabytes : Number → Except NoInteger Int
  | .int n => .ok (n * 1024 * 1024)
  | .bool b => .ok (b.toInt * 1024 * 1024)
  | .float x => (Number.float (x * 1024 * 1024)).truncate

end Number

end Cyclomatic
