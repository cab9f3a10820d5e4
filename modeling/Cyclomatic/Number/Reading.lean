import Cyclomatic.Text.Blank
import Cyclomatic.Text.Case
import Cyclomatic.Text.Digit
import Cyclomatic.Text.Quoted

/-!
# Reading numbers

Numbers written in a text: an optional sign, decimal digits of any script with single underscores
between them, and blanks around the whole. A fraction and an exponent, or the words for infinity
and for an undefined number, make it a floating point number.
-/

namespace Cyclomatic.Number

open Text

/-- Blanks that may surround a number. The information separators are not among them. -/
def isPadding (c : Char) : Bool :=
  isBlank c && !(28 ≤ c.toNat && c.toNat ≤ 31)

/-- A text without the padding around it. -/
def trimPadding (cs : List Char) : List Char :=
  dropWhileEnd isPadding (cs.dropWhile isPadding)

/-- Splits off a sign: whether it is a minus sign, and the rest. -/
def takeSign : List Char → Bool × List Char
  | '+' :: rest => (false, rest)
  | '-' :: rest => (true, rest)
  | rest => (false, rest)

/-- Reads digits after those with the values `done`, which is in reverse order. One underscore may
stand before a further digit. -/
def takeDigitsOnto (done : List Nat) : List Char → List Nat × List Char
  | [] => (done.reverse, [])
  | '_' :: c :: rest =>
      match digitValue? c, done with
      | some d, _ :: _ => takeDigitsOnto (d :: done) rest
      | _, _ => (done.reverse, '_' :: c :: rest)
  | c :: rest =>
      match digitValue? c with
      | some d => takeDigitsOnto (d :: done) rest
      | none => (done.reverse, c :: rest)

/-- The digits at the front of a text and the rest. -/
def takeDigits (cs : List Char) : List Nat × List Char :=
  takeDigitsOnto [] cs

/-- The value of digits. -/
def ofDigits (digits : List Nat) : Nat :=
  digits.foldl (fun n d => n * 10 + d) 0

/-- Why a text is no number. -/
inductive Refusal where
  /-- It is no integer. -/
  | notInteger (text : String)
  /-- It is an integer with more digits than are accepted. -/
  | tooManyDigits (count : Nat)
  /-- It is no floating point number. -/
  | notFloat (text : String)
deriving DecidableEq, Repr

/-- The most digits that an integer in a text may have. -/
def maxDigits : Nat := 4300

/-- The message of a refusal. At most two hundred characters of a quoted text are shown for an
integer. -/
def Refusal.message : Refusal → String
  | .notInteger text =>
      "invalid literal for int() with base 10: " ++
        String.ofList ((quoted text).toList.take 200)
  | .tooManyDigits count =>
      s!"Exceeds the limit ({maxDigits} digits) for integer string conversion: value has " ++
        s!"{count} digits; use sys.set_int_max_str_digits() to increase the limit"
  | .notFloat text => "could not convert string to float: " ++ quoted text

/-- Reads an integer. -/
def readInt (text : String) : Except Refusal Int :=
  let (negative, body) := takeSign (trimPadding text.toList)
  let (digits, rest) := takeDigits body
  let brokenOff := rest.head? == some '_'
  if digits.isEmpty || brokenOff then .error (.notInteger text)
  else if maxDigits < digits.length then .error (.tooManyDigits digits.length)
  else if !rest.isEmpty then .error (.notInteger text)
  else
    let value : Int := ofDigits digits
    .ok (if negative then -value else value)

/-- The floating point number nearest to `digits · 10^exponent`. Where the exponent alone decides,
it is cut down to a size at which it still does. -/
def floatOfDecimal (negative : Bool) (digits : Nat) (exponent : Int) : Float :=
  let size : Int := (Nat.toDigits 10 digits).length
  let value :=
    if digits == 0 then 0.0
    else if 400 < exponent + size then 1.0 / 0.0
    else if exponent + size < -400 then 0.0
    else Float.ofScientific digits (exponent < 0) exponent.natAbs
  if negative then -value else value

/-- The words for numbers that have no digits. -/
def specialFloat? (negative : Bool) (word : List Char) : Option Float :=
  let infinity := 1.0 / 0.0
  match String.ofList (word.map Char.toLower) with
  | "inf" | "infinity" => some (if negative then -infinity else infinity)
  | "nan" => some (0.0 / 0.0)
  | _ => none

/-- Reads the exponent of a floating point number; there may be none. -/
def takeExponent? (cs : List Char) : Option (Int × List Char) :=
  match cs with
  | c :: rest =>
      if c == 'e' || c == 'E' then
        let (negative, body) := takeSign rest
        match takeDigits body with
        | ([], _) => none
        | (digits, after) =>
            let value : Int := ofDigits digits
            some (if negative then -value else value, after)
      else some (0, cs)
  | [] => some (0, [])

/-- The digits before a point and those after it at the front of a text, and the rest. There may be
no point. -/
def takePlain (cs : List Char) : List Nat × List Nat × List Char :=
  let (whole, rest) := takeDigits cs
  match rest with
  | '.' :: after =>
      let (fraction, rest) := takeDigits after
      (whole, fraction, rest)
  | _ => (whole, [], rest)

/-- Reads a floating point number. -/
def readFloat (text : String) : Except Refusal Float :=
  let (negative, body) := takeSign (trimPadding text.toList)
  match specialFloat? negative body with
  | some value => .ok value
  | none =>
      let (whole, fraction, rest) := takePlain body
      match takeExponent? rest with
      | some (exponent, []) =>
          if whole.isEmpty && fraction.isEmpty then .error (.notFloat text)
          else .ok (floatOfDecimal negative (ofDigits (whole ++ fraction))
            (exponent - fraction.length))
      | _ => .error (.notFloat text)

end Cyclomatic.Number
