/-!
# Binary fractions

A finite floating point number is an integer times a power of two. From that form it is compared
with integers, rounded to integers and written in decimal without any loss.
-/

namespace Cyclomatic

/-- A power of two. -/
def twoTo (exponent : Nat) : Nat := Nat.pow 2 exponent

/-- A power of ten. -/
def tenTo (exponent : Nat) : Nat := Nat.pow 10 exponent

/-- The number `(-1)^negative · mantissa · 2^exponent`. -/
structure Binary where
  negative : Bool
  mantissa : Nat
  exponent : Int
deriving DecidableEq, Repr

namespace Binary

/-- The value of a floating point number that is neither infinite nor undefined. -/
def ofFloat? (x : Float) : Option Binary :=
  let bits := x.toBits.toNat
  let field : Nat := bits / twoTo 52 % 2048
  let fraction := bits % twoTo 52
  let negative := bits / twoTo 63 == 1
  if field == 2047 then none
  else if field == 0 then some ⟨negative, fraction, -1074⟩
  else some ⟨negative, fraction + twoTo 52, (field : Int) - 1075⟩

/-- The absolute value as a fraction: numerator and denominator. -/
def numerator (b : Binary) : Nat := b.mantissa * twoTo b.exponent.toNat

@[inherit_doc numerator]
def denominator (b : Binary) : Nat := twoTo (-b.exponent).toNat

/-- Rounds towards zero. -/
def truncate (b : Binary) : Int :=
  let whole : Int := b.numerator / b.denominator
  if b.negative then -whole else whole

/-- Rounds downwards. -/
def floor (b : Binary) : Int :=
  if b.negative && b.numerator % b.denominator != 0 then b.truncate - 1 else b.truncate

/-! ## The shortest decimal -/

/-- A positive decimal number `digits · 10^scale`. -/
structure Decimal where
  digits : Nat
  scale : Int
deriving DecidableEq, Repr

/-- Four times the absolute value, and four times the distances to the midpoints to the two
neighbouring floating point numbers below and above, all over `4 · denominator`. The neighbour
below a power of two is only half as far away. -/
def spread (b : Binary) : Nat × Nat × Nat :=
  let above := 2 * twoTo b.exponent.toNat
  let below := if b.mantissa == twoTo 52 && b.exponent != -1074 then above / 2 else above
  (4 * b.numerator, below, above)

/-- Whether a decimal reads back as this number: it lies between the midpoints to the neighbours,
which count as this number if its mantissa is even. -/
def readsBack (b : Binary) (d : Decimal) : Bool :=
  let (value, below, above) := b.spread
  let shift := tenTo (-d.scale).toNat
  let candidate := d.digits * tenTo d.scale.toNat * (4 * b.denominator)
  let low := (value - below) * shift
  let high := (value + above) * shift
  if b.mantissa % 2 == 0 then low ≤ candidate && candidate ≤ high
  else low < candidate && candidate < high

/-- Twice the distance between a decimal and this number, up to a factor that depends on the scale
alone. -/
def distance (b : Binary) (d : Decimal) : Nat :=
  let value := b.numerator * tenTo (-d.scale).toNat
  let candidate := d.digits * tenTo d.scale.toNat * b.denominator
  (value - candidate) + (candidate - value)

/-- The exponent of the leading decimal digit. -/
def leadingExponent (b : Binary) : Int :=
  let whole := b.numerator / b.denominator
  if whole != 0 then (Nat.toDigits 10 whole).length - 1
  else
    match (List.range 330).find? fun j => b.denominator ≤ b.numerator * tenTo (j + 1) with
    | some j => -((j : Int) + 1)
    | none => 0

/-- The decimal of `count` digits next to this number, if it reads back. The nearer of the two
neighbours wins, the even one if both are equally near. -/
def decimalOf? (b : Binary) (count : Nat) : Option Decimal :=
  let scale := b.leadingExponent - count + 1
  let lower := b.numerator * tenTo (-scale).toNat / (b.denominator * tenTo scale.toNat)
  let down : Decimal := ⟨lower, scale⟩
  let up : Decimal := ⟨lower + 1, scale⟩
  match b.readsBack down, b.readsBack up with
  | true, true =>
      if b.distance up < b.distance down || (b.distance up == b.distance down && lower % 2 == 1)
      then some up else some down
  | true, false => some down
  | false, true => some up
  | false, false => none

/-- The decimal with the fewest digits that reads back as this number. -/
def shortest (b : Binary) : Decimal :=
  ((List.range 17).findSome? fun k => b.decimalOf? (k + 1)).getD ⟨0, 0⟩

/-- The digits without trailing zeros, and the exponent of the leading one. -/
def significant (b : Binary) : List Char × Int :=
  let d := b.shortest
  let digits := Nat.toDigits 10 d.digits
  ((digits.reverse.dropWhile (· == '0')).reverse, d.scale + digits.length - 1)

/-- The text of a number: positional while the leading digit's exponent is from -4 to 15, with at
least one decimal place, and in scientific notation otherwise. -/
def text (b : Binary) : String :=
  let sign := if b.negative then "-" else ""
  if b.mantissa == 0 then sign ++ "0.0"
  else
    let (digits, exponent) := b.significant
    let body :=
      if -4 ≤ exponent && exponent < 0 then
        ['0', '.'] ++ List.replicate (-exponent - 1).toNat '0' ++ digits
      else if 0 ≤ exponent && exponent < 16 then
        let places := exponent.toNat + 1
        let whole := digits.take places ++ List.replicate (places - digits.length) '0'
        let fraction := digits.drop places
        whole ++ ['.'] ++ (if fraction.isEmpty then ['0'] else fraction)
      else
        let size := (Nat.toDigits 10 exponent.natAbs)
        let padded := List.replicate (2 - size.length) '0' ++ size
        let fraction := digits.drop 1
        digits.take 1 ++ (if fraction.isEmpty then [] else '.' :: fraction) ++
          ['e', if exponent < 0 then '-' else '+'] ++ padded
    sign ++ String.ofList body

end Binary

end Cyclomatic
