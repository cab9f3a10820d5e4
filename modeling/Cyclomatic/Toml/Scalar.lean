import Cyclomatic.Number.Reading
import Cyclomatic.Settings.Value
import Cyclomatic.Toml.Text

/-!
# Numbers and dates in a settings file
-/

namespace Cyclomatic.Toml

/-! ## Dates and times -/

/-- A number of two digits between two bounds. -/
def twoDigits? (least most : Nat) : List Char → Option (Nat × List Char)
  | a :: b :: rest =>
      let n := valueOf 10 [a, b]
      if a.isDigit && b.isDigit && least ≤ n && n ≤ most then some (n, rest) else none
  | _ => none

/-- A single expected character. -/
def expect? (c : Char) : List Char → Option (List Char)
  | d :: rest => if d = c then some rest else none
  | [] => none

/-- Passes over a time of day: hours, minutes, seconds and perhaps a fraction. -/
def time? (cs : List Char) : Option (List Char) := do
  let (_, cs) ← twoDigits? 0 23 cs
  let (_, cs) ← twoDigits? 0 59 (← expect? ':' cs)
  let (_, cs) ← twoDigits? 0 59 (← expect? ':' cs)
  match cs with
  | '.' :: rest =>
      match rest.span Char.isDigit with
      | ([], _) => some cs
      | (_, after) => some after
  | _ => some cs

/-- Passes over the distance from universal time, if there is one. -/
def offset (cs : List Char) : List Char :=
  let distance (rest : List Char) : Option (List Char) := do
    let (_, rest) ← twoDigits? 0 23 rest
    let (_, rest) ← twoDigits? 0 59 (← expect? ':' rest)
    some rest
  match cs with
  | 'Z' :: rest | 'z' :: rest => rest
  | '+' :: rest | '-' :: rest => (distance rest).getD cs
  | _ => cs

/-- A year, a month and a day. -/
def date? (cs : List Char) : Option ((Nat × Nat × Nat) × List Char) := do
  let year := cs.take 4
  if year.length != 4 || !year.all Char.isDigit then none
  let (month, cs) ← twoDigits? 1 12 (← expect? '-' (cs.drop 4))
  let (day, cs) ← twoDigits? 1 31 (← expect? '-' cs)
  some ((valueOf 10 year, month, day), cs)

/-- The number of days in a month. -/
def daysIn (year month : Nat) : Nat :=
  if month == 2 then
    if year % 4 == 0 && (year % 100 != 0 || year % 400 == 0) then 29 else 28
  else if [4, 6, 9, 11].contains month then 30
  else 31

/-- A date, a date with a time, or a time. Nothing if there is none at the front of the text; a
date that the calendar does not have is refused. -/
def dateOrTime? (cs : List Char) : Option (Except Refusal (Value × List Char)) :=
  match date? cs with
  | some ((year, month, day), rest) =>
      if year == 0 || daysIn year month < day then some (.error .malformed)
      else
        let timed :=
          match rest with
          | 'T' :: after | 't' :: after | ' ' :: after => time? after
          | _ => none
        match timed with
        | some after => some (.ok (.dateTime, offset after))
        | none => some (.ok (.date, rest))
  | none => (time? cs).map fun rest => .ok (.time, rest)

/-! ## Numbers -/

/-- Further digits, each of which an underscore may precede. `done` is in reverse order. -/
def digitsOnto (p : Char → Bool) (done : List Char) : List Char → List Char × List Char
  | [] => (done.reverse, [])
  | '_' :: c :: rest =>
      if p c then digitsOnto p (c :: done) rest else (done.reverse, '_' :: c :: rest)
  | c :: rest => if p c then digitsOnto p (c :: done) rest else (done.reverse, c :: rest)

/-- Digits with single underscores between them; the first character has to be a digit. -/
def digits? (p : Char → Bool) : List Char → Option (List Char × List Char)
  | c :: rest => if p c then some (digitsOnto p [c] rest) else none
  | [] => none

/-- An integer in base two, eight or sixteen. -/
def marked? (cs : List Char) : Option (Int × List Char) :=
  let read (base : Nat) (p : Char → Bool) (rest : List Char) : Option (Int × List Char) :=
    (digits? p rest).map fun (digits, after) => ((valueOf base digits : Nat), after)
  match cs with
  | '0' :: 'x' :: rest => read 16 isHexDigit rest
  | '0' :: 'b' :: rest => read 2 (fun c => c == '0' || c == '1') rest
  | '0' :: 'o' :: rest => read 8 (fun c => '0' ≤ c && c ≤ '7') rest
  | _ => none

/-- The digits before the point: a single zero, or digits that do not start with zero. -/
def whole? (cs : List Char) : Option (List Char × List Char) :=
  match cs with
  | '0' :: rest => some (['0'], rest)
  | _ => digits? Char.isDigit cs

/-- A fraction, if there is one. -/
def fraction? (cs : List Char) : Option (List Char × List Char) :=
  match cs with
  | '.' :: rest => digits? Char.isDigit rest
  | _ => none

/-- An exponent, if there is one. -/
def exponent? (cs : List Char) : Option (Int × List Char) :=
  match cs with
  | c :: rest =>
      if c == 'e' || c == 'E' then
        let (negative, body) := Number.takeSign rest
        (digits? Char.isDigit body).map fun (digits, after) =>
          let size : Int := valueOf 10 digits
          (if negative then -size else size, after)
      else none
  | [] => none

/-- A decimal number, which is a floating point number if it has a fraction or an exponent. -/
def decimal? (cs : List Char) : Option (Except Refusal (Value × List Char)) := do
  let (negative, body) := Number.takeSign cs
  let (whole, rest) ← whole? body
  let fraction := fraction? rest
  let (places, rest) := fraction.getD ([], rest)
  let exponent := exponent? rest
  let (power, rest) := exponent.getD (0, rest)
  if fraction.isSome || exponent.isSome then
    let value := Number.floatOfDecimal negative (valueOf 10 (whole ++ places))
      (power - places.length)
    some (.ok (.float value, rest))
  else if Number.maxDigits < whole.length then some (.error (.tooManyDigits whole.length))
  else
    let value : Int := valueOf 10 whole
    some (.ok (.int (if negative then -value else value), rest))

/-- The words for infinite and undefined numbers. -/
def specialFloats : List (List Char × Float) :=
  let infinity := 1.0 / 0.0
  let undefined := 0.0 / 0.0
  [("inf".toList, infinity), ("nan".toList, undefined), ("-inf".toList, -infinity),
    ("+inf".toList, infinity), ("-nan".toList, undefined), ("+nan".toList, undefined)]

/-- A value that is neither a string nor a collection. -/
def scalar : Reader Value :=
  fun cs =>
    if "true".toList.isPrefixOf cs then .ok (.bool true, cs.drop 4)
    else if "false".toList.isPrefixOf cs then .ok (.bool false, cs.drop 5)
    else
      match dateOrTime? cs with
      | some result => result
      | none =>
          match marked? cs with
          | some (n, rest) => .ok (.int n, rest)
          | none =>
              match decimal? cs with
              | some result => result
              | none =>
                  match specialFloats.find? fun special => special.1.isPrefixOf cs with
                  | some (word, x) => .ok (.float x, cs.drop word.length)
                  | none => .error .malformed

end Cyclomatic.Toml
