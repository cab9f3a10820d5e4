import Cyclomatic.Render.Json

/-! # Reading JSON

The rules by which a JSON text stands for a value, as a reader of texts. Layout may stand before and
after every value and every mark. A string holds no bare control character, and a character beyond
the first plane is escaped as a pair of units; half a pair is refused. A number has no superfluous
zero. Fractions, exponents and the three literals are no values of reports, and a text that holds
one is refused. The members of an object are read in the order of the text, and all of them are
kept. -/

namespace Cyclomatic.Json

/-- The characters that may stand between values and marks. -/
def isLayout (c : Char) : Bool :=
  c == ' ' || c == '\t' || c == '\n' || c == '\r'

def skipLayout (cs : List Char) : List Char :=
  cs.dropWhile isLayout

/-! ## Strings -/

def hexValue? (c : Char) : Option Nat :=
  if '0' ≤ c ∧ c ≤ '9' then some (c.toNat - '0'.toNat)
  else if 'a' ≤ c ∧ c ≤ 'f' then some (c.toNat - 'a'.toNat + 10)
  else if 'A' ≤ c ∧ c ≤ 'F' then some (c.toNat - 'A'.toNat + 10)
  else none

/-- The unit that four digits in base sixteen stand for. -/
def readUnit : List Char → Option (Nat × List Char)
  | a :: b :: c :: d :: rest => do
      let a ← hexValue? a
      let b ← hexValue? b
      let c ← hexValue? c
      let d ← hexValue? d
      some (((a * 16 + b) * 16 + c) * 16 + d, rest)
  | _ => none

/-- The second half of a pair of units. -/
def readLowUnit : List Char → Option (Nat × List Char)
  | '\\' :: 'u' :: cs => do
      let (low, rest) ← readUnit cs
      if 0xDC00 ≤ low ∧ low < 0xE000 then some (low, rest) else none
  | _ => none

/-- The character that is escaped by one unit, or by two if it is beyond the first plane. -/
def readCode (cs : List Char) : Option (Char × List Char) := do
  let (unit, rest) ← readUnit cs
  if unit < 0xD800 ∨ 0xE000 ≤ unit then some (Char.ofNat unit, rest)
  else if unit < 0xDC00 then
    let (low, rest) ← readLowUnit rest
    some (Char.ofNat (0x10000 + (unit - 0xD800) * 0x400 + (low - 0xDC00)), rest)
  else none

/-- The character that a letter or a mark stands for after a backslash. -/
def shortEscape? : Char → Option Char
  | '"' => some '"'
  | '\\' => some '\\'
  | '/' => some '/'
  | 'b' => some '\x08'
  | 'f' => some '\x0C'
  | 'n' => some '\n'
  | 'r' => some '\r'
  | 't' => some '\t'
  | _ => none

/-- One character of a string. -/
def readChar : List Char → Option (Char × List Char)
  | [] => none
  | '\\' :: 'u' :: cs => readCode cs
  | '\\' :: c :: cs => (shortEscape? c).map (·, cs)
  | c :: cs => if c = '"' ∨ c = '\\' ∨ c.toNat < 32 then none else some (c, cs)

/-- The characters of a string up to the quote that ends it, at most `rounds - 1` of them. -/
def readChars : Nat → List Char → Option (List Char × List Char)
  | 0, _ => none
  | _ + 1, '"' :: rest => some ([], rest)
  | rounds + 1, cs => do
      let (c, rest) ← readChar cs
      let (more, rest) ← readChars rounds rest
      some (c :: more, rest)

/-- A string after its first quote. No string has more characters than its text. -/
def readText (cs : List Char) : Option (String × List Char) :=
  (readChars cs.length cs).map fun (read, rest) => (String.ofList read, rest)

/-! ## Numbers -/

def readNat (cs : List Char) : Option (Nat × List Char) :=
  match cs.takeWhile Char.isDigit with
  | [] => none
  | '0' :: _ :: _ => none
  | digits => some (Nat.ofDigitChars 10 digits 0, cs.dropWhile Char.isDigit)

def readInt : List Char → Option (Int × List Char)
  | '-' :: cs => (readNat cs).map fun (n, rest) => (-(n : Int), rest)
  | cs => (readNat cs).map fun (n, rest) => ((n : Int), rest)

/-! ## Values -/

section

variable {α : Type} (closing : Char) (readPart : List Char → Option (α × List Char))

/-- Parts with commas between them, up to the bracket that closes them, at most `rounds` of them. -/
def readParts : Nat → List Char → Option (List α × List Char)
  | 0, _ => none
  | rounds + 1, cs => do
      let (part, rest) ← readPart cs
      match skipLayout rest with
      | [] => none
      | c :: rest =>
          if c = closing then some ([part], rest)
          else if c = ',' then
            let (parts, rest) ← readParts rounds rest
            some (part :: parts, rest)
          else none

/-- What stands after an opening bracket: no part, or parts with commas between them. -/
def readBlock (cs : List Char) : Option (List α × List Char) :=
  match skipLayout cs with
  | [] => none
  | c :: rest =>
      if c = closing then some ([], rest) else readParts closing readPart cs.length cs

end

/-- A member of an object: its name, a colon and its value. -/
def readEntry (readPart : List Char → Option (Json × List Char)) (cs : List Char) :
    Option ((String × Json) × List Char) :=
  match skipLayout cs with
  | '"' :: cs => do
      let (key, rest) ← readText cs
      match skipLayout rest with
      | ':' :: cs =>
          let (value, rest) ← readPart cs
          some ((key, value), rest)
      | _ => none
  | _ => none

/-- The value that stands first and what stands after it. Values nest at most `rounds` deep. -/
def readValue : Nat → List Char → Option (Json × List Char)
  | 0, _ => none
  | rounds + 1, cs =>
      match skipLayout cs with
      | '"' :: cs => (readText cs).map fun (s, rest) => (.text s, rest)
      | '[' :: cs =>
          (readBlock ']' (readValue rounds) cs).map fun (items, rest) => (.list items, rest)
      | '{' :: cs =>
          (readBlock '}' (readEntry (readValue rounds)) cs).map fun (entries, rest) =>
            (.object entries, rest)
      | cs => (readInt cs).map fun (n, rest) => (.int n, rest)

/-- The value that a whole text stands for. No value nests deeper than its text is long. -/
def read? (text : String) : Option Json := do
  let (json, rest) ← readValue text.length text.toList
  if (skipLayout rest).isEmpty then some json else none

end Cyclomatic.Json
