import Cyclomatic.Text.Printable

/-!
# Quoted texts

How a text is quoted inside a message: in single quotes, or in double quotes if it holds a single
quote and no double quote, with a backslash before what would end or distort it.
-/

namespace Cyclomatic.Text

/-- The digits of `n` in base sixteen, in lower case, filled with zeros to `size` places. -/
def hexDigits (size n : Nat) : List Char :=
  let digits := Nat.toDigits 16 n
  List.replicate (size - digits.length) '0' ++ digits

/-- One character of a text quoted by `quote`. A character that cannot be printed is written by
its code point, in as few as possible of two, four or eight digits. -/
def quoteChar (quote c : Char) : List Char :=
  if c = quote || c = '\\' then ['\\', c]
  else if c = '\n' then ['\\', 'n']
  else if c = '\r' then ['\\', 'r']
  else if c = '\t' then ['\\', 't']
  else if isPrintable c then [c]
  else if c.toNat < 0x100 then '\\' :: 'x' :: hexDigits 2 c.toNat
  else if c.toNat < 0x10000 then '\\' :: 'u' :: hexDigits 4 c.toNat
  else '\\' :: 'U' :: hexDigits 8 c.toNat

/-- The mark that quotes a text. -/
def quoteMark (cs : List Char) : Char :=
  if cs.contains '\'' && !cs.contains '"' then '"' else '\''

/-- A text with its quotes. -/
def quoted (s : String) : String :=
  let cs := s.toList
  let quote := quoteMark cs
  String.ofList (quote :: cs.flatMap (quoteChar quote) ++ [quote])

/-- One of some bytes quoted by `quote`: a byte is written like the character of its number, if that
is one of ASCII. -/
def quoteByte (quote : Char) (b : UInt8) : List Char :=
  if b < 0x80 then quoteChar quote (Char.ofNat b.toNat) else '\\' :: 'x' :: hexDigits 2 b.toNat

/-- Bytes with their quotes. -/
def quotedBytes (bytes : List UInt8) : String :=
  let quote := quoteMark (bytes.map fun b => Char.ofNat b.toNat)
  String.ofList ('b' :: quote :: bytes.flatMap (quoteByte quote) ++ [quote])

end Cyclomatic.Text
