/-!
# Blank characters

White space of any script, and the three uses made of it: trimming a text, cutting it into words
and squashing each run of blanks to one space.
-/

namespace Cyclomatic.Text

/-- White space: the ASCII layout characters and information separators, the next-line and
no-break spaces, and the spaces and separators of the other blocks. -/
def isBlank (c : Char) : Bool :=
  let n := c.toNat
  (9 ≤ n && n ≤ 13) || (28 ≤ n && n ≤ 32) || n == 0x85 || n == 0xA0 || n == 0x1680 ||
    (0x2000 ≤ n && n ≤ 0x200A) || n == 0x2028 || n == 0x2029 || n == 0x202F || n == 0x205F ||
    n == 0x3000

/-- Removes the longest suffix of characters that satisfy `p`. -/
def dropWhileEnd (p : Char → Bool) (cs : List Char) : List Char :=
  (cs.reverse.dropWhile p).reverse

/-- Removes blanks at both ends. -/
def trim (cs : List Char) : List Char :=
  dropWhileEnd isBlank (cs.dropWhile isBlank)

/-- Whether every character is blank. -/
def allBlank (cs : List Char) : Bool :=
  cs.all isBlank

/-- Splits off the first word: what precedes it is dropped, and the second part starts with the
blank after it. -/
def firstWord (cs : List Char) : List Char × List Char :=
  (cs.dropWhile isBlank).span fun c => !isBlank c

/-- The words of a text, in order. `rounds` bounds their number. -/
def wordsWithin : Nat → List Char → List (List Char)
  | 0, _ => []
  | rounds + 1, cs =>
      match firstWord cs with
      | ([], _) => []
      | (word, rest) => word :: wordsWithin rounds rest

/-- The maximal runs of characters that are not blank, in order. -/
def words (cs : List Char) : List (List Char) :=
  wordsWithin cs.length cs

/-- Trims a text and replaces each run of blanks inside it by one space. -/
def squash (cs : List Char) : List Char :=
  List.intercalate [' '] (words cs)

end Cyclomatic.Text
