/-!
# Line boundaries

Two readings of where a line ends. A source text has lines ended by a line feed, a carriage
return, or both in this order. A snippet is also cut at the other vertical separators.
-/

namespace Cyclomatic.Text

/-- Rewrites the line terminators of a text that follows `done`, which is in reverse order. -/
def normalizeNewlinesOnto (done : List Char) : List Char → List Char
  | [] => done.reverse
  | '\r' :: '\n' :: rest => normalizeNewlinesOnto ('\n' :: done) rest
  | c :: rest => normalizeNewlinesOnto ((if c = '\r' then '\n' else c) :: done) rest

/-- Replaces every carriage return, with the line feed after it if there is one, by one line
feed. -/
def normalizeNewlines (cs : List Char) : List Char :=
  normalizeNewlinesOnto [] cs

/-- The lines of a text that follows the lines `done` and the unfinished line `line`, all three in
reverse order. -/
def sourceLinesOnto (done : List (List Char)) (line : List Char) :
    List Char → List (List Char)
  | [] => (if line.isEmpty then done else line.reverse :: done).reverse
  | '\r' :: '\n' :: rest => sourceLinesOnto (line.reverse :: done) [] rest
  | c :: rest =>
      if c = '\n' ∨ c = '\r' then sourceLinesOnto (line.reverse :: done) [] rest
      else sourceLinesOnto done (c :: line) rest

/-- The lines of a source text without their terminators. A terminator at the very end starts no
further line. -/
def sourceLines (cs : List Char) : List (List Char) :=
  sourceLinesOnto [] [] cs

/-- The characters at which a snippet is cut into lines. -/
def isLineBoundary (c : Char) : Bool :=
  let n := c.toNat
  (10 ≤ n && n ≤ 13) || (28 ≤ n && n ≤ 30) || n == 0x85 || n == 0x2028 || n == 0x2029

/-- The text up to its first line boundary. -/
def firstLine (cs : List Char) : List Char :=
  cs.takeWhile fun c => !isLineBoundary c

end Cyclomatic.Text
