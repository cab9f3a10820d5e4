/-!
# Java tokens

A token is a piece of source text between white space and comments. It remembers where it stands
and which comments precede it. A string is several tokens, because expressions may be embedded in
it.
-/

namespace Cyclomatic.Java

/-- A place in a source text. Bytes are counted, from zero. -/
structure Place where
  offset : Nat := 0
  row : Nat := 0
  column : Nat := 0
deriving DecidableEq, Repr

/-- The place after one more character. -/
def Place.after (place : Place) (c : Char) : Place :=
  let size := c.utf8Size
  if c = '\n' then ⟨place.offset + size, place.row + 1, 0⟩
  else ⟨place.offset + size, place.row, place.column + size⟩

/-- The part of a source text between two places. -/
structure Extent where
  start : Place
  stop : Place
deriving DecidableEq, Repr

/-- What a token is. -/
inductive TokenKind where
  /-- A keyword or a name. -/
  | word (text : String)
  | number
  | character
  /-- Everything of a string from its opening quote to its end or to an embedded expression. -/
  | stringStart
  /-- The opening of an expression embedded in a string. -/
  | holeStart
  /-- The end of an embedded expression and the part of the string after it. -/
  | holeEnd
  /-- The closing quote of a string. -/
  | stringEnd
  /-- Punctuation and operators. A `>` is always a token of its own, because it may close a list
  of type arguments. -/
  | symbol (text : String)
  /-- The end of the source. -/
  | finish
deriving DecidableEq, Repr

/-- A comment. -/
structure Comment where
  extent : Extent
  /-- Whether it runs to the end of its line. -/
  toLineEnd : Bool
deriving DecidableEq, Repr

/-- A token. -/
structure Token where
  kind : TokenKind
  extent : Extent
  /-- The comments between the token before and this one, in order. -/
  comments : List Comment := []
deriving DecidableEq, Repr

/-- Whether nothing stands between two tokens. -/
def Token.adjoins (first second : Token) : Bool :=
  first.extent.stop.offset == second.extent.start.offset

end Cyclomatic.Java
