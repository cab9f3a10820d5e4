/-!
# Markup

Texts with style tags in square brackets. A backslash before a tag makes it plain text. Nothing is
coloured here, so a text with tags is shown as the text without them.
-/

namespace Cyclomatic.Markup

/-- The characters that a tag may start with after its bracket. -/
def startsTag (c : Char) : Bool :=
  c.isLower || c == '#' || c == '/' || c == '@'

/-- The rest of a tag up to its closing bracket, and the text after it. A tag holds no further
opening bracket. -/
def tagTail? (done : List Char) : List Char → Option (List Char × List Char)
  | [] => none
  | '[' :: _ => none
  | ']' :: rest => some ((']' :: done).reverse, rest)
  | c :: rest => tagTail? (c :: done) rest

/-- The tag whose opening bracket stands before a text, and the text after the tag. -/
def tag? : List Char → Option (List Char × List Char)
  | c :: rest => if startsTag c then tagTail? [c, '['] rest else none
  | [] => none

/-- Backslashes. -/
def slashes (count : Nat) : List Char :=
  List.replicate count '\\'

/-- A piece of markup. -/
inductive Piece where
  /-- A character after a number of backslashes. -/
  | char (slashes : Nat) (c : Char)
  /-- A tag after a number of backslashes. -/
  | tag (slashes : Nat) (text : List Char)
  /-- Backslashes at the end. -/
  | ending (slashes : Nat)

/-- The pieces of a text after a number of backslashes, of which at most `rounds` characters are
read. -/
def piecesWithin (count : Nat) : Nat → List Char → List Piece
  | 0, _ => [.ending count]
  | _ + 1, [] => [.ending count]
  | rounds + 1, '\\' :: rest => piecesWithin (count + 1) rounds rest
  | rounds + 1, '[' :: rest =>
      match tag? rest with
      | some (text, after) => .tag count text :: piecesWithin 0 rounds after
      | none => .char count '[' :: piecesWithin 0 rounds rest
  | rounds + 1, c :: rest => .char count c :: piecesWithin 0 rounds rest

/-- The pieces of a text. -/
def pieces (markup : List Char) : List Piece :=
  piecesWithin 0 (markup.length + 1) markup

/-- Whether a text ends with exactly one backslash. -/
def endsWithOneSlash (cs : List Char) : Bool :=
  match cs.reverse with
  | '\\' :: '\\' :: _ => false
  | '\\' :: _ => true
  | _ => false

/-- A piece such that it is shown as it is. -/
def escapePiece : Piece → List Char
  | .char count c => slashes count ++ [c]
  | .tag count text => slashes (2 * count + 1) ++ text
  | .ending count => slashes count

/-- A text such that no tag is seen in it. A single backslash at the end is doubled, because a tag
may follow. -/
def escape (s : String) : String :=
  let escaped := (pieces s.toList).flatMap escapePiece
  String.ofList (if endsWithOneSlash escaped then escaped ++ ['\\'] else escaped)

/-- How a piece is shown: backslashes before a tag count in pairs, an odd one keeps the tag, and a
backslash before any other opening bracket drops out. -/
def showPiece : Piece → List Char
  | .char count '[' => slashes (count - 1) ++ ['[']
  | .char count c => slashes count ++ [c]
  | .tag count text => slashes (count / 2) ++ (if count % 2 == 1 then text else [])
  | .ending count => slashes count

/-- Control characters that are never shown. -/
def isDropped (c : Char) : Bool :=
  [7, 8, 11, 12, 13].contains c.toNat

/-- How markup is shown. -/
def plain (markup : String) : List Char :=
  ((pieces markup.toList).flatMap showPiece).filter fun c => !isDropped c

end Cyclomatic.Markup
