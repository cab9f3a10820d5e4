import Cyclomatic.Error
import Cyclomatic.Text.Blank
import Cyclomatic.Text.Utf8

/-!
# Code points

A text that a caller gives may hold halves of surrogate pairs that stand alone. They are no
characters, and such a text has no encoding.
-/

namespace Cyclomatic

/-- A code point: a character, or half of a surrogate pair, counted from the first half of all. -/
inductive CodePoint where
  | char (c : Char)
  | surrogate (half : Fin 0x800)
deriving DecidableEq, Repr

namespace CodePoint

/-- Characters as code points. -/
def ofChars (cs : List Char) : List CodePoint :=
  cs.map .char

/-- Code points as characters. Where only classes of characters count, half of a pair is the same
as the replacement character: it is no blank, no digit and no part of a word, and has no other
case. -/
def toChars (points : List CodePoint) : List Char :=
  points.map fun point =>
    match point with
    | .char c => c
    | .surrogate _ => Text.replacementChar

@[simp] theorem toChars_ofChars (cs : List Char) : toChars (ofChars cs) = cs := by
  rw [toChars, ofChars, List.map_map]
  exact List.map_id cs

@[simp] theorem length_ofChars (cs : List Char) : (ofChars cs).length = cs.length :=
  List.length_map _

/-- Whether every code point is a blank character. -/
def allBlank (points : List CodePoint) : Bool :=
  Text.allBlank (toChars points)

/-! ## Encoding -/

/-- Why a text cannot be encoded: how many code points precede the first half of a pair, this half,
and how many stand side by side with it. -/
structure Unencodable where
  start : Nat
  half : Fin 0x800
  count : Nat
deriving DecidableEq, Repr

/-- Whether a code point is half of a pair. -/
def isHalf : CodePoint → Bool
  | .char _ => false
  | .surrogate _ => true

/-- Finds the first half of a pair in a text of which `start` code points have been passed. -/
def findHalf? (start : Nat) : List CodePoint → Option Unencodable
  | [] => none
  | .char _ :: rest => findHalf? (start + 1) rest
  | .surrogate half :: rest => some ⟨start, half, 1 + (rest.takeWhile isHalf).length⟩

/-- The bytes of a text. -/
def encode (points : List CodePoint) : Except Unencodable ByteArray :=
  match findHalf? 0 points with
  | none => .ok (String.ofList (toChars points)).toUTF8
  | some error => .error error

/-- The fault of a text that cannot be encoded. -/
def Unencodable.fault (error : Unencodable) : Fault :=
  let hex := String.ofList (Text.hexDigits 4 (0xD800 + error.half))
  let place :=
    if error.count == 1 then s!"character '\\u{hex}' in position {error.start}"
    else s!"characters in position {error.start}-{error.start + error.count - 1}"
  ⟨.special "UnicodeEncodeError" .encoding,
    s!"'utf-8' codec can't encode {place}: surrogates not allowed"⟩

end CodePoint

end Cyclomatic
