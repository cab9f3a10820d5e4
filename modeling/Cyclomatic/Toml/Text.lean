/-!
# Texts in a settings file

Keys, strings, comments and the blanks between them. Every reader takes a part off the front of a
text and returns the rest.
-/

namespace Cyclomatic.Toml

/-- Why a document is refused. -/
inductive Refusal where
  /-- It breaks a rule of the format. -/
  | malformed
  /-- An integer has more digits than are accepted. -/
  | tooManyDigits (count : Nat)
  /-- Lists and inline tables stand too deeply inside each other. -/
  | tooDeep
deriving DecidableEq, Repr

/-- Takes something off the front of a text. -/
abbrev Reader (α : Type) := List Char → Except Refusal (α × List Char)

/-! ## Characters -/

/-- Control characters. -/
def isControl (c : Char) : Bool :=
  c.toNat < 32 || c.toNat == 127

/-- Characters that may stand in a comment and in a string on one line. -/
def legalInLine (c : Char) : Bool :=
  !isControl c || c == '\t'

/-- Characters that may stand in a string over several lines. -/
def legalInBlock (c : Char) : Bool :=
  legalInLine c || c == '\n'

/-- Blanks inside a line. -/
def isBlank (c : Char) : Bool :=
  c == ' ' || c == '\t'

/-- Passes over blanks inside a line. -/
def skipBlanks (cs : List Char) : List Char :=
  cs.dropWhile isBlank

/-- Passes over a comment, up to the end of its line. -/
def skipComment (cs : List Char) : Except Refusal (List Char) :=
  match cs with
  | '#' :: rest =>
      let (body, after) := rest.span (· != '\n')
      if body.all legalInLine then .ok after else .error .malformed
  | _ => .ok cs

/-- Passes over blanks, line ends and at most as many comments as `bound` has characters. -/
def skipLayoutWithin : List Char → List Char → Except Refusal (List Char)
  | [], cs => .ok cs
  | _ :: bound, cs =>
      match cs.dropWhile fun c => isBlank c || c == '\n' with
      | '#' :: rest =>
          match skipComment ('#' :: rest) with
          | .ok after => skipLayoutWithin bound after
          | .error refusal => .error refusal
      | after => .ok after

/-- Passes over blanks, line ends and comments. -/
def skipLayout (cs : List Char) : Except Refusal (List Char) :=
  skipLayoutWithin cs cs

/-! ## Strings -/

/-- Whether a character is a digit in base sixteen. -/
def isHexDigit (c : Char) : Bool :=
  c.isDigit || ('a' ≤ c && c ≤ 'f') || ('A' ≤ c && c ≤ 'F')

/-- The value of a digit in base sixteen. -/
def hexValue (c : Char) : Nat :=
  if c.isDigit then c.toNat - 48 else c.toLower.toNat - 87

/-- The value of digits in a base. -/
def valueOf (base : Nat) (digits : List Char) : Nat :=
  digits.foldl (fun n c => n * base + hexValue c) 0

/-- A character given by the digits of its code point. -/
def codePoint (size : Nat) : Reader (List Char) :=
  fun cs =>
    let digits := cs.take size
    let n := valueOf 16 digits
    if digits.length == size && digits.all isHexDigit && n.isValidChar then
      .ok ([Char.ofNat n], cs.drop size)
    else .error .malformed

/-- The characters that a single letter stands for after a backslash. -/
def shortEscapes : List (Char × Char) := [
  ('b', '\x08'), ('t', '\t'), ('n', '\n'), ('f', '\x0C'), ('r', '\r'), ('"', '"'), ('\\', '\\')]

/-- The line end and the blanks around it that a backslash at the end of a line removes. -/
def lineContinuation (cs : List Char) : Except Refusal (List Char) :=
  match skipBlanks cs with
  | [] => .ok []
  | '\n' :: rest => .ok (rest.dropWhile fun c => isBlank c || c == '\n')
  | _ => .error .malformed

/-- What a backslash and the characters after it stand for. -/
def escape (isBlock : Bool) : Reader (List Char) :=
  fun cs =>
    match cs with
    | [] => .error .malformed
    | c :: rest =>
        if isBlock && (isBlank c || c == '\n') then
          (lineContinuation cs).map fun after => ([], after)
        else if c == 'u' then codePoint 4 rest
        else if c == 'U' then codePoint 8 rest
        else
          match shortEscapes.lookup c with
          | some d => .ok ([d], rest)
          | none => .error .malformed

/-- A string with escapes, from the inside. `done` is what is read already, in reverse order. At
most as many steps are taken as `bound` has characters. -/
def basicWithin (isBlock : Bool) (done : List Char) (bound : List Char) : Reader (List Char) :=
  match bound with
  | [] => fun _ => .error .malformed
  | _ :: bound => fun cs =>
      match cs with
      | [] => .error .malformed
      | '"' :: rest =>
          if !isBlock then .ok (done.reverse, rest)
          else
            match rest with
            | '"' :: '"' :: after => .ok (done.reverse, after)
            | _ => basicWithin isBlock ('"' :: done) bound rest
      | '\\' :: rest =>
          match escape isBlock rest with
          | .ok (cs, after) => basicWithin isBlock (cs.reverse ++ done) bound after
          | .error refusal => .error refusal
      | c :: rest =>
          if legalInLine c || (isBlock && c == '\n') then
            basicWithin isBlock (c :: done) bound rest
          else .error .malformed

/-- A string with escapes, from the inside. -/
def basic (isBlock : Bool) : Reader (List Char) :=
  fun cs => basicWithin isBlock [] cs cs

/-- A string without escapes on one line, from the inside. -/
def literal : Reader (List Char) :=
  fun cs =>
    match cs.span (· != '\'') with
    | (body, _ :: after) => if body.all legalInLine then .ok (body, after) else .error .malformed
    | (_, []) => .error .malformed

/-- A string without escapes over several lines, from the inside. `done` is what is read already,
in reverse order. -/
def literalBlockOnto (done : List Char) : Reader (List Char)
  | [] => .error .malformed
  | '\'' :: '\'' :: '\'' :: after => .ok (done.reverse, after)
  | c :: rest => if legalInBlock c then literalBlockOnto (c :: done) rest else .error .malformed

/-- Up to two further quotes belong to a string over several lines. -/
def extraQuotes (quote : Char) (body rest : List Char) : List Char × List Char :=
  let extra := (rest.take 2).takeWhile (· == quote)
  (body ++ extra, rest.drop extra.length)

/-- Removes a line end at the front. -/
def dropLineEnd : List Char → List Char
  | '\n' :: rest => rest
  | cs => cs

/-- A string of any kind; the quote at the front is still to be read. -/
def string : Reader (List Char)
  | '"' :: '"' :: '"' :: rest =>
      (basic true (dropLineEnd rest)).map fun read => extraQuotes '"' read.1 read.2
  | '"' :: rest => basic false rest
  | '\'' :: '\'' :: '\'' :: rest =>
      (literalBlockOnto [] (dropLineEnd rest)).map fun read => extraQuotes '\'' read.1 read.2
  | '\'' :: rest => literal rest
  | _ => .error .malformed

/-! ## Keys -/

/-- Characters of a key without quotes. -/
def isBareKeyChar (c : Char) : Bool :=
  c.isAlphanum || c == '-' || c == '_'

/-- One part of a key. -/
def keyPart : Reader String :=
  fun cs =>
    match cs with
    | '"' :: rest => (basic false rest).map fun read => (String.ofList read.1, read.2)
    | '\'' :: rest => (literal rest).map fun read => (String.ofList read.1, read.2)
    | _ =>
        match cs.span isBareKeyChar with
        | ([], _) => .error .malformed
        | (part, rest) => .ok (String.ofList part, rest)

/-- The parts of a key after those in `done`, which is in reverse order. Blanks may stand around
the points between them. There are at most as many parts as `bound` has characters. -/
def keyWithin (done : List String) : List Char → Reader (List String)
  | [], _ => .error .malformed
  | _ :: bound, cs =>
      match keyPart cs with
      | .error refusal => .error refusal
      | .ok (part, rest) =>
          match skipBlanks rest with
          | '.' :: after => keyWithin (part :: done) bound (skipBlanks after)
          | after => .ok ((part :: done).reverse, after)

/-- A key: its parts, and the text after it and the blanks behind it. -/
def key : Reader (List String) :=
  fun cs => keyWithin [] cs cs

end Cyclomatic.Toml
