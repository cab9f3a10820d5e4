import Cyclomatic.Java.Token
import Cyclomatic.Text.Identifier

/-!
# Cutting Java source into tokens

At each place the longest lexeme is taken. Strings are read with a stack of the strings that are
still open, because an expression embedded in a string may hold strings itself.
-/

namespace Cyclomatic.Java

open Text

/-! ## Lexemes

Each function gives the length of the lexeme at the front of a text, zero if there is none. -/

/-- The characters that separate tokens. -/
def isSpace (c : Char) : Bool :=
  c == ' ' || (9 ≤ c.toNat && c.toNat ≤ 13)

/-- The first characters of a word. -/
def isWordStart (c : Char) : Bool :=
  isIdentifierStart c || c == '_' || c == '$'

/-- The further characters of a word. -/
def isWordPart (c : Char) : Bool :=
  isIdentifierPart c || c == '_' || c == '$' || c == '¢'

/-- How many characters at the front satisfy `p`, after `done` others. -/
def runOnto (p : Char → Bool) (done : Nat) : List Char → Nat
  | [] => done
  | c :: rest => if p c then runOnto p (done + 1) rest else done

/-- How many characters at the front satisfy `p`. -/
def run (p : Char → Bool) (cs : List Char) : Nat :=
  runOnto p 0 cs

/-- A word. -/
def wordLength : List Char → Nat
  | [] => 0
  | c :: rest => if isWordStart c then 1 + run isWordPart rest else 0

/-- Runs of digits that satisfy `p`, separated by underscores, of which only one may stand in a
place if `single` holds. There are at most as many runs as `bound` has characters. -/
def digitGroupsWithin (p : Char → Bool) (single : Bool) (bound : List Char) (cs : List Char) :
    Nat :=
  match bound with
  | [] => 0
  | _ :: bound =>
      match run p cs with
      | 0 => 0
      | n =>
          let bars := run (· == '_') (cs.drop n)
          if bars == 0 || (single && 1 < bars) then n
          else
            match digitGroupsWithin p single bound (cs.drop (n + bars)) with
            | 0 => n
            | m => n + bars + m

/-- Runs of digits separated by single underscores. -/
def digitGroups (p : Char → Bool) (cs : List Char) : Nat :=
  digitGroupsWithin p true cs cs

/-- The digits of a decimal integer: zero alone, or digits that do not start with zero. -/
def integerDigits : List Char → Nat
  | [] => 0
  | '0' :: _ => 1
  | c :: rest =>
      if c.isDigit then
        let bar := if rest.head? == some '_' then 1 else 0
        match digitGroupsWithin Char.isDigit false rest (rest.drop bar) with
        | 0 => 1
        | n => 1 + bar + n
      else 0

/-- One character of a choice, if it is there. -/
def optionalOf (choices : List Char) (cs : List Char) : Nat :=
  if cs.head?.any choices.contains then 1 else 0

/-- `n` characters, then whatever `next` reads after them. -/
def andThen (n : Nat) (next : List Char → Nat) (cs : List Char) : Nat :=
  n + next (cs.drop n)

/-- Characters that are there, followed by those that `next` has to find; nothing if it finds
none. -/
def onlyWith (n : Nat) (next : List Char → Nat) (cs : List Char) : Nat :=
  match next (cs.drop n) with
  | 0 => 0
  | m => n + m

/-- Whether a character is a digit in base sixteen. -/
def isHexDigit (c : Char) : Bool :=
  c.isDigit || ('a' ≤ c && c ≤ 'f') || ('A' ≤ c && c ≤ 'F')

/-- An exponent: a mark, a sign and digits. -/
def exponentLength (marks : List Char) (digits : List Char → Nat) (cs : List Char) : Nat :=
  if cs.head?.any marks.contains then
    onlyWith (1 + optionalOf ['+', '-'] (cs.drop 1)) digits cs
  else 0

/-- The letter after a long integer. -/
def longSuffix : List Char → Nat := optionalOf ['l', 'L']

/-- The letter after a floating point number. -/
def floatSuffix : List Char → Nat := optionalOf ['f', 'F', 'd', 'D']

/-- Digits in a base given by its mark: zero, the mark and digits. -/
def markedDigits (marks : List Char) (p : Char → Bool) : List Char → Nat
  | '0' :: mark :: rest =>
      if marks.contains mark then onlyWith 2 (digitGroups p) ('0' :: mark :: rest) else 0
  | _ => 0

/-- Integers in base two, eight, ten and sixteen. -/
def integerLengths (cs : List Char) : List Nat :=
  let withSuffix (n : Nat) : Nat := if n == 0 then 0 else andThen n longSuffix cs
  let isOctal (c : Char) : Bool := '0' ≤ c && c ≤ '7'
  let zeroOctal := if cs.head? == some '0' then onlyWith 1 (digitGroups isOctal) cs else 0
  [withSuffix (integerDigits cs),
    withSuffix (markedDigits ['x', 'X'] isHexDigit cs),
    withSuffix (markedDigits ['b', 'B'] (fun c => c == '0' || c == '1') cs),
    withSuffix (markedDigits ['o', 'O'] isOctal cs),
    withSuffix zeroOctal]

/-- Decimal floating point numbers: with a point, with an exponent or with a suffix. -/
def decimalFloatLengths (cs : List Char) : List Nat :=
  let digits := digitGroups Char.isDigit
  let exponent := exponentLength ['e', 'E'] digits
  let finish (n : Nat) : Nat := andThen (andThen n exponent cs) floatSuffix cs
  let whole := digits cs
  let point (n : Nat) : Bool := (cs.drop n).head? == some '.'
  let plain := integerDigits cs
  [if whole != 0 && point whole then finish (andThen (whole + 1) digits cs) else 0,
    if point 0 then
      match digits (cs.drop 1) with
      | 0 => 0
      | n => finish (1 + n)
    else 0,
    if plain != 0 then
      match exponent (cs.drop plain) with
      | 0 => onlyWith plain floatSuffix cs
      | n => andThen (plain + n) floatSuffix cs
    else 0]

/-- Floating point numbers in base sixteen. -/
def hexFloatLength : List Char → Nat
  | '0' :: mark :: rest =>
      if mark == 'x' || mark == 'X' then
        let digits := digitGroups isHexDigit
        let whole := digits rest
        let hasPoint := (rest.drop whole).head? == some '.'
        let fraction := if hasPoint then digits (rest.drop (whole + 1)) else 0
        if whole == 0 && fraction == 0 then 0
        else
          let mantissa := whole + (if hasPoint then 1 else 0) + fraction
          match exponentLength ['p', 'P'] integerDigits (rest.drop mantissa) with
          | 0 => 2 + mantissa
          | n => 2 + andThen (mantissa + n) floatSuffix rest
      else 0
  | _ => 0

/-- A number: the longest of its forms. -/
def numberLength (cs : List Char) : Nat :=
  (integerLengths cs ++ decimalFloatLengths cs ++ [hexFloatLength cs]).foldl max 0

/-- What follows the opening quote of a character, which is closed by the first quote that no
backslash precedes and never by the end of a line. -/
def characterTail (done : Nat) : List Char → Nat
  | [] => 0
  | '\'' :: _ => if done == 0 then 0 else done + 1
  | '\n' :: _ => 0
  | ['\\'] => 0
  | '\\' :: _ :: rest => characterTail (done + 2) rest
  | _ :: rest => characterTail (done + 1) rest

/-- A character in quotes. -/
def characterLength : List Char → Nat
  | '\'' :: rest =>
      match characterTail 0 rest with
      | 0 => 0
      | n => n + 1
  | _ => 0

/-- What follows the opening of a block comment, up to its closing mark. -/
def blockCommentTail (done : Nat) : List Char → Nat
  | [] => 0
  | '*' :: '/' :: _ => done + 2
  | _ :: rest => blockCommentTail (done + 1) rest

/-- The brace that opens a block. -/
def openBrace : String := "\x7b"

/-- The brace that closes a block. -/
def closeBrace : String := "\x7d"

/-- Operators and punctuation, longer ones before the ones that they start with. -/
def symbols : List String := [
  "...", "<<=", "->", "--", "-=", "++", "+=", "*=", "/=", "%=", "&&", "&=", "||", "|=", "^=",
  "!=", "==", "<<", "<=", "::", "(", ")", openBrace, closeBrace, "[", "]", ";", ",", ".", "@", ":",
  "-", "+", "*", "/", "%", "&", "|", "^", "!", "=", "<", ">", "~", "?"]

/-- The operator or punctuation at the front of a text. -/
def symbolAt? (cs : List Char) : Option String :=
  symbols.find? fun s => s.toList.isPrefixOf cs

/-! ## Strings -/

/-- A string that is open: whether it is a text block, and how many braces are open in the
expression that is embedded in it. -/
structure OpenString where
  isBlock : Bool
  braces : Nat

/-- What a part of a string is followed by. -/
inductive StringEnding where
  | closed
  | hole

/-- The length of an escape sequence after its backslash. In a text block every character may be
escaped. -/
def escapeLength (isBlock : Bool) : List Char → Nat
  | [] => 0
  | c :: rest =>
      if '0' ≤ c && c ≤ '7' then 1 + min 2 (run (fun d => '0' ≤ d && d ≤ '7') rest)
      else if c == 'x' && !isBlock then
        if run isHexDigit rest < 2 then 0 else 3
      else if c == 'u' && !isBlock then
        if rest.head? == some '{' then
          match run isHexDigit (rest.drop 1) with
          | 0 => 0
          | n => if (rest.drop (n + 1)).head? == some '}' then n + 3 else 0
        else if run isHexDigit rest < 4 then 0 else 5
      else 1

/-- Reads a string from the inside up to its end or to an embedded expression: the number of
characters before that, and which of the two it is. At most as many steps are taken as `bound` has
characters. -/
def stringPart (isBlock : Bool) (done : Nat) (bound : List Char) :
    List Char → Option (Nat × StringEnding) :=
  match bound with
  | [] => fun _ => none
  | _ :: bound => fun cs =>
      match cs with
      | [] => none
      | '\\' :: rest =>
          if rest.head? == some '{' then some (done, .hole)
          else
            match escapeLength isBlock rest with
            | 0 => none
            | n => stringPart isBlock (done + 1 + n) bound (rest.drop n)
      | '"' :: rest =>
          if !isBlock then some (done, .closed)
          else
            match rest with
            | '"' :: '"' :: _ => some (done, .closed)
            | _ => stringPart isBlock (done + 1) bound rest
      | _ :: rest => stringPart isBlock (done + 1) bound rest

/-! ## Tokens -/

/-- A source text on its way through the lexer. -/
structure Scanner where
  rest : List Char
  place : Place
  strings : List OpenString
  /-- The comments since the last token, in reverse order. -/
  comments : List Comment
  /-- The tokens so far, in reverse order. -/
  tokens : List Token

namespace Scanner

/-- The scanner and the place `n` characters further on. -/
def skip : Nat → List Char → Place → List Char × Place
  | 0, cs, place => (cs, place)
  | _ + 1, [], place => ([], place)
  | n + 1, c :: cs, place => skip n cs (place.after c)

/-- Moves on without making a token. -/
def ignore (scanner : Scanner) (n : Nat) : Scanner :=
  let (rest, place) := skip n scanner.rest scanner.place
  { scanner with rest, place }

/-- Makes a token of the next `n` characters. -/
def emit (scanner : Scanner) (kind : TokenKind) (n : Nat) : Scanner :=
  let (rest, place) := skip n scanner.rest scanner.place
  { scanner with
    rest, place
    comments := []
    tokens := ⟨kind, ⟨scanner.place, place⟩, scanner.comments.reverse⟩ :: scanner.tokens }

/-- Makes a comment of the next `n` characters. -/
def comment (scanner : Scanner) (toLineEnd : Bool) (n : Nat) : Scanner :=
  let (rest, place) := skip n scanner.rest scanner.place
  { scanner with
    rest, place
    comments := ⟨⟨scanner.place, place⟩, toLineEnd⟩ :: scanner.comments }

/-- Reads a string, of which the next `opening` characters open or reopen it, up to its end or to
an embedded expression. -/
def string? (scanner : Scanner) (kind : TokenKind) (isBlock : Bool) (opening : Nat) :
    Option Scanner := do
  let inside := scanner.rest.drop opening
  let (n, ending) ← stringPart isBlock 0 inside inside
  let started := scanner.emit kind (opening + n)
  match ending with
  | .closed => some (started.emit .stringEnd (if isBlock then 3 else 1))
  | .hole =>
      some ({ started with strings := ⟨isBlock, 0⟩ :: started.strings }.emit .holeStart 2)

/-- Takes note of braces, which may end an embedded expression. -/
def brace? (scanner : Scanner) (symbol : String) : Option Scanner :=
  match scanner.strings with
  | [] => some (scanner.emit (.symbol symbol) 1)
  | ⟨isBlock, braces⟩ :: outer =>
      if symbol == openBrace then
        some ({ scanner with strings := ⟨isBlock, braces + 1⟩ :: outer }.emit (.symbol symbol) 1)
      else
        match braces with
        | 0 => string? { scanner with strings := outer } .holeEnd isBlock 1
        | braces + 1 =>
            some ({ scanner with strings := ⟨isBlock, braces⟩ :: outer }.emit (.symbol symbol) 1)

/-- Reads one token, one comment or one blank; fails if nothing fits. -/
def step? (scanner : Scanner) : Option Scanner :=
  match scanner.rest with
  | [] => none
  | '/' :: '/' :: rest => some (scanner.comment true (2 + run (· != '\n') rest))
  | '/' :: '*' :: rest =>
      match blockCommentTail 2 rest with
      | 0 => none
      | n => some (scanner.comment false n)
  | '"' :: '"' :: '"' :: _ => scanner.string? .stringStart true 3
  | '"' :: _ => scanner.string? .stringStart false 1
  | c :: rest =>
      if isSpace c then some (scanner.ignore (1 + run isSpace rest))
      else if isWordStart c then
        let n := wordLength scanner.rest
        some (scanner.emit (.word (String.ofList (scanner.rest.take n))) n)
      else if c == '\'' then
        match characterLength scanner.rest with
        | 0 => none
        | n => some (scanner.emit .character n)
      else
        match numberLength scanner.rest with
        | 0 =>
            match symbolAt? scanner.rest with
            | some symbol =>
                if symbol == openBrace || symbol == closeBrace then scanner.brace? symbol
                else some (scanner.emit (.symbol symbol) symbol.length)
            | none => none
        | n => some (scanner.emit .number n)

/-- Reads up to the end; every step takes at least one character. -/
def runWithin : Nat → Scanner → Option Scanner
  | 0, scanner => if scanner.rest.isEmpty then some scanner else none
  | rounds + 1, scanner =>
      if scanner.rest.isEmpty then some scanner
      else
        match scanner.step? with
        | some next => runWithin rounds next
        | none => none

/-- The scanner at the start of a source text. A byte order mark is passed over. -/
def start (source : List Char) : Scanner :=
  let scanner : Scanner := ⟨source, {}, [], [], []⟩
  if source.head? == some '\uFEFF' then scanner.ignore 1 else scanner

end Scanner

/-- The tokens of a source text, the last of which marks its end. Nothing if some part of the text
is no token. -/
def tokenize (source : List Char) : Option (List Token) :=
  let scanner := Scanner.start source
  match Scanner.runWithin scanner.rest.length scanner with
  | some last => if last.strings.isEmpty then some (last.emit .finish 0).tokens.reverse else none
  | none => none

end Cyclomatic.Java
