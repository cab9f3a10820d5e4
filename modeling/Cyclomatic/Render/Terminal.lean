import Cyclomatic.Render.Table

/-!
# A screen without colours

The screen that the program brings along. It has a hundred columns and no colours, and it is no
terminal, so that escape sequences are taken out of a text before it is shown.
-/

namespace Cyclomatic

namespace Ansi

/-- The character that starts an escape sequence. -/
def escape : Char := '\x1b'

/-- The characters between the bracket and the letter of an escape sequence. -/
def isParameter (c : Char) : Bool :=
  c == ';' || c == '?' || c.isDigit

/-- What follows an escape sequence whose first character stands before a text, if it is one. -/
def afterSequence? : List Char → Option (List Char)
  | '[' :: rest =>
      match rest.dropWhile isParameter with
      | c :: after => if c.isAlpha then some after else none
      | [] => none
  | _ => none

/-- A text without its escape sequences, of which at most `rounds` characters are read. -/
def stripWithin : Nat → List Char → List Char
  | 0, _ => []
  | _ + 1, [] => []
  | rounds + 1, c :: rest =>
      if c = escape then
        match afterSequence? rest with
        | some after => stripWithin rounds after
        | none => c :: stripWithin rounds rest
      else c :: stripWithin rounds rest

/-- A text without its escape sequences. -/
def strip (cs : List Char) : List Char :=
  stripWithin (cs.length + 1) cs

end Ansi

/-- Lines as one text. -/
def textOfLines (lines : List (List Char)) : String :=
  String.ofList (lines.flatMap fun line => line ++ ['\n'])

/-- The screen without colours. -/
def Screen.plain : Screen where
  escape := Markup.escape
  line markup :=
    textOfLines ((Layout.splitLines [] (Markup.plain markup)).map (Layout.expandTabs [] 0))
  panel panel := textOfLines panel.lines
  table table := textOfLines table.lines
  echo text := String.ofList (Ansi.strip text.toList ++ ['\n'])

end Cyclomatic
