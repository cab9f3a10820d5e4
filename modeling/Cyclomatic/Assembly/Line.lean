import Cyclomatic.Text.Blank
import Cyclomatic.Text.Case
import Cyclomatic.Text.Lines

/-!
# Assembler lines

A line of assembler source is read without its comment and without the white space around it. Its
first word, in upper case, is its opcode.
-/

namespace Cyclomatic.Assembly

open Text

/-- What is left of a line without white space at its ends and without its comment, or nothing if
no instruction is on it. The comment runs from the first semicolon on. -/
def cleanLine? (line : List Char) : Option (List Char) :=
  let trimmed := trim line
  if trimmed.isEmpty || trimmed.head? == some ';' then none
  else if trimmed.contains ';' then some (trim (trimmed.takeWhile (· != ';')))
  else some trimmed

/-- The lines of a source text that hold an instruction, cleaned. -/
def cleanLines (source : List Char) : List (List Char) :=
  (sourceLines source).filterMap cleanLine?

/-- The first word of a line in upper case; empty if the line is blank. -/
def opcode (line : List Char) : String :=
  String.ofList (upper (firstWord line).1)

end Cyclomatic.Assembly
