import Cyclomatic.Text.Blank
import Cyclomatic.Text.Lines
import Cyclomatic.Text.Width

/-!
# Layout of text in cells

Fitting text into a number of cells: cutting and filling it, and breaking it into lines between
words.
-/

namespace Cyclomatic.Layout

open Text

/-- Spaces. -/
def spaces (count : Nat) : List Char :=
  List.replicate count ' '

/-! ## Cutting and filling -/

/-- The longest part at the front that takes at most `cells` cells, and the rest. `done` is in
reverse order. -/
def takeCells (done : List Char) (cells : Nat) : List Char → List Char × List Char
  | [] => (done.reverse, [])
  | c :: rest =>
      if charWidth c ≤ cells then takeCells (c :: done) (cells - charWidth c) rest
      else (done.reverse, c :: rest)

/-- Fills a text with spaces on the right. -/
def fill (cells : Nat) (cs : List Char) : List Char :=
  cs ++ spaces (cells - width cs)

/-- Cuts or fills a text to an exact number of cells. A wide character that would be cut in two
becomes a space. -/
def fit (cells : Nat) (cs : List Char) : List Char :=
  fill cells (takeCells [] cells cs).1

/-- Cuts a text that is too wide. -/
def cut (cells : Nat) (cs : List Char) : List Char :=
  if cells < width cs then fit cells cs else cs

/-- Cuts a text that is too wide and marks the cut. -/
def cutMarked (cells : Nat) (cs : List Char) : List Char :=
  if cells < width cs then fit (cells - 1) cs ++ ['…'] else cs

/-- Splits a text at line feeds. `line` is the unfinished line in reverse order. -/
def splitLines (line : List Char) : List Char → List (List Char)
  | [] => [line.reverse]
  | '\n' :: rest => line.reverse :: splitLines [] rest
  | c :: rest => splitLines (c :: line) rest

/-- Cells between the stops of tabulators. -/
def tabSize : Nat := 8

/-- Replaces tabulators by spaces up to the next stop. -/
def expandTabs (done : List Char) (cells : Nat) : List Char → List Char
  | [] => done.reverse
  | '\t' :: rest =>
      let count := tabSize - cells % tabSize
      expandTabs (spaces count ++ done) (cells + count) rest
  | c :: rest => expandTabs (c :: done) (cells + charWidth c) rest

/-- The widest line of a text, where a line ends at any vertical separator. -/
def measureOnto (widest current : Nat) : List Char → Nat
  | [] => max widest current
  | c :: rest =>
      if isLineBoundary c then measureOnto (max widest current) 0 rest
      else measureOnto widest (current + charWidth c) rest

/-- The cells that the widest line of a text takes. -/
def measure (cs : List Char) : Nat :=
  measureOnto 0 0 cs

/-! ## Breaking lines -/

/-- The words of a text, each with the blanks after it and the first with those before it, too.
`rounds` bounds their number. -/
def wordsWithin : Nat → List Char → List (List Char)
  | 0, _ => []
  | rounds + 1, cs =>
      let (before, rest) := cs.span isBlank
      let (word, rest) := rest.span fun c => !isBlank c
      if word.isEmpty then []
      else
        let (after, rest) := rest.span isBlank
        (before ++ word ++ after) :: wordsWithin rounds rest

/-- A word cut into parts of at most `cells` cells. `rounds` bounds their number. -/
def chopWithin (cells : Nat) : Nat → List Char → List (List Char)
  | 0, cs => [cs]
  | rounds + 1, cs =>
      match takeCells [] cells cs with
      | (part, []) => [part]
      | ([], rest) => [rest]
      | (part, rest) => part :: chopWithin cells rounds rest

/-- Lines under construction. -/
structure Breaking where
  /-- The finished lines in reverse order. -/
  done : List (List Char) := []
  line : List Char := []
  /-- The cells of the line. -/
  cells : Nat := 0

/-- Starts a line with a word. The first line of all is never left empty. -/
def Breaking.start (state : Breaking) (word : List Char) : Breaking :=
  if state.done.isEmpty && state.line.isEmpty then ⟨[], word, width word⟩
  else ⟨state.line :: state.done, word, width word⟩

/-- Adds a word. One that is too wide for any line is folded, or else has a line of its own. -/
def Breaking.add (size : Nat) (fold : Bool) (state : Breaking) (word : List Char) : Breaking :=
  let bare := width (dropWhileEnd isBlank word)
  if state.cells + bare ≤ size then
    { state with line := state.line ++ word, cells := state.cells + width word }
  else if size < bare && fold then
    (chopWithin size word.length word).foldl Breaking.start state
  else state.start word

/-- Removes blanks at the end of a line that has more than `size` characters, as far as it has
more. -/
def dropExcess (size : Nat) (line : List Char) : List Char :=
  let blanks := (line.reverse.takeWhile isBlank).length
  line.take (line.length - min blanks (line.length - size))

/-- Breaks one line of text into lines of at most `size` cells, as far as words allow. -/
def breakLine (size : Nat) (fold : Bool) (text : List Char) : List (List Char) :=
  let words := wordsWithin text.length text
  if words.isEmpty then [dropExcess size text]
  else
    let state := words.foldl (Breaking.add size fold) {}
    (state.line :: state.done).reverse.map (dropExcess size)

/-- Breaks a text into lines of at most `size` cells, as far as words allow. -/
def breakText (size : Nat) (fold : Bool) (text : List Char) : List (List Char) :=
  (splitLines [] text).flatMap fun line => breakLine size fold (expandTabs [] 0 line)

end Cyclomatic.Layout
