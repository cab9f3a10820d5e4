import Cyclomatic.Assembly.Opcodes
import Cyclomatic.Text.WordChar

/-!
# Boundaries of assembler units

A unit is a procedure or subroutine. While a source is read line by line, either no unit is in
sight, or a label may turn out to start one, or one is open. Each dialect has a transition for
one line, which may close the open unit.
-/

namespace Cyclomatic.Assembly

open Text

/-! ## States -/

/-- What is known about the unit that the next line belongs to. -/
inductive UnitState where
  /-- No unit is open and no label is pending. -/
  | idle
  /-- A label that may turn out to start a unit, with the score it would have. -/
  | candidate (name : String) (score : Int)
  /-- A unit that gathers decision points. -/
  | opened (name : String) (score : Int)
deriving DecidableEq, Repr

/-- A finished unit. -/
structure ClosedUnit where
  name : String
  score : Int
deriving DecidableEq, Repr

/-- Adds decision points to the score of a unit or of a candidate. -/
def UnitState.accrue (points : Int) : UnitState → UnitState
  | .idle => .idle
  | .candidate name score => .candidate name (score + points)
  | .opened name score => .opened name (score + points)

/-- The open unit as it would be closed now. -/
def UnitState.unit? : UnitState → Option ClosedUnit
  | .opened name score => some ⟨name, score⟩
  | _ => none

/-- What a transition has to remark. -/
inductive Remark where
  /-- A procedure directive opened a unit. -/
  | procedure (name : String)
  /-- A label opened a unit. -/
  | labelOpened (name : String)
  /-- A label was given up because a procedure directive followed it. -/
  | labelDropped (name : String)
  /-- A label was given up because another label followed it. -/
  | labelIsData (name : String)
deriving DecidableEq, Repr

/-- The outcome of one line: the state after it, the unit that it closed and a remark. -/
structure Step where
  state : UnitState
  closed : Option ClosedUnit := none
  remark : Option Remark := none
deriving DecidableEq, Repr

/-! ## Patterns -/

/-- A letter of ASCII, or one of the four other letters that have the same case variant as one. -/
def isFoldedLetter (c : Char) : Bool :=
  c.isAlpha || c == '\u017F' || c == '\u212A' || c == '\u0130' || c == '\u0131'

/-- The lower case ASCII letter that a character is a case variant of, or the character itself. -/
def foldChar (c : Char) : Char :=
  if c == '\u017F' then 's'
  else if c == '\u212A' then 'k'
  else if c == '\u0130' || c == '\u0131' then 'i'
  else c.toLower

/-- Reads a name: a letter or underscore, then letters, digits and underscores. -/
def takeName? (letter : Char → Bool) (line : List Char) : Option (String × List Char) :=
  match line with
  | [] => none
  | c :: _ =>
      if letter c || c == '_' then
        let (name, rest) := line.span fun d => letter d || d.isDigit || d == '_'
        some (String.ofList name, rest)
      else none

/-- Reads at least one blank. -/
def skipBlanks? : List Char → Option (List Char)
  | [] => none
  | c :: rest => if isBlank c then some (rest.dropWhile isBlank) else none

/-- Reads a keyword, given in lower case, in any mixture of cases. -/
def skipKeyword? : List Char → List Char → Option (List Char)
  | [], line => some line
  | _ :: _, [] => none
  | k :: keyword, c :: line => if foldChar c == k then skipKeyword? keyword line else none

/-- Whether the line goes on with something other than a word character. -/
def atWordEnd (line : List Char) : Bool :=
  !line.head?.any isWordChar

/-- The name on a line of the form `name keyword`. -/
def namedDirective? (keyword : List Char) (line : List Char) : Option String := do
  let (name, rest) ← takeName? isFoldedLetter line
  let rest ← skipKeyword? keyword (← skipBlanks? rest)
  if atWordEnd rest then some name else none

/-- The name on a line that starts with a label. Only ASCII letters make up a label. -/
def label? (line : List Char) : Option String := do
  let (name, rest) ← takeName? Char.isAlpha line
  if rest.head? == some ':' then some name else none

/-! ## x86 -/

/-- `name PROC` opens a unit. -/
def x86Open? (line : List Char) : Option String :=
  namedDirective? ['p', 'r', 'o', 'c'] line

/-- `name ENDP` closes a unit. The name does not matter. -/
def x86Close (line : List Char) : Bool :=
  (namedDirective? ['e', 'n', 'd', 'p'] line).isSome

/-- One line of x86 source. A procedure closes what is open; a label opens a unit only while none
is open; inside a unit each decision counts. -/
def x86Step (state : UnitState) (line : List Char) : Step :=
  match x86Open? line with
  | some name => ⟨.opened name 1, state.unit?, some (.procedure name)⟩
  | none =>
      if x86Close line then ⟨.idle, state.unit?, none⟩
      else
        match state with
        | .opened _ _ => { state := state.accrue (Dialect.x86.points line) }
        | _ =>
            match label? line with
            | some name => ⟨.opened name 1, none, some (.labelOpened name)⟩
            | none => { state }

/-! ## 6502 -/

/-- `.proc name` opens a unit. -/
def mos6502Open? (line : List Char) : Option String := do
  let rest ← skipKeyword? ['.', 'p', 'r', 'o', 'c'] line
  let (name, _) ← takeName? isFoldedLetter (← skipBlanks? rest)
  some name

/-- `.endproc` closes a unit. -/
def mos6502Close (line : List Char) : Bool :=
  (skipKeyword? ['.', 'e', 'n', 'd', 'p', 'r', 'o', 'c'] line).any atWordEnd

/-- `SUBROUTINE` confirms a label. A blank or the end of the line has to follow. -/
def mos6502Subroutine (line : List Char) : Bool :=
  (skipKeyword? ['s', 'u', 'b', 'r', 'o', 'u', 't', 'i', 'n', 'e'] line).any fun rest =>
    rest.head?.all isBlank

/-- `RTS` returns from a subroutine. -/
def mos6502Return (line : List Char) : Bool :=
  (skipKeyword? ['r', 't', 's'] line).any atWordEnd

/-- One line of 6502 source. A label is a candidate until a return or a subroutine directive
confirms it; another label or a procedure directive gives it up; a stray close directive leaves
it alone. -/
def mos6502Step (state : UnitState) (line : List Char) : Step :=
  match mos6502Open? line with
  | some name =>
      { state := .opened name 1
        closed := state.unit?
        remark :=
          match state with
          | .candidate pending _ => some (.labelDropped pending)
          | _ => none }
  | none =>
      if mos6502Close line then
        match state with
        | .opened name score => ⟨.idle, some ⟨name, score⟩, none⟩
        | _ => { state }
      else if mos6502Subroutine line then
        match state with
        | .candidate name score => { state := .opened name score }
        | _ => { state }
      else if mos6502Return line then
        match state with
        | .idle => { state }
        | .candidate name score => ⟨.idle, some ⟨name, score⟩, none⟩
        | .opened name score => ⟨.idle, some ⟨name, score⟩, none⟩
      else
        match label? line, state with
        | some name, .idle => { state := .candidate name 1 }
        | some name, .candidate pending _ =>
            ⟨.candidate name 1, none, some (.labelIsData pending)⟩
        | _, _ => { state := state.accrue (Dialect.mos6502.points line) }

/-- The transition of a dialect. -/
def Dialect.step : Dialect → UnitState → List Char → Step
  | .x86 => x86Step
  | .mos6502 => mos6502Step

end Cyclomatic.Assembly
