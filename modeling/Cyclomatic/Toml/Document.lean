import Cyclomatic.Text.Lines
import Cyclomatic.Toml.Scalar

/-!
# Settings files

A document is a list of statements: a key with its value, a header that opens a table, or a header
that adds a table to a list. A table may be opened only once, and what is written inline cannot be
added to afterwards.
-/

namespace Cyclomatic.Toml

/-- Keys with their values, in the order in which they were given. -/
abbrev Table := List (String × Value)

/-- Parts of a key. -/
abbrev Key := List String

/-! ## Tables inside tables -/

/-- Replaces the value of a key, which has to be there. -/
def replace (key : String) (value : Value) (table : Table) : Table :=
  table.map fun entry => if entry.1 = key then (entry.1, value) else entry

/-- Changes the table behind a key. Tables on the way are made if they are missing. With `lists`, a
list of tables stands for its last one. -/
def modify (lists : Bool) (change : Table → Except Refusal Table) :
    Key → Table → Except Refusal Table
  | [], table => change table
  | part :: key, table =>
      match table.lookup part with
      | none => do
          let inner ← modify lists change key []
          .ok (table ++ [(part, .table inner)])
      | some (.table inner) => do
          let changed ← modify lists change key inner
          .ok (replace part (.table changed) table)
      | some (.list items) =>
          match lists, items.getLast? with
          | true, some (.table inner) => do
              let changed ← modify lists change key inner
              .ok (replace part (.list (items.dropLast ++ [.table changed])) table)
          | _, _ => .error .malformed
      | some _ => .error .malformed

/-- Adds a key that is not there yet. -/
def addNew (key : String) (value : Value) (table : Table) : Except Refusal Table :=
  if (table.lookup key).isSome then .error .malformed else .ok (table ++ [(key, value)])

/-- Adds an empty table to the list of a key. -/
def addToList (key : String) (table : Table) : Except Refusal Table :=
  match table.lookup key with
  | none => .ok (table ++ [(key, .list [.table []])])
  | some (.list items) => .ok (replace key (.list (items ++ [.table []])) table)
  | some _ => .error .malformed

/-- Whether a value is a collection that is written inline. -/
def isCollection : Value → Bool
  | .table _ | .list _ => true
  | _ => false

/-! ## Values -/

/-- An inline table under construction, with the keys that cannot be added to any more. -/
structure Inline where
  table : Table := []
  frozen : List Key := []

/-- Whether a key is one of some keys or lies below one. -/
def under (frozen : List Key) (key : Key) : Bool :=
  frozen.any fun above => above.isPrefixOf key

/-- Adds a key to an inline table. -/
def Inline.add (inline : Inline) (key : Key) (value : Value) : Except Refusal Inline := do
  if under inline.frozen key then .error .malformed
  else
    let table ← modify false (addNew (key.getLast?.getD "") value) key.dropLast inline.table
    .ok ⟨table, if isCollection value then key :: inline.frozen else inline.frozen⟩

/-- A key and the equals sign after it. -/
def keyAndSign : Reader Key :=
  fun cs =>
    match key cs with
    | .ok (parts, '=' :: rest) => .ok (parts, skipBlanks rest)
    | .ok _ => .error .malformed
    | .error refusal => .error refusal

/-- How many calls on the stack a list takes while the values in it are read. -/
def callsOfList : Nat := 2

/-- How many calls on the stack an inline table takes. -/
def callsOfTable : Nat := 3

mutual

/-- A value, where the stack has room for `room` more calls. The second argument bounds how many
values are read one inside or after the other. -/
def value (room : Nat) : Nat → Reader Value
  | 0, _ => .error .malformed
  | rounds + 1, cs =>
      match cs with
      | '[' :: rest =>
          if room < callsOfList then .error .tooDeep
          else
            match skipLayout rest with
            | .ok (']' :: after) => .ok (.list [], after)
            | .ok after => items (room - callsOfList) rounds [] after
            | .error refusal => .error refusal
      | '{' :: rest =>
          if room < callsOfTable then .error .tooDeep
          else
            match skipBlanks rest with
            | '}' :: after => .ok (.table [], after)
            | after => entries (room - callsOfTable) rounds {} after
      | '"' :: _ | '\'' :: _ =>
          (string cs).map fun read => (.text (String.ofList read.1), read.2)
      | _ => scalar cs

/-- The items of a list after those in `done`, which is in reverse order. -/
def items (room : Nat) : Nat → List Value → Reader Value
  | 0, _, _ => .error .malformed
  | rounds + 1, done, cs => do
      let (item, rest) ← value room rounds cs
      match ← skipLayout rest with
      | ']' :: after => .ok (.list (item :: done).reverse, after)
      | ',' :: after =>
          match ← skipLayout after with
          | ']' :: last => .ok (.list (item :: done).reverse, last)
          | next => items room rounds (item :: done) next
      | _ => .error .malformed

/-- The entries of an inline table. -/
def entries (room : Nat) : Nat → Inline → Reader Value
  | 0, _, _ => .error .malformed
  | rounds + 1, inline, cs => do
      let (key, rest) ← keyAndSign cs
      let (item, rest) ← value room rounds rest
      let inline ← inline.add key item
      match skipBlanks rest with
      | '}' :: after => .ok (.table inline.table, after)
      | ',' :: after => entries room rounds inline (skipBlanks after)
      | _ => .error .malformed

end

/-! ## Statements -/

/-- A document under construction. -/
structure Document where
  table : Table := []
  /-- The table that the last header opened. -/
  header : Key := []
  /-- Tables that no header may open any more. -/
  opened : List Key := []
  /-- Tables that keys with points made since the last header; they count as opened from the next
  header on. -/
  pending : List Key := []
  /-- Values written inline, which cannot be added to. -/
  frozen : List Key := []

namespace Document

/-- What changes at every header. -/
def settle (document : Document) : Document :=
  { document with opened := document.pending ++ document.opened, pending := [] }

/-- Opens a table. -/
def openTable (document : Document) (key : Key) : Except Refusal Document := do
  if document.opened.contains key || under document.frozen key then .error .malformed
  else
    let table ← modify true .ok key document.table
    .ok { document with table, header := key, opened := key :: document.opened }

/-- Adds a table to a list. What was known about tables below the list is forgotten. -/
def openListItem (document : Document) (key : Key) : Except Refusal Document := do
  if under document.frozen key then .error .malformed
  else
    let table ← modify true (addToList (key.getLast?.getD "")) key.dropLast document.table
    let outside (other : Key) : Bool := !key.isPrefixOf other
    .ok { document with
      table
      header := key
      opened := key :: document.opened.filter outside
      frozen := document.frozen.filter outside }

/-- The tables between the header and the last part of a key. -/
def between (header key : Key) : List Key :=
  (List.range (key.length - 1)).map fun i => header ++ key.take (i + 1)

/-- Gives a key below the header its value. -/
def addValue (document : Document) (key : Key) (value : Value) : Except Refusal Document := do
  let parents := between document.header key
  let parent := document.header ++ key.dropLast
  if parents.any document.opened.contains || under document.frozen parent then
    .error .malformed
  else
    let table ← modify true (addNew (key.getLast?.getD "") value) parent document.table
    let full := document.header ++ key
    .ok { document with
      table
      pending := parents ++ document.pending
      frozen := if isCollection value then full :: document.frozen else document.frozen }

/-- A header in brackets. -/
def bracketed (opening closing : List Char) : Reader Key :=
  fun cs =>
    match key (skipBlanks (cs.drop opening.length)) with
    | .ok (parts, rest) =>
        if closing.isPrefixOf rest then .ok (parts, rest.drop closing.length)
        else .error .malformed
    | .error refusal => .error refusal

/-- Reads one statement at the front of a text that is not empty. -/
def statement (room : Nat) (document : Document) (cs : List Char) :
    Except Refusal (Document × List Char) :=
  match cs with
  | '[' :: '[' :: _ => do
      let (key, rest) ← bracketed ['[', '['] [']', ']'] cs
      .ok (← document.settle.openListItem key, rest)
  | '[' :: _ => do
      let (key, rest) ← bracketed ['['] [']'] cs
      .ok (← document.settle.openTable key, rest)
  | '#' :: _ | '\n' :: _ => .ok (document, cs)
  | _ => do
      let (key, rest) ← keyAndSign cs
      let (item, rest) ← value room (rest.length + 1) rest
      .ok (← document.addValue key item, rest)

/-- Reads statements, one a line. -/
def statementsWithin (room : Nat) (document : Document) :
    Nat → List Char → Except Refusal Document
  | 0, _ => .error .malformed
  | rounds + 1, cs =>
      match skipBlanks cs with
      | [] => .ok document
      | start => do
          let (document, rest) ← document.statement room start
          match ← skipComment (skipBlanks rest) with
          | [] => .ok document
          | '\n' :: after => document.statementsWithin room rounds after
          | _ => .error .malformed

end Document

/-- Replaces each pair of carriage return and line feed by the line feed. -/
def joinLineEndsOnto (done : List Char) : List Char → List Char
  | [] => done.reverse
  | '\r' :: '\n' :: rest => joinLineEndsOnto ('\n' :: done) rest
  | c :: rest => joinLineEndsOnto (c :: done) rest

/-- Reads a document, where the stack has room for `room` calls. -/
def parse (room : Nat) (text : List Char) : Except Refusal Table := do
  let cs := joinLineEndsOnto [] text
  let document ← Document.statementsWithin room {} (cs.length + 1) cs
  .ok document.table

end Cyclomatic.Toml
