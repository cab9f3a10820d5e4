import Cyclomatic.Java.Token
import Cyclomatic.Syntax.Node

/-!
# Rules of a grammar

A rule reads tokens and collects the nodes that it makes of them. Rules are put together by
sequence, ordered choice and repetition; a rule that fails leaves no trace, so the next choice
starts over. Comments before a node become its elder siblings, comments inside it its children.
-/

namespace Cyclomatic.Java

/-- A collected node. -/
structure Child where
  field : Option String
  extent : Extent
  isComment : Bool
  node : Node

/-- The tokens ahead and the nodes collected for the node under construction, in reverse order. -/
structure Cursor where
  source : ByteArray
  rest : List Token
  children : List Child

/-- Reads some tokens, or fails. -/
abbrev Rule := Cursor → Option Cursor

namespace Cursor

/-- The bytes of a part of the source. -/
def bytes (cursor : Cursor) (extent : Extent) : ByteArray :=
  cursor.source.extract extent.start.offset extent.stop.offset

/-- A node without children. -/
def leaf (cursor : Cursor) (kind : String) (named : Bool) (extent : Extent) : Node where
  kind
  bytes := some (cursor.bytes extent)
  named
  row := extent.start.row
  column := extent.start.column

/-- Collects a comment. -/
def pushComment (cursor : Cursor) (comment : Comment) : Cursor :=
  let kind := if comment.toLineEnd then "line_comment" else "block_comment"
  let node := cursor.leaf kind true comment.extent
  { cursor with children := ⟨none, comment.extent, true, node⟩ :: cursor.children }

/-- Collects one leaf for the part of the source from the first to the last of some tokens, which
are passed over. -/
def pushLeaf (cursor : Cursor) (kind : String) (named : Bool) (first last : Token)
    (rest : List Token) : Cursor :=
  let extent : Extent := ⟨first.extent.start, last.extent.stop⟩
  let noted := first.comments.foldl pushComment cursor
  { noted with
    rest
    children := ⟨none, extent, false, noted.leaf kind named extent⟩ :: noted.children }

end Cursor

namespace Rule

/-! ## Putting rules together -/

/-- Reads nothing. -/
def nothing : Rule := some

/-- Tries rules until one succeeds. -/
def oneOf (rules : List Rule) : Rule :=
  fun cursor => rules.findSome? fun rule => rule cursor

/-- Reads what the rule reads, if it reads anything. -/
def maybe (rule : Rule) : Rule :=
  fun cursor =>
    match rule cursor with
    | some next => some next
    | none => some cursor

/-- Applies a rule as often as it succeeds, but at most as often as there are tokens in `bound`. -/
def manyWithin (rule : Rule) : List Token → Rule
  | [], cursor => some cursor
  | _ :: bound, cursor =>
      match rule cursor with
      | some next => manyWithin rule bound next
      | none => some cursor

/-- Applies a rule as often as it succeeds. It has to read something each time. -/
def many (rule : Rule) : Rule :=
  fun cursor => manyWithin rule cursor.rest cursor

/-- Applies a rule at least once. -/
def some1 (rule : Rule) : Rule :=
  rule >=> many rule

/-- Applies rules one after the other. -/
def all : List Rule → Rule
  | [] => nothing
  | rule :: rules => rule >=> all rules

/-- Succeeds without reading if the rule would succeed. -/
def ahead (rule : Rule) : Rule :=
  fun cursor => if (rule cursor).isSome then some cursor else none

/-- Succeeds without reading if the rule would fail. -/
def notAhead (rule : Rule) : Rule :=
  fun cursor => if (rule cursor).isSome then none else some cursor

/-! ## Making nodes -/

/-- Applies a rule to an empty collection and appends what it collects. -/
def frame (rule : Rule) : Rule :=
  fun cursor =>
    match rule { cursor with children := [] } with
    | some inner => some { inner with children := inner.children ++ cursor.children }
    | none => none

/-- Gives all nodes collected so far a field name. -/
def tag (field : String) : Rule :=
  fun cursor =>
    some { cursor with
      children := cursor.children.map fun child =>
        if child.isComment then child else { child with field := some field } }

/-- The places of the children that have field names. -/
def fieldsFrom (index : Nat) : List Child → List (String × Nat)
  | [] => []
  | child :: rest =>
      match child.field with
      | some field => (field, index) :: fieldsFrom (index + 1) rest
      | none => fieldsFrom (index + 1) rest

/-- Makes one node of all that is collected. Comments at the front stay outside. -/
def close (kind : String) : Rule :=
  fun cursor =>
    let (comments, body) := cursor.children.reverse.span (·.isComment)
    match body, body.getLast? with
    | first :: _, some last =>
        let extent : Extent := ⟨first.extent.start, last.extent.stop⟩
        let node : Node :=
          { cursor.leaf kind true extent with
            children := body.map (·.node)
            fields := fieldsFrom 0 body }
        some { cursor with children := ⟨none, extent, false, node⟩ :: comments.reverse }
    | _, _ => none

/-- A node of what a rule collects. -/
def node (kind : String) (rules : List Rule) : Rule :=
  frame (all rules >=> close kind)

/-- Gives what a rule collects a field name. -/
def field (name : String) (rule : Rule) : Rule :=
  frame (rule >=> tag name)

/-- Succeeds if the last collected node is of one of some kinds. -/
def madeOf (kinds : List String) : Rule :=
  fun cursor =>
    match cursor.children with
    | child :: _ => if kinds.contains child.node.kind then some cursor else none
    | [] => none

/-! ## Single tokens -/

/-- Reads a token that is not punctuation. -/
def token (kind : TokenKind) (name : String) : Rule :=
  fun cursor =>
    match cursor.rest with
    | first :: rest =>
        if first.kind = kind then some (cursor.pushLeaf name true first first rest) else none
    | [] => none

/-- Reads a keyword. -/
def keyword (word : String) : Rule :=
  fun cursor =>
    match cursor.rest with
    | first :: rest =>
        if first.kind = .word word then some (cursor.pushLeaf word false first first rest)
        else none
    | [] => none

/-- Reads one of some keywords as a node of a kind. -/
def keywordAs (kind : String) (words : List String) : Rule :=
  fun cursor =>
    match cursor.rest with
    | first :: rest =>
        match first.kind with
        | .word word =>
            if words.contains word then some (cursor.pushLeaf kind true first first rest)
            else none
        | _ => none
    | [] => none

/-- Reads a word that is not reserved as a node of a kind. -/
def nameAs (kind : String) (reserved : List String) : Rule :=
  fun cursor =>
    match cursor.rest with
    | first :: rest =>
        match first.kind with
        | .word word =>
            if reserved.contains word then none
            else some (cursor.pushLeaf kind true first first rest)
        | _ => none
    | [] => none

/-- Reads a word that is not reserved. -/
def name (reserved : List String) : Rule :=
  nameAs "identifier" reserved

/-- The last of some tokens if they are the given symbols with nothing between them, and the tokens
after it. -/
def joined? (last : Token) : List String → List Token → Option (Token × List Token)
  | [], rest => some (last, rest)
  | text :: texts, next :: rest =>
      if next.kind = .symbol text && last.adjoins next then joined? next texts rest else none
  | _ :: _, [] => none

/-- Reads symbols that stand together without a gap as one symbol. -/
def joined (text : String) (more : List String) (kind : String) : Rule :=
  fun cursor =>
    match cursor.rest with
    | first :: rest =>
        if first.kind = .symbol text then
          match joined? first more rest with
          | some (last, after) => some (cursor.pushLeaf kind false first last after)
          | none => none
        else none
    | [] => none

/-- Reads a symbol. -/
def symbol (text : String) : Rule :=
  joined text [] text

/-- Reads one of several symbols. -/
def symbolOf (texts : List String) : Rule :=
  oneOf (texts.map symbol)

/-! ## Lists -/

/-- One or more, separated by a symbol. -/
def separated (separator : String) (rule : Rule) : Rule :=
  rule >=> many (symbol separator >=> rule)

/-- Any number, separated by commas. -/
def commas (rule : Rule) : Rule :=
  maybe (separated "," rule)

end Rule

end Cyclomatic.Java
