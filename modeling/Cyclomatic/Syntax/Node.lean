import Cyclomatic.Text.Blank
import Cyclomatic.Text.Lines
import Cyclomatic.Text.Utf8

/-!
# Syntax trees

A node has a kind, the bytes it was read from, children, some of which can be addressed by a field
name, and a place in the source. A node of kind `ERROR` or a missing node marks a syntax error.
-/

namespace Cyclomatic

/-- A node of a syntax tree. -/
structure Node where
  kind : String
  bytes : Option ByteArray := none
  children : List Node := []
  /-- Field names with the places of their children. -/
  fields : List (String × Nat) := []
  named : Bool := true
  missing : Bool := false
  /-- Line and column in the source, counted from zero. -/
  row : Nat := 0
  column : Nat := 0

instance : Inhabited Node := ⟨{ kind := "" }⟩

namespace Node

/-- The text of a node; bytes that are no text are replaced. -/
def text (node : Node) : List Char :=
  match node.bytes with
  | some bytes => Text.decode bytes.toList
  | none => []

/-- The child that a field name addresses. -/
def child? (node : Node) (field : String) : Option Node :=
  (node.fields.lookup field).bind fun index => node.children[index]?

/-- The children that are more than punctuation and keywords. -/
def namedChildren (node : Node) : List Node :=
  node.children.filter (·.named)

/-! ## Traversal

The same order twice: by recursion on the tree, and by a stack. -/

mutual

/-- The number of nodes of a tree. -/
def size : Node → Nat
  | ⟨_, _, children, _, _, _, _, _⟩ => 1 + sizeAll children

/-- The number of nodes of several trees. -/
def sizeAll : List Node → Nat
  | [] => 0
  | node :: rest => node.size + sizeAll rest

end

mutual

/-- A node, then everything below its children from the first to the last. -/
def preorder : Node → List Node
  | node@⟨_, _, children, _, _, _, _, _⟩ => node :: preorderAll children

/-- The traversals of several trees, one after the other. -/
def preorderAll : List Node → List Node
  | [] => []
  | node :: rest => node.preorder ++ preorderAll rest

end

/-- Takes `rounds` nodes off a stack, each time putting the children of the node that was taken
back on top, the first child uppermost. `done` are the nodes taken before, in reverse order. -/
def popOnto (done : List Node) : Nat → List Node → List Node
  | 0, _ => done.reverse
  | _ + 1, [] => done.reverse
  | rounds + 1, node :: stack => popOnto (node :: done) rounds (node.children ++ stack)

/-- The nodes of a tree in the order in which a stack yields them, starting with the root. -/
def walk (root : Node) : List Node :=
  popOnto [] root.size [root]

/-! ## Syntax errors -/

/-- The most characters of a text that a description shows. -/
def snippetLength : Nat := 40

/-- Whether a node marks a syntax error. -/
def isFaulty (node : Node) : Bool :=
  node.kind == "ERROR" || node.missing

/-- The start of a node's text that a description shows: its first line without the blanks before
it, cut off if it is long. -/
def snippet (node : Node) : List Char :=
  (Text.firstLine (Text.trim node.text)).take snippetLength

/-- Where a faulty node stands, and how it starts. -/
def describeFault (node : Node) : String :=
  let near :=
    if (Text.trim node.text).isEmpty then "" else s!" near '{String.ofList node.snippet}'"
  s!"syntax error at line {node.row + 1}, column {node.column + 1}" ++ near

/-- Describes the first syntax error of a tree. -/
def describeError (root : Node) : String :=
  match root.walk.find? isFaulty with
  | some node => node.describeFault
  | none => "syntax error"

end Node

end Cyclomatic
