import Cyclomatic.Java.Units
import Cyclomatic.Text.CodePoint

/-!
# Parsers of Java source

Java source is parsed by a package of its own, which reads the bytes of a text and makes a tree of
them in any case. A tree with an error in it is no tree of a source text.
-/

namespace Cyclomatic.Java

/-- Makes the syntax tree of a source text. -/
abbrev Parser := List CodePoint → Except Fault Node

/-- What a parser package makes of bytes. -/
structure SyntaxTree where
  root : Node
  /-- Whether some node is in error or missing. -/
  hasError : Bool

/-- A parser package, if one is installed. -/
abbrev Package := Option (ByteArray → SyntaxTree)

/-- The fault of an installation that lacks the parser package. -/
def parserMissing : Fault where
  kind := .unavailable
  text := "Java analysis requires the 'tree-sitter' and 'tree-sitter-java' packages. " ++
    "Install with: pip install tree-sitter tree-sitter-java"

/-- The tree of a source text, unless there is an error in it. -/
def SyntaxTree.checked (tree : SyntaxTree) : Except Fault Node :=
  if tree.hasError then .error ⟨.syntaxError, tree.root.describeError⟩ else .ok tree.root

/-- The parser that a package provides. -/
def parse (package : Package) : Parser :=
  fun source =>
    match package with
    | none => .error parserMissing
    | some make =>
        match CodePoint.encode source with
        | .ok bytes => (make bytes).checked
        | .error error => .error error.fault

end Cyclomatic.Java
