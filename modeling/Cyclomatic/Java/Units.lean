import Cyclomatic.Error
import Cyclomatic.Syntax.Node

/-!
# Units of a Java syntax tree

Methods and constructors are units, wherever they stand. The score of a unit is one more than the
number of decision points anywhere below it, those of units inside it included. Its name holds the
types of its parameters, so that overloads stay apart.
-/

namespace Cyclomatic.Java

open Text

/-! ## Scores -/

/-- Kinds of nodes that are a decision point each, in alphabetical order. -/
def decisionKinds : List String := [
  "catch_clause", "do_statement", "enhanced_for_statement", "for_statement", "if_statement",
  "switch_label", "ternary_expression", "while_statement"]

/-- Operators that make a binary expression a decision point. -/
def logicalOperators : List String := ["&&", "||"]

/-- Kinds of nodes that are a unit each, in alphabetical order. -/
def unitKinds : List String := [
  "compact_constructor_declaration", "constructor_declaration", "method_declaration"]

/-- Whether a node is a binary expression of a logical operator. -/
def isLogical (node : Node) : Bool :=
  node.kind == "binary_expression" &&
    (node.child? "operator").any fun operator => logicalOperators.contains operator.kind

/-- Whether a node adds one to the score of the units that it is in. -/
def isDecision (node : Node) : Bool :=
  decisionKinds.contains node.kind || isLogical node

/-- The score of a unit. -/
def complexity (declaration : Node) : Int :=
  1 + (declaration.walk.countP isDecision : Nat)

/-! ## Names -/

/-- The text of a node that may be absent. -/
def textOf (node : Option Node) : List Char :=
  (node.map (·.text)).getD []

/-- The type of a parameter as it is shown. Parameters without a name of their own, such as
receivers, have none. -/
def parameterType (parameter : Node) : List Char :=
  if parameter.kind == "formal_parameter" then
    let dimensions := squash (textOf (parameter.child? "dimensions"))
    squash (textOf (parameter.child? "type")) ++ dimensions.filter (· != ' ')
  else if parameter.kind == "spread_parameter" then
    match parameter.namedChildren.find? fun child =>
      child.kind != "modifiers" && child.kind != "variable_declarator" with
    | some child => squash child.text ++ ['.', '.', '.']
    | none => []
  else []

/-- The types of the parameters of a unit, in order. -/
def parameterTypes (declaration : Node) : List (List Char) :=
  match declaration.child? "parameters" with
  | some parameters =>
      (parameters.namedChildren.map parameterType).filter fun type => !type.isEmpty
  | none => []

/-- The name of a unit with its parameter types. -/
def unitName (declaration : Node) : String :=
  let types := List.intercalate [',', ' '] (parameterTypes declaration)
  String.ofList (textOf (declaration.child? "name") ++ ['('] ++ types ++ [')'])

/-! ## Tables -/

/-- Whether a node is a unit. -/
def isUnit (node : Node) : Bool :=
  unitKinds.contains node.kind

/-- The units of a tree with their scores. The later of two units of one name counts. -/
def unitsOf (root : Node) : UnitTable :=
  (root.walk.filter isUnit).foldl
    (fun units node => units.insert (unitName node) (complexity node)) .empty

/-- How an analysis of the file `fileName` fails when no tree could be made: a syntax error and a
missing component become errors, every other fault comes out as it is. -/
def treeFailure (fileName : String) (fault : Fault) : Failure :=
  match fault.kind.base with
  | .syntaxError => .error (.parsing "Java" fileName fault.message) (some fault.kind)
  | .unavailable => .error (.calculation fileName fault.message) (some fault.kind)
  | _ => .fault fault

end Cyclomatic.Java
