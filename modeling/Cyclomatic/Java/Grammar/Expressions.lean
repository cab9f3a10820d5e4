import Cyclomatic.Java.Grammar.Declarators

/-!
# Expressions

An expression is operands with operators between them. An assignment and a lambda expression are
operands, whatever stands before them.
-/

namespace Cyclomatic.Java.Rules

open Rule

/-! ## Literals and calls -/

/-- A string, with expressions embedded in it. -/
def stringLiteral (rules : Rules) : Rule :=
  node "string_literal" [
    token .stringStart "string_fragment",
    many (node "string_interpolation"
      [token .holeStart "hole_start", rules.anyExpression, token .holeEnd "string_fragment"]),
    token .stringEnd "string_end"]

/-- A value that is written out. -/
def literal (rules : Rules) : Rule :=
  oneOf [
    token .number "number_literal",
    token .character "character_literal",
    rules.stringLiteral,
    keywordAs "true" ["true"],
    keywordAs "false" ["false"],
    keywordAs "null_literal" ["null"]]

/-- The arguments of a call. -/
def argumentList (rules : Rules) : Rule :=
  node "argument_list" [inParentheses (commas rules.anyExpression)]

/-! ## Creation of objects and arrays -/

/-- The creation of an object, perhaps of a class of its own. -/
def newObject (rules : Rules) : Rule :=
  all [
    keyword "new",
    rules.annotations,
    maybe (field "type_arguments" rules.typeArguments >=> rules.annotations),
    field "type" (rules.simpleType []),
    field "arguments" rules.argumentList,
    maybe (rules .classBody)]

/-- The creation of an array of given sizes or of given values. -/
def newArray (rules : Rules) : Rule :=
  let size := node "dimensions_expr"
    [rules.annotations, symbol "[", rules.anyExpression, symbol "]"]
  let dimensions := field "dimensions" rules.dimensions
  node "array_creation_expression" [
    keyword "new",
    rules.annotations,
    field "type" (rules.simpleType []),
    oneOf [
      some1 (field "dimensions" size) >=> maybe dimensions,
      dimensions >=> field "value" (rules .arrayInitializer)]]

/-! ## Primary expressions -/

/-- What a method reference refers to. -/
def referenceTail (rules : Rules) : Rule :=
  all [
    symbol "::",
    maybe rules.typeArguments,
    oneOf [keyword "new", anyName],
    close "method_reference"]

/-- A reference to a method of a type, or the class of a type as a value. -/
def typeReference (rules : Rules) (reserved : List String) : Rule :=
  frame (rules (.plainType reserved) >=> oneOf [
    rules.referenceTail,
    all [symbol ".", keyword "class", close "class_literal"]])

/-- The start of a primary expression. -/
def primaryStart (rules : Rules) (position : Position) : Rule :=
  let reserved := position.reserved
  oneOf [
    rules.literal,
    rules.typeReference position.reservedTypes,
    keywordAs "this" ["this"],
    keywordAs "super" ["super"] >=> ahead (symbolOf [".", "::"]),
    node "object_creation_expression" [rules.newObject],
    rules.newArray,
    rules.parenthesized,
    node "method_invocation"
      [field "name" (name reserved), field "arguments" rules.argumentList],
    name reserved]

/-- What may follow a primary expression and make it a greater one. -/
def primaryTail (rules : Rules) : Rule :=
  let superPoint := maybe (keywordAs "super" ["super"] >=> symbol ".")
  oneOf [
    all [
      tag "object", symbol ".", superPoint,
      maybe (field "type_arguments" rules.typeArguments),
      field "name" (name reservedAfterPoint),
      field "arguments" rules.argumentList,
      close "method_invocation"],
    all [
      tag "object", symbol ".", superPoint,
      field "field" (oneOf [name reservedAfterPoint, keywordAs "this" ["this"]]),
      close "field_access"],
    all [symbol ".", rules.newObject, close "object_creation_expression"],
    all [
      tag "template_processor", symbol ".",
      field "template_argument" rules.stringLiteral,
      close "template_expression"],
    all [
      tag "array", symbol "[", field "index" rules.anyExpression, symbol "]",
      close "array_access"],
    rules.referenceTail]

/-- A primary expression. -/
def primary (rules : Rules) (position : Position) : Rule :=
  frame (rules.primaryStart position >=> many rules.primaryTail)

/-! ## Operands -/

/-- An assignment operator. -/
def assignmentOperator : Rule :=
  oneOf [
    symbolOf ["=", "+=", "-=", "*=", "/=", "%=", "&=", "|=", "^=", "<<="],
    joined ">" [">", ">", "="] ">>>=",
    joined ">" [">", "="] ">>="]

/-- A primary expression, and an assignment to it if it is a variable. -/
def primaryOrAssignment (rules : Rules) (position : Position) : Rule :=
  frame (rules.primary position >=> maybe (all [
    madeOf ["identifier", "field_access", "array_access"],
    tag "left",
    field "operator" assignmentOperator,
    field "right" (rules (.expression position.next 0)),
    close "assignment_expression"]))

/-- A lambda expression. -/
def lambda (rules : Rules) (position : Position) : Rule :=
  let parameter := name position.reserved
  let inferred := node "inferred_parameters"
    [inParentheses (separated "," (name reservedInExpression))]
  node "lambda_expression" [
    field "parameters" (oneOf [
      parameter >=> ahead (symbol "->"),
      inferred >=> ahead (symbol "->"),
      rules.formalParameters]),
    symbol "->",
    field "body" (oneOf [rules .block, rules.anyExpression])]

/-- How strongly a cast binds. -/
def castStrength : Nat := 14

/-- How strongly an operator in front of its operand binds. -/
def unaryStrength : Nat := 15

/-- A cast. A sign after a type that is not primitive is an operator between two operands. -/
def cast (rules : Rules) (position : Position) : Rule :=
  let plain := rules (.plainType reservedTypesInExpression)
  let target := oneOf [node "annotated_type" [some1 (rules .annotationUse), plain], plain]
  let value := field "value" (rules (.expression position.next castStrength))
  oneOf [
    node "cast_expression" [
      inParentheses (field "type" (keywordAs "primitive_type" primitiveTypes)), value],
    node "cast_expression" [
      inParentheses (separated "&" (field "type" target)),
      notAhead (symbolOf ["+", "-", "++", "--"]),
      value]]

/-- An operator in front of its operand. -/
def unary (rules : Rules) (position : Position) : Rule :=
  let operand := rules (.expression position.next unaryStrength)
  oneOf [
    node "unary_expression"
      [field "operator" (symbolOf ["+", "-", "!", "~"]), field "operand" operand],
    node "update_expression" [symbolOf ["++", "--"], operand]]

/-! ## Switches -/

/-- A pattern with a type and a name. -/
def typePattern (rules : Rules) : Rule :=
  node "type_pattern" [rules (.plainType reservedTypesInExpression), anyName]

/-- A pattern that takes a record apart. -/
def recordPattern (rules : Rules) : Rule :=
  let component := node "record_pattern_component" [oneOf [
    rules (.plainType []) >=> anyName,
    keywordAs "underscore_pattern" ["_"]]]
  let body := node "record_pattern_body"
    [inParentheses (commas (oneOf [rules .recordPattern, component]))]
  node "record_pattern" [
    frame (rules.simpleType [] >=> madeOf ["type_identifier", "generic_type"]),
    body]

/-- One label of a switch: a pattern or values, and perhaps a condition. -/
def switchLabel (rules : Rules) : Rule :=
  let guard := maybe (node "guard" [keyword "when", rules (.expression .label 0)])
  let done := ahead (symbolOf [":", "->"])
  let pattern := node "pattern" [oneOf [rules .recordPattern, rules.typePattern]]
  node "switch_label" [oneOf [
    all [keyword "case", pattern, guard, done],
    all [keyword "case", separated "," (rules (.expression .label 0)), guard, done],
    keyword "default"]]

/-- An expression as a statement. -/
def expressionStatement (rules : Rules) (position : Position) : Rule :=
  node "expression_statement" [rules (.expression position 0), symbol ";"]

/-- A statement that throws. -/
def throwStatement (rules : Rules) : Rule :=
  node "throw_statement" [keyword "throw", rules.anyExpression, symbol ";"]

/-- The body of a switch: groups of statements, or rules with arrows. -/
def switchBlock (rules : Rules) : Rule :=
  let group := node "switch_block_statement_group"
    [some1 (rules.switchLabel >=> symbol ":"), many (rules .statement)]
  let arrow := node "switch_rule" [
    rules.switchLabel,
    symbol "->",
    oneOf [rules .block, rules.throwStatement, rules.expressionStatement .inner]]
  node "switch_block" [oneOf [inBraces (many group), inBraces (many arrow)]]

/-- A switch. -/
def switchExpression (rules : Rules) : Rule :=
  node "switch_expression" [
    keyword "switch",
    field "condition" rules.parenthesized,
    field "body" rules.switchBlock]

/-! ## Operators -/

/-- An operand. No lambda expression starts in a label, where an arrow ends the label. -/
def operand (rules : Rules) (position : Position) : Rule :=
  let lambdas := if position = .label then [] else [rules.lambda position]
  oneOf (rules.unary position :: lambdas ++ [
    rules.cast position,
    rules.switchExpression,
    rules.primaryOrAssignment position])

/-- The operators between two operands, with how strongly they bind. An operator comes before the
ones that it starts with. -/
def binaryOperators : List (Nat × Rule) := [
  (4, symbol "||"), (5, symbol "&&"), (6, symbol "|"), (7, symbol "^"), (8, symbol "&"),
  (9, symbol "=="), (9, symbol "!="),
  (11, joined ">" [">", ">"] ">>>"), (11, joined ">" [">"] ">>"), (11, symbol "<<"),
  (10, joined ">" ["="] ">="), (10, symbol ">"), (10, symbol "<="), (10, symbol "<"),
  (12, symbol "+"), (12, symbol "-"),
  (13, symbol "*"), (13, symbol "/"), (13, symbol "%")]

/-- How strongly a type test binds. -/
def typeTestStrength : Nat := 10

/-- How strongly a choice between two values binds. -/
def ternaryStrength : Nat := 3

/-- A binary operator and its second operand. Operators bind to the left. -/
def binaryTail (rules : Rules) (position : Position) (least : Nat) : Rule :=
  oneOf ((binaryOperators.filter fun operator => least ≤ operator.1).map fun operator => all [
    tag "left",
    field "operator" operator.2,
    field "right" (rules (.expression position.next (operator.1 + 1))),
    close "binary_expression"])

/-- A test for a type or for a pattern. -/
def typeTestTail (rules : Rules) (position : Position) (least : Nat) : Rule :=
  let reserved := if position = .label then ["instanceof", "when"] else ["instanceof"]
  if least ≤ typeTestStrength then
    all [
      tag "left",
      keyword "instanceof",
      oneOf [
        field "pattern" (rules .recordPattern),
        all [
          maybe (keyword "final"),
          field "right" rules.anyType,
          maybe (field "name" (name reserved))]],
      close "instanceof_expression"]
  else oneOf []

/-- A choice between two values. -/
def ternaryTail (rules : Rules) (position : Position) (least : Nat) : Rule :=
  if least ≤ ternaryStrength then
    all [
      tag "condition",
      symbol "?",
      field "consequence" rules.anyExpression,
      symbol ":",
      field "alternative" (rules (.expression position.next ternaryStrength)),
      close "ternary_expression"]
  else oneOf []

/-- An expression of operators that bind at least as strongly as `least`. -/
def expression (rules : Rules) (position : Position) (least : Nat) : Rule :=
  frame (rules.operand position >=> many (oneOf [
    symbolOf ["++", "--"] >=> close "update_expression",
    rules.binaryTail position least,
    rules.typeTestTail position least,
    rules.ternaryTail position least]))

end Cyclomatic.Java.Rules
