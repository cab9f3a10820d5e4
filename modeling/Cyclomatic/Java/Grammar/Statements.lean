import Cyclomatic.Java.Grammar.Declarations

/-!
# Statements
-/

namespace Cyclomatic.Java.Rules

open Rule

/-- Statements in braces. -/
def block (rules : Rules) : Rule :=
  node "block" [inBraces (many (rules .statement))]

/-- Local variables, after their modifiers. -/
def localVariablesRest (rules : Rules) : Rule :=
  all [
    field "type" (rules (.plainType reservedTypesInStatement)),
    rules.declarators ["instanceof"],
    close "local_variable_declaration"]

/-! ## Branches and loops -/

/-- A choice between two statements. An alternative belongs to the nearest condition. -/
def ifStatement (rules : Rules) : Rule :=
  node "if_statement" [
    keyword "if",
    field "condition" rules.parenthesized,
    field "consequence" (rules .statement),
    maybe (keyword "else" >=> field "alternative" (rules .statement))]

/-- A loop with its condition in front. -/
def whileStatement (rules : Rules) : Rule :=
  node "while_statement" [
    keyword "while",
    field "condition" rules.parenthesized,
    field "body" (rules .statement)]

/-- A loop with its condition at the end. -/
def doStatement (rules : Rules) : Rule :=
  node "do_statement" [
    keyword "do",
    field "body" (rules .statement),
    keyword "while",
    field "condition" rules.parenthesized,
    symbol ";"]

/-- A loop with a start, a condition and a step. -/
def forStatement (rules : Rules) : Rule :=
  let locals := frame (maybe rules.modifiers >=> all [
    field "type" (rules (.plainType reservedTypesInExpression)),
    rules.declarators ["instanceof"],
    close "local_variable_declaration"])
  node "for_statement" [
    keyword "for",
    symbol "(",
    oneOf [
      field "init" locals,
      commas (field "init" rules.anyExpression) >=> symbol ";"],
    maybe (field "condition" rules.anyExpression),
    symbol ";",
    commas (field "update" rules.anyExpression),
    symbol ")",
    field "body" (rules .statement)]

/-- A loop over the elements of a collection. -/
def forEachStatement (rules : Rules) : Rule :=
  node "enhanced_for_statement" [
    keyword "for",
    symbol "(",
    maybe rules.modifiers,
    field "type" (rules (.plainType reservedTypesInExpression)),
    rules.declaredName ["instanceof"],
    symbol ":",
    field "value" rules.anyExpression,
    symbol ")",
    field "body" (rules .statement)]

/-! ## Exceptions -/

/-- What is done about an exception. -/
def catchClause (rules : Rules) : Rule :=
  let parameter := node "catch_formal_parameter" [
    maybe rules.modifiers,
    node "catch_type" [separated "|" (rules (.plainType []))],
    rules.declaredName []]
  node "catch_clause" [keyword "catch", inParentheses parameter, field "body" (rules .block)]

/-- What is done in any case. -/
def finallyClause (rules : Rules) : Rule :=
  node "finally_clause" [keyword "finally", rules .block]

/-- Statements whose exceptions are handled. -/
def tryStatement (rules : Rules) : Rule :=
  let handlers := oneOf [
    some1 rules.catchClause >=> maybe rules.finallyClause,
    rules.finallyClause]
  node "try_statement" [keyword "try", field "body" (rules .block), handlers]

/-- Something that is closed after use: a new variable, or one that exists. -/
def resource (rules : Rules) : Rule :=
  oneOf [
    node "resource" [
      maybe rules.modifiers,
      field "type" (rules (.plainType reservedTypesInExpression)),
      rules.declaredName [],
      symbol "=",
      field "value" rules.anyExpression],
    node "resource" [rules.primary .inner, madeOf ["identifier", "field_access"]]]

/-- Statements that use resources. -/
def tryWithResources (rules : Rules) : Rule :=
  let resources := node "resource_specification"
    [inParentheses (separated ";" rules.resource >=> maybe (symbol ";"))]
  node "try_with_resources_statement" [
    keyword "try",
    field "resources" resources,
    field "body" (rules .block),
    many rules.catchClause,
    maybe rules.finallyClause]

/-! ## Simple statements -/

/-- A keyword, an expression and a semicolon. -/
def announced (rules : Rules) (kind word : String) : Rule :=
  node kind [keyword word, rules.anyExpression, symbol ";"]

/-- A keyword and perhaps the name of a loop. -/
def jump (kind word : String) : Rule :=
  node kind [keyword word, maybe anyName, symbol ";"]

/-- The simple statements that a keyword announces. -/
def simpleStatements (rules : Rules) : List Rule := [
  node "assert_statement" [
    keyword "assert",
    rules.anyExpression,
    maybe (symbol ":" >=> rules.anyExpression),
    symbol ";"],
  jump "break_statement" "break",
  jump "continue_statement" "continue",
  node "return_statement" [keyword "return", maybe rules.anyExpression, symbol ";"],
  rules.announced "yield_statement" "yield",
  rules.throwStatement,
  node "synchronized_statement"
    [keyword "synchronized", rules.parenthesized, field "body" (rules .block)]]

/-- A statement with a name. -/
def labeledStatement (rules : Rules) : Rule :=
  node "labeled_statement"
    [name (reservedInStatement ++ softKeywords), symbol ":", rules .statement]

/-- Declarations that may stand among statements. -/
def localDeclarations (rules : Rules) : List Rule := [
  rules.moduleDeclaration,
  rules.packageDeclaration,
  importDeclaration,
  rules.declared (rules.nestedTypes ++ [rules.recordRest, rules.localVariablesRest])]

/-- A statement. -/
def statement (rules : Rules) : Rule :=
  oneOf ([
    symbol ";",
    rules .block,
    rules.ifStatement,
    rules.whileStatement,
    rules.forEachStatement,
    rules.forStatement,
    rules.doStatement,
    rules.tryStatement,
    rules.tryWithResources,
    rules.switchExpression] ++
    rules.simpleStatements ++
    rules.localDeclarations ++
    [rules.labeledStatement, rules.expressionStatement .statement])

end Cyclomatic.Java.Rules
