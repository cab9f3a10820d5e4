import Cyclomatic.Java.Grammar.Types

/-!
# Declarators and parameters

The parts of declarations that give a name to a variable or a parameter.
-/

namespace Cyclomatic.Java.Rules

open Rule

/-! ## Variables -/

/-- A name that is declared, with dimensions after it. -/
def declaredName (rules : Rules) (reserved : List String) : Rule :=
  field "name" (name reserved) >=> maybe (field "dimensions" rules.dimensions)

/-- The initial value of a variable. -/
def initializer (rules : Rules) : Rule :=
  oneOf [rules .arrayInitializer, rules.anyExpression]

/-- Values in braces. -/
def arrayInitializer (rules : Rules) : Rule :=
  node "array_initializer" [inBraces (commas rules.initializer >=> maybe (symbol ","))]

/-- One variable with its initial value. -/
def declarator (rules : Rules) (reserved : List String) : Rule :=
  node "variable_declarator" [
    rules.declaredName reserved,
    maybe (symbol "=" >=> field "value" rules.initializer)]

/-- Variables of one type, and the semicolon after them. -/
def declarators (rules : Rules) (reserved : List String) : Rule :=
  separated "," (field "declarator" (rules.declarator reserved)) >=> symbol ";"

/-! ## Parameters -/

/-- Words that do not name a parameter. -/
def reservedParameters : List String := ["this"]

/-- The object that a method is called on, written as its first parameter. -/
def receiverParameter (rules : Rules) : Rule :=
  node "receiver_parameter" [
    rules.annotations,
    rules (.plainType []),
    many (name reservedParameters >=> symbol "."),
    keywordAs "this" ["this"]]

/-- A parameter that takes any number of arguments. -/
def spreadParameter (rules : Rules) : Rule :=
  node "spread_parameter" [
    maybe rules.modifiers,
    rules (.plainType []),
    symbol "...",
    rules.annotations,
    rules.declarator reservedParameters]

/-- A parameter that takes one argument. -/
def formalParameter (rules : Rules) : Rule :=
  node "formal_parameter" [
    maybe rules.modifiers,
    field "type" (rules (.plainType [])),
    rules.declaredName reservedParameters]

/-- The parameters of a method. -/
def formalParameters (rules : Rules) : Rule :=
  let parameters := separated "," (oneOf [rules.spreadParameter, rules.formalParameter])
  node "formal_parameters" [inParentheses (maybe (oneOf [
    rules.receiverParameter >=> maybe (symbol "," >=> maybe parameters),
    parameters]))]

end Cyclomatic.Java.Rules
