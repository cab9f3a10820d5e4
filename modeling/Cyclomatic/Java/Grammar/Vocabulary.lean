import Cyclomatic.Java.Cursor
import Cyclomatic.Java.Lexer

/-!
# Vocabulary of the grammar

Which words are keywords depends on the place: a word is reserved only where its keyword could
stand. The rules that refer to each other are named here, so that each can be written down on its
own.
-/

namespace Cyclomatic.Java

/-- Where an expression stands. -/
inductive Position where
  /-- Inside a statement or another expression. -/
  | inner
  /-- At the start of a statement, where more words are reserved. -/
  | statement
  /-- In a label of a switch, where an arrow ends the expression. -/
  | label
deriving DecidableEq, Repr

/-- The place of an operand that is not the first. -/
def Position.next : Position → Position
  | .label => .label
  | _ => .inner

/-- The rules that refer to each other. -/
inductive Nonterminal where
  /-- An expression of operators that bind at least as strongly as a number says. -/
  | expression (position : Position) (least : Nat)
  /-- A type that no annotation precedes and that starts with no reserved word. -/
  | plainType (reserved : List String)
  | annotationUse
  | elementValue
  | arrayInitializer
  | recordPattern
  | block
  | statement
  | classBody
  | interfaceBody
  | annotationBody
  | enumBody

/-- What the rules refer to. -/
abbrev Rules := Nonterminal → Rule

/-! ## Reserved words -/

/-- Primitive types of integers. -/
def integralTypes : List String := ["byte", "short", "int", "long", "char"]

/-- Primitive types of floating point numbers. -/
def floatingTypes : List String := ["float", "double"]

/-- All words that name a type by themselves. -/
def primitiveTypes : List String := integralTypes ++ floatingTypes ++ ["boolean", "void"]

/-- Words that are keywords in front of declarations only and names elsewhere. -/
def softKeywords : List String := ["open", "module", "record", "with", "sealed"]

/-- Modifiers of declarations that are single words. -/
def modifierWords : List String := [
  "public", "protected", "private", "abstract", "static", "final", "strictfp", "default",
  "synchronized", "native", "transient", "volatile", "sealed"]

/-- Words that are no names at the start of an expression. -/
def reservedInExpression : List String :=
  primitiveTypes ++ ["new", "this", "super", "true", "false", "null", "switch", "instanceof"]

/-- Words that are no names at the start of a statement. -/
def reservedInStatement : List String :=
  reservedInExpression ++ (modifierWords.filter fun word => !softKeywords.contains word) ++ [
    "if", "while", "for", "do", "break", "continue", "return", "yield", "throw", "try", "assert",
    "package", "import", "class", "interface", "enum", "case"]

/-- Words that are no names at the start of a member. -/
def reservedInMember : List String :=
  modifierWords ++ ["class", "interface", "enum", "record"]

/-- Words that are no names after a point. -/
def reservedAfterPoint : List String := ["class", "this", "super", "new"]

/-- Words that name no type at the start of an expression. -/
def reservedTypesInExpression : List String :=
  (reservedInExpression ++ softKeywords).filter fun word => !primitiveTypes.contains word

/-- Words that name no type at the start of a statement. -/
def reservedTypesInStatement : List String :=
  (reservedInStatement ++ softKeywords).filter fun word => !primitiveTypes.contains word

/-- The words that are no names where an expression starts. -/
def Position.reserved : Position → List String
  | .statement => reservedInStatement
  | _ => reservedInExpression

/-- The words that name no type where an expression starts. -/
def Position.reservedTypes : Position → List String
  | .statement => reservedTypesInStatement
  | _ => reservedTypesInExpression

namespace Rule

/-- Any word as a name. -/
def anyName : Rule := name []

/-- What a rule reads, in round brackets. -/
def inParentheses (rule : Rule) : Rule :=
  all [symbol "(", rule, symbol ")"]

/-- What a rule reads, in braces. -/
def inBraces (rule : Rule) : Rule :=
  all [symbol openBrace, rule, symbol closeBrace]

/-- What a rule reads, in angle brackets. -/
def inAngles (rule : Rule) : Rule :=
  all [symbol "<", rule, symbol ">"]

/-- Names with points between them. -/
def qualifiedName : Rule :=
  frame (anyName >=> many
    (all [tag "scope", symbol ".", field "name" anyName, close "scoped_identifier"]))

end Rule

/-- An expression inside another construct. -/
def Rules.anyExpression (rules : Rules) : Rule :=
  rules (.expression .inner 0)

/-- An expression in round brackets. -/
def Rules.parenthesized (rules : Rules) : Rule :=
  Rule.node "parenthesized_expression" [Rule.inParentheses rules.anyExpression]

end Cyclomatic.Java
