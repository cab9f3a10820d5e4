import Cyclomatic.Java.Grammar.Statements
import Cyclomatic.Java.Parser

/-!
# A grammar of Java

The rules are tied together by a bound on how deeply they are nested, which the number of tokens
provides. A source text is a sequence of statements and methods, so that snippets can be analyzed
too. The analyses do not refer to this grammar: it is one parser package among others, which the
program brings along.
-/

namespace Cyclomatic.Java

/-- What each rule says, given the others. -/
def Rules.define (rules : Rules) : Nonterminal → Rule
  | .expression position least => rules.expression position least
  | .plainType reserved => rules.plainType reserved
  | .annotationUse => rules.annotationUse
  | .elementValue => rules.elementValue
  | .arrayInitializer => rules.arrayInitializer
  | .recordPattern => rules.recordPattern
  | .block => rules.block
  | .statement => rules.statement
  | .classBody => rules.classBody
  | .interfaceBody => rules.interfaceBody
  | .annotationBody => rules.annotationBody
  | .enumBody => rules.enumBody

/-- The rules, nested at most `depth` times. -/
def rulesWithin : Nat → Nonterminal → Cursor → Option Cursor
  | 0, _, _ => none
  | depth + 1, nonterminal, cursor =>
      Rules.define (fun inner next => rulesWithin depth inner next) nonterminal cursor

/-- How deeply rules are nested at most for each token: no rule refers to a chain of more rules
than this without reading a token. -/
def depthPerToken : Nat := 4

/-- A whole source text. -/
def program (rules : Rules) : Rule :=
  Rule.many (Rule.oneOf [rules .statement, rules.declared [rules.methodRest]])

/-- The syntax tree of a source text, if it has one. -/
def parse? (source : List Char) : Option Node := do
  let tokens ← tokenize source
  let text := (String.ofList source).toUTF8
  let rules : Rules := rulesWithin (depthPerToken * (tokens.length + 1))
  let cursor ← program rules ⟨text, tokens, []⟩
  match cursor.rest with
  | [last] =>
      let children := (last.comments.foldl Cursor.pushComment cursor).children.reverse
      some {
        kind := "program"
        bytes := some text
        children := children.map (·.node)
        fields := Rule.fieldsFrom 0 children }
  | _ => none

/-- The grammar as a parser package. Bytes that are no source text get a tree that says that there
is an error, but not where. -/
def recognize (bytes : ByteArray) : SyntaxTree :=
  match parse? (Text.decode bytes.toList) with
  | some root => ⟨root, false⟩
  | none => ⟨{ kind := "program", bytes := some bytes }, true⟩

end Cyclomatic.Java
