import Cyclomatic.Java.Grammar.Vocabulary

/-!
# Annotations and types
-/

namespace Cyclomatic.Java.Rules

open Rule

/-! ## Annotations -/

/-- `name = value` in an annotation. -/
def elementValuePair (rules : Rules) : Rule :=
  node "element_value_pair"
    [field "key" anyName, symbol "=", field "value" (rules .elementValue)]

/-- The arguments of an annotation: pairs or a single value. -/
def annotationArguments (rules : Rules) : Rule :=
  node "annotation_argument_list" [oneOf [
    inParentheses (commas rules.elementValuePair),
    inParentheses (rules .elementValue)]]

/-- An at sign that does not start the declaration of an annotation type. -/
def annotationMark : Rule :=
  fun cursor =>
    match cursor.rest with
    | mark :: next :: _ =>
        if next.kind = .word "interface" && mark.adjoins next then none else symbol "@" cursor
    | _ => none

/-- An annotation with or without arguments. -/
def annotationUse (rules : Rules) : Rule :=
  frame (all [annotationMark, field "name" qualifiedName] >=> oneOf [
    field "arguments" rules.annotationArguments >=> close "annotation",
    close "marker_annotation"])

/-- Any number of annotations. -/
def annotations (rules : Rules) : Rule :=
  many (rules .annotationUse)

/-- A value in an annotation. -/
def elementValue (rules : Rules) : Rule :=
  oneOf [
    node "element_value_array_initializer"
      [inBraces (commas (rules .elementValue) >=> maybe (symbol ","))],
    rules .annotationUse,
    rules.anyExpression]

/-- The modifier of a class that anyone may extend, written with a hyphen. -/
def nonSealed : Rule :=
  fun cursor =>
    match cursor.rest with
    | first :: hyphen :: last :: rest =>
        if first.kind = .word "non" && hyphen.kind = .symbol "-" && last.kind = .word "sealed" &&
            first.adjoins hyphen && hyphen.adjoins last then
          some (cursor.pushLeaf "non-sealed" false first last rest)
        else none
    | _ => none

/-- The modifiers of a declaration. -/
def modifiers (rules : Rules) : Rule :=
  node "modifiers"
    [some1 (oneOf (rules .annotationUse :: nonSealed :: modifierWords.map keyword))]

/-! ## Types -/

/-- Pairs of square brackets. -/
def dimensions (rules : Rules) : Rule :=
  node "dimensions" [some1 (all [rules.annotations, symbol "[", symbol "]"])]

/-- A type with annotations in front. -/
def anyType (rules : Rules) : Rule :=
  oneOf [
    node "annotated_type" [some1 (rules .annotationUse), rules (.plainType [])],
    rules (.plainType [])]

/-- An unknown type argument. -/
def wildcard (rules : Rules) : Rule :=
  node "wildcard" [rules.annotations, symbol "?", maybe (oneOf [
    keyword "extends" >=> rules.anyType,
    keywordAs "super" ["super"] >=> rules.anyType])]

/-- Type arguments; there may be none between the brackets. -/
def typeArguments (rules : Rules) : Rule :=
  node "type_arguments" [inAngles (commas (oneOf [rules.wildcard, rules.anyType]))]

/-- The type arguments of the type just read. -/
def generic (rules : Rules) : Rule :=
  maybe (rules.typeArguments >=> close "generic_type")

/-- A type that is no array. -/
def simpleType (rules : Rules) (reserved : List String) : Rule :=
  oneOf [
    keywordAs "integral_type" integralTypes,
    keywordAs "floating_point_type" floatingTypes,
    keywordAs "boolean_type" ["boolean"],
    keywordAs "void_type" ["void"],
    frame (all [
      nameAs "type_identifier" (primitiveTypes ++ reserved),
      rules.generic,
      many (all [
        symbol ".", rules.annotations, nameAs "type_identifier" reservedAfterPoint,
        close "scoped_type_identifier",
        rules.generic])])]

/-- A type that no annotation precedes. -/
def plainType (rules : Rules) (reserved : List String) : Rule :=
  frame (rules.simpleType reserved >=>
    maybe (tag "element" >=> field "dimensions" rules.dimensions >=> close "array_type"))

/-- Type parameters. -/
def typeParameters (rules : Rules) : Rule :=
  let bound := node "type_bound" [keyword "extends", separated "&" rules.anyType]
  let parameter :=
    node "type_parameter" [rules.annotations, nameAs "type_identifier" [], maybe bound]
  node "type_parameters" [inAngles (separated "," parameter)]

/-- Types separated by commas. -/
def typeList (rules : Rules) : Rule :=
  node "type_list" [separated "," rules.anyType]

end Cyclomatic.Java.Rules
