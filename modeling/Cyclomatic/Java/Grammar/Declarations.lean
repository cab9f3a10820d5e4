import Cyclomatic.Java.Grammar.Expressions

/-!
# Declarations

Classes, interfaces, enumerations, records, annotation types and their members; modules, packages
and imports. A declaration is read in two parts: its modifiers, and what its keyword announces.
-/

namespace Cyclomatic.Java.Rules

open Rule

/-- A declaration: its modifiers, and then one of several kinds. -/
def declared (rules : Rules) (kinds : List Rule) : Rule :=
  frame (maybe rules.modifiers >=> oneOf kinds)

/-! ## Types -/

/-- The interfaces that a class implements. -/
def superInterfaces (rules : Rules) : Rule :=
  maybe (field "interfaces" (node "super_interfaces" [keyword "implements", rules.typeList]))

/-- The classes that may extend a class. -/
def permits (rules : Rules) : Rule :=
  maybe (field "permits" (node "permits" [keyword "permits", rules.typeList]))

/-- Type parameters of a declaration. -/
def ownTypeParameters (rules : Rules) : Rule :=
  maybe (field "type_parameters" rules.typeParameters)

/-- A class, after its modifiers. -/
def classRest (rules : Rules) : Rule :=
  all [
    keyword "class",
    field "name" anyName,
    rules.ownTypeParameters,
    maybe (field "superclass" (node "superclass" [keyword "extends", rules.anyType])),
    rules.superInterfaces,
    rules.permits,
    field "body" (rules .classBody),
    close "class_declaration"]

/-- An interface, after its modifiers. -/
def interfaceRest (rules : Rules) : Rule :=
  all [
    keyword "interface",
    field "name" anyName,
    rules.ownTypeParameters,
    maybe (node "extends_interfaces" [keyword "extends", rules.typeList]),
    rules.permits,
    field "body" (rules .interfaceBody),
    close "interface_declaration"]

/-- An enumeration, after its modifiers. -/
def enumRest (rules : Rules) : Rule :=
  all [
    keyword "enum",
    field "name" anyName,
    rules.superInterfaces,
    field "body" (rules .enumBody),
    close "enum_declaration"]

/-- A record, after its modifiers. -/
def recordRest (rules : Rules) : Rule :=
  all [
    keyword "record",
    field "name" anyName,
    rules.ownTypeParameters,
    field "parameters" rules.formalParameters,
    rules.superInterfaces,
    field "body" (rules .classBody),
    close "record_declaration"]

/-- The keyword of an annotation type: an at sign and a word without a gap. -/
def annotationTypeMark : Rule :=
  fun cursor =>
    match cursor.rest with
    | mark :: word :: rest =>
        if mark.kind = .symbol "@" && word.kind = .word "interface" && mark.adjoins word then
          some (cursor.pushLeaf "@interface" false mark word rest)
        else none
    | _ => none

/-- An annotation type, after its modifiers. -/
def annotationTypeRest (rules : Rules) : Rule :=
  all [
    annotationTypeMark,
    field "name" anyName,
    field "body" (rules .annotationBody),
    close "annotation_type_declaration"]

/-! ## Members -/

/-- The exceptions that a method may throw. -/
def throwsClause (rules : Rules) : Rule :=
  maybe (node "throws" [keyword "throws", separated "," rules.anyType])

/-- A method, after its modifiers. -/
def methodRest (rules : Rules) : Rule :=
  all [
    maybe (field "type_parameters" rules.typeParameters >=> rules.annotations),
    field "type" (rules (.plainType reservedInMember)),
    field "name" anyName,
    field "parameters" rules.formalParameters,
    maybe (field "dimensions" rules.dimensions),
    rules.throwsClause,
    oneOf [field "body" (rules .block), symbol ";"],
    close "method_declaration"]

/-- The call of another constructor at the start of a constructor. -/
def constructorCall (rules : Rules) : Rule :=
  let arguments := field "arguments" rules.argumentList
  let types := maybe (field "type_arguments" rules.typeArguments)
  oneOf [
    node "explicit_constructor_invocation" [
      types,
      field "constructor" (oneOf [keywordAs "this" ["this"], keywordAs "super" ["super"]]),
      arguments,
      symbol ";"],
    node "explicit_constructor_invocation" [
      field "object" (rules.primary .statement),
      symbol ".",
      types,
      field "constructor" (keywordAs "super" ["super"]),
      arguments,
      symbol ";"]]

/-- A constructor, after its modifiers. -/
def constructorRest (rules : Rules) : Rule :=
  let body := node "constructor_body"
    [inBraces (maybe rules.constructorCall >=> many (rules .statement))]
  all [
    rules.ownTypeParameters,
    field "name" (name (primitiveTypes ++ reservedInMember)),
    field "parameters" rules.formalParameters,
    rules.throwsClause,
    field "body" body,
    close "constructor_declaration"]

/-- The constructor of a record that leaves out its parameters, after its modifiers. -/
def compactConstructorRest (rules : Rules) : Rule :=
  all [
    field "name" (name (primitiveTypes ++ reservedInMember)),
    field "body" (rules .block),
    close "compact_constructor_declaration"]

/-- Variables of a class, after their modifiers. -/
def variablesRest (rules : Rules) (kind : String) : Rule :=
  all [
    field "type" (rules (.plainType reservedInMember)),
    rules.declarators [],
    close kind]

/-- The declarations of types that any body may hold. -/
def nestedTypes (rules : Rules) : List Rule :=
  [rules.classRest, rules.interfaceRest, rules.enumRest, rules.annotationTypeRest]

/-- A member of a class. -/
def classMember (rules : Rules) : Rule :=
  oneOf [
    symbol ";",
    rules .block,
    node "static_initializer" [keyword "static", rules .block],
    rules.declared (rules.nestedTypes ++ [
      rules.recordRest,
      rules.constructorRest,
      rules.methodRest,
      rules.compactConstructorRest,
      rules.variablesRest "field_declaration"])]

/-- The body of a class. -/
def classBody (rules : Rules) : Rule :=
  node "class_body" [inBraces (many rules.classMember)]

/-- The body of an interface. -/
def interfaceBody (rules : Rules) : Rule :=
  let member := rules.declared (rules.nestedTypes ++ [
    rules.recordRest, rules.methodRest, rules.variablesRest "constant_declaration"])
  node "interface_body" [inBraces (many (oneOf [symbol ";", member]))]

/-- The body of an annotation type. -/
def annotationBody (rules : Rules) : Rule :=
  let element := all [
    field "type" (rules (.plainType reservedInMember)),
    field "name" anyName,
    symbol "(",
    symbol ")",
    maybe (field "dimensions" rules.dimensions),
    maybe (keyword "default" >=> field "value" (rules .elementValue)),
    symbol ";",
    close "annotation_type_element_declaration"]
  let member := rules.declared
    (rules.nestedTypes ++ [element, rules.variablesRest "constant_declaration"])
  node "annotation_type_body" [inBraces (many (oneOf [symbol ";", member]))]

/-- The body of an enumeration. -/
def enumBody (rules : Rules) : Rule :=
  let constant := node "enum_constant" [
    maybe rules.modifiers,
    field "name" anyName,
    maybe (field "arguments" rules.argumentList),
    maybe (field "body" (rules .classBody))]
  let members := node "enum_body_declarations" [symbol ";", many rules.classMember]
  node "enum_body" [inBraces (all [commas constant, maybe (symbol ","), maybe members])]

/-! ## Modules, packages and imports -/

/-- Names separated by commas. -/
def names : Rule := separated "," qualifiedName

/-- A line in the declaration of a module. -/
def moduleDirective : Rule :=
  let toNames := maybe (keyword "to" >=> names)
  let required := node "requires_modifier" [oneOf [keyword "transitive", keyword "static"]]
  oneOf [
    node "requires_module_directive"
      [keyword "requires", many required, qualifiedName, symbol ";"],
    node "exports_module_directive" [keyword "exports", qualifiedName, toNames, symbol ";"],
    node "opens_module_directive" [keyword "opens", qualifiedName, toNames, symbol ";"],
    node "uses_module_directive" [keyword "uses", qualifiedName, symbol ";"],
    node "provides_module_directive"
      [keyword "provides", qualifiedName, keyword "with", names, symbol ";"]]

/-- A module. -/
def moduleDeclaration (rules : Rules) : Rule :=
  node "module_declaration" [
    rules.annotations,
    maybe (keyword "open"),
    keyword "module",
    field "name" qualifiedName,
    field "body" (node "module_body" [inBraces (many moduleDirective)])]

/-- The package that a file belongs to. -/
def packageDeclaration (rules : Rules) : Rule :=
  node "package_declaration" [rules.annotations, keyword "package", qualifiedName, symbol ";"]

/-- An import. -/
def importDeclaration : Rule :=
  node "import_declaration" [
    keyword "import",
    maybe (keyword "static"),
    qualifiedName,
    maybe (symbol "." >=> symbol "*"),
    symbol ";"]

end Cyclomatic.Java.Rules
