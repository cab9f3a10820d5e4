import Cyclomatic.Java.Grammar
import Cyclomatic.Proofs.Java.Correspondence

/-! # Corresponding tokens have corresponding trees

Nearly all rules of the grammar are put together from rules that keep readings exact, so they do it
themselves. The exceptions are the few rules that look at several tokens at once, and the two that
give the field `name` to more than one word: nothing they make is a unit. -/

namespace Cyclomatic.Java.Correspondence

open Rule Rules

-- Each field is looked for in the list of fields, one instance after the other.
set_option synthInstance.maxSize 400

variable {source other : ByteArray} {places : Correspondence source other}

/-! ## Vocabulary -/

instance : places.Respects anyName := by
  unfold anyName
  infer_instance

instance : places.Respects (field "name" anyName) :=
  inferInstanceAs (places.Respects (field "name" (name [])))

instance (rule : Rule) [places.Respects rule] : places.Respects (inParentheses rule) := by
  unfold inParentheses
  infer_instance

instance (rule : Rule) [places.Respects rule] : places.Respects (inBraces rule) := by
  unfold inBraces
  infer_instance

instance (rule : Rule) [places.Respects rule] : places.Respects (inAngles rule) := by
  unfold inAngles
  infer_instance

instance : places.Respects qualifiedName := by
  unfold qualifiedName
  infer_instance

/-! ## Several tokens at once -/

instance : places.Respects annotationMark := by
  refine ⟨fun cursor partner h => ?_⟩
  have hsymbol := (Respects.maps : places.Maps true true (symbol "@")) h
  have hrest := h.rest
  unfold annotationMark
  generalize cursor.rest = tokens at hrest ⊢
  generalize partner.rest = partners at hrest ⊢
  rcases hrest with _ | ⟨hmark, _ | ⟨hnext, _⟩⟩
  · exact .none
  · exact .none
  · dsimp only
    rw [← hnext.kind, ← hmark.adjoins_eq hnext]
    split
    · exact .none
    · exact hsymbol

instance : places.Respects nonSealed := by
  refine ⟨fun cursor partner h => ?_⟩
  have hrest := h.rest
  unfold nonSealed
  generalize cursor.rest = tokens at hrest ⊢
  generalize partner.rest = partners at hrest ⊢
  rcases hrest with _ | ⟨hfirst, _ | ⟨hhyphen, _ | ⟨hlast, hmore⟩⟩⟩
  · exact .none
  · exact .none
  · exact .none
  · dsimp only
    rw [← hfirst.kind, ← hhyphen.kind, ← hlast.kind, ← hfirst.adjoins_eq hhyphen,
      ← hhyphen.adjoins_eq hlast]
    split
    · exact .some (h.pushLeaf "non-sealed" false hfirst hlast hmore)
    · exact .none

instance : places.Respects annotationTypeMark := by
  refine ⟨fun cursor partner h => ?_⟩
  have hrest := h.rest
  unfold annotationTypeMark
  generalize cursor.rest = tokens at hrest ⊢
  generalize partner.rest = partners at hrest ⊢
  rcases hrest with _ | ⟨hmark, _ | ⟨hword, hmore⟩⟩
  · exact .none
  · exact .none
  · dsimp only
    rw [← hmark.kind, ← hword.kind, ← hmark.adjoins_eq hword]
    split
    · exact .some (h.pushLeaf "@interface" false hmark hword hmore)
    · exact .none

/-- A name of several words may hold white space. -/
theorem maps_qualifiedName : places.Maps true false (field "name" qualifiedName) :=
  Maps.frame (Maps.andThen Respects.maps (Maps.tag nofun))

section Rules

variable (rules : Rules) [∀ nonterminal, places.Respects (rules nonterminal)]

instance : places.Respects rules.anyExpression := by
  unfold Rules.anyExpression
  infer_instance

instance : places.Respects rules.parenthesized := by
  unfold Rules.parenthesized
  infer_instance

/-! ## Types -/

instance : places.Respects rules.annotationArguments := by
  unfold annotationArguments elementValuePair
  infer_instance

instance : places.Respects rules.annotationUse := by
  have harguments : places.Maps false false (field "arguments" rules.annotationArguments) :=
    Maps.frame (Respects.maps : places.Maps true true
      (rules.annotationArguments >=> tag "arguments"))
  have hmark : places.Maps true true annotationMark := Respects.maps
  refine ⟨Maps.frame (Maps.andThen (hmark.andThen (maps_qualifiedName.andThen Maps.nothing)) ?_)⟩
  refine Maps.oneOf_cons (harguments.andThen ?_) (Maps.oneOf_cons ?_ Maps.oneOf_nil)
  · exact Maps.close (Or.inr (by decide))
  · exact Maps.close (Or.inr (by decide))

instance : places.Respects rules.annotations := by
  unfold Rules.annotations
  infer_instance

instance : places.Respects rules.elementValue := by
  unfold elementValue
  infer_instance

instance : places.Respects rules.modifiers := by
  unfold modifiers
  infer_instance

instance : places.Respects rules.dimensions := by
  unfold dimensions
  infer_instance

instance : places.Respects rules.anyType := by
  unfold anyType
  infer_instance

instance : places.Respects rules.typeArguments := by
  unfold typeArguments wildcard
  infer_instance

instance (reserved : List String) : places.Respects (rules.simpleType reserved) := by
  unfold simpleType generic
  infer_instance

instance (reserved : List String) : places.Respects (rules.plainType reserved) := by
  unfold plainType
  infer_instance

instance : places.Respects rules.typeParameters := by
  unfold typeParameters
  infer_instance

instance : places.Respects rules.typeList := by
  unfold typeList
  infer_instance

/-! ## Declarators and parameters -/

instance (reserved : List String) : places.Respects (rules.declaredName reserved) := by
  unfold declaredName
  infer_instance

instance : places.Respects rules.initializer := by
  unfold initializer
  infer_instance

instance : places.Respects rules.arrayInitializer := by
  unfold arrayInitializer
  infer_instance

instance (reserved : List String) : places.Respects (rules.declarator reserved) := by
  unfold declarator
  infer_instance

instance (reserved : List String) : places.Respects (rules.declarators reserved) := by
  unfold declarators
  infer_instance

instance : places.Respects rules.formalParameters := by
  unfold formalParameters receiverParameter spreadParameter formalParameter
  infer_instance

/-! ## Expressions -/

instance : places.Respects rules.stringLiteral := by
  unfold stringLiteral
  infer_instance

instance : places.Respects rules.argumentList := by
  unfold argumentList
  infer_instance

instance : places.Respects rules.newObject := by
  unfold newObject
  infer_instance

instance : places.Respects rules.referenceTail := by
  unfold referenceTail
  infer_instance

instance (position : Position) : places.Respects (rules.primaryStart position) := by
  unfold primaryStart literal typeReference newArray
  infer_instance

instance : places.Respects rules.primaryTail := by
  unfold primaryTail
  infer_instance

instance (position : Position) : places.Respects (rules.primary position) := by
  unfold primary
  infer_instance

instance (position : Position) : places.Respects (rules.primaryOrAssignment position) := by
  unfold primaryOrAssignment assignmentOperator
  infer_instance

instance (position : Position) : places.Respects (rules.lambda position) := by
  unfold lambda
  infer_instance

instance (position : Position) : places.Respects (rules.cast position) := by
  unfold Rules.cast
  infer_instance

instance (position : Position) : places.Respects (rules.unary position) := by
  unfold unary
  infer_instance

instance : places.Respects rules.recordPattern := by
  unfold recordPattern
  infer_instance

instance : places.Respects rules.switchLabel := by
  unfold switchLabel typePattern
  infer_instance

instance (position : Position) : places.Respects (rules.expressionStatement position) := by
  unfold expressionStatement
  infer_instance

instance : places.Respects rules.throwStatement := by
  unfold throwStatement
  infer_instance

instance : places.Respects rules.switchExpression := by
  unfold switchExpression switchBlock
  infer_instance

instance (position : Position) : places.Respects (rules.operand position) := by
  unfold operand
  infer_instance

theorem respects_of_mem_binaryOperators {operator : Nat × Rule} (h : operator ∈ binaryOperators) :
    places.Respects operator.2 := by
  have hall : ∀ operator ∈ binaryOperators, places.Respects operator.2 := by
    simp only [binaryOperators, List.forall_mem_cons, List.not_mem_nil, false_implies,
      implies_true, and_true]
    and_intros <;> infer_instance
  exact hall operator h

instance (position : Position) (least : Nat) :
    places.Respects (rules.binaryTail position least) := by
  refine ⟨Maps.oneOf fun rule hmem => ?_⟩
  obtain ⟨operator, hoperator, rfl⟩ := List.mem_map.mp hmem
  have hsymbol : places.Respects operator.2 :=
    respects_of_mem_binaryOperators (List.mem_filter.mp hoperator).1
  exact Respects.maps

instance (position : Position) (least : Nat) :
    places.Respects (rules.typeTestTail position least) := by
  unfold typeTestTail
  infer_instance

instance (position : Position) (least : Nat) :
    places.Respects (rules.expression position least) := by
  unfold Rules.expression ternaryTail
  infer_instance

/-! ## Declarations -/

instance (kinds : List Rule) [places.Respects (oneOf kinds)] :
    places.Respects (rules.declared kinds) := by
  unfold declared
  infer_instance

instance : places.Respects rules.superInterfaces := by
  unfold superInterfaces
  infer_instance

instance : places.Respects rules.permits := by
  unfold permits
  infer_instance

instance : places.Respects rules.ownTypeParameters := by
  unfold ownTypeParameters
  infer_instance

instance : places.Respects rules.throwsClause := by
  unfold throwsClause
  infer_instance

instance : places.Respects (oneOf rules.nestedTypes) := by
  unfold nestedTypes classRest interfaceRest enumRest annotationTypeRest
  infer_instance

instance : places.Respects rules.recordRest := by
  unfold recordRest
  infer_instance

instance : places.Respects rules.methodRest := by
  unfold methodRest
  infer_instance

instance : places.Respects rules.constructorCall := by
  unfold constructorCall
  infer_instance

instance : places.Respects rules.constructorRest := by
  unfold constructorRest
  infer_instance

instance : places.Respects rules.compactConstructorRest := by
  unfold compactConstructorRest
  infer_instance

instance (kind : String) : places.Respects (rules.variablesRest kind) := by
  unfold variablesRest
  infer_instance

instance : places.Respects rules.classMember := by
  unfold classMember
  infer_instance

instance : places.Respects rules.classBody := by
  unfold classBody
  infer_instance

instance : places.Respects rules.interfaceBody := by
  unfold interfaceBody
  infer_instance

instance : places.Respects rules.annotationBody := by
  unfold annotationBody
  infer_instance

instance : places.Respects rules.enumBody := by
  unfold enumBody
  infer_instance

instance : places.Respects rules.moduleDeclaration := by
  have hannotations : places.Maps true true rules.annotations := Respects.maps
  have hopen : places.Maps true true (maybe (keyword "open")) := Respects.maps
  have hmodule : places.Maps true true (keyword "module") := Respects.maps
  have hbody : places.Maps false false
      (field "body" (node "module_body" [inBraces (many moduleDirective)])) := by
    unfold moduleDirective names
    exact Maps.frame Respects.maps
  have hall := hannotations.andThen (hopen.andThen (hmodule.andThen
    (maps_qualifiedName.andThen (hbody.andThen Maps.nothing))))
  exact ⟨Maps.frame (hall.andThen (Maps.close (Or.inr (by decide))))⟩

instance : places.Respects (oneOf rules.localDeclarations) := by
  unfold localDeclarations packageDeclaration importDeclaration localVariablesRest
  infer_instance

/-! ## Statements -/

instance : places.Respects rules.block := by
  unfold Rules.block
  infer_instance

instance : places.Respects rules.catchClause := by
  unfold catchClause
  infer_instance

instance : places.Respects rules.finallyClause := by
  unfold finallyClause
  infer_instance

instance : places.Respects rules.tryWithResources := by
  unfold tryWithResources resource
  infer_instance

instance : places.Respects (oneOf rules.simpleStatements) := by
  unfold simpleStatements jump announced
  infer_instance

instance : places.Respects rules.forStatement := by
  unfold forStatement
  infer_instance

instance : places.Respects rules.tryStatement := by
  unfold tryStatement
  infer_instance

instance : places.Respects rules.forEachStatement := by
  unfold forEachStatement
  infer_instance

instance : places.Respects rules.statement := by
  unfold Rules.statement ifStatement whileStatement doStatement labeledStatement
  infer_instance

instance (nonterminal : Nonterminal) : places.Respects (rules.define nonterminal) := by
  cases nonterminal <;> dsimp only [Rules.define] <;> infer_instance

instance : places.Respects (program rules) := by
  unfold program
  infer_instance

end Rules

/-! ## Whole texts -/

instance respects_rulesWithin (depth : Nat) (nonterminal : Nonterminal) :
    places.Respects (rulesWithin depth nonterminal) := by
  induction depth generalizing nonterminal with
  | zero => exact ⟨fun _ _ _ => .none⟩
  | succ depth ih =>
      have hrules : ∀ inner, places.Respects (rulesWithin depth inner) := ih
      exact inferInstanceAs (places.Respects (Rules.define (rulesWithin depth) nonterminal))

/-- The tree of a text that has been cut into tokens. -/
def treeOf (source : ByteArray) (tokens : List Token) : Option Node := do
  let rules : Rules := rulesWithin (depthPerToken * (tokens.length + 1))
  let cursor ← program rules ⟨source, tokens, []⟩
  match cursor.rest with
  | [last] =>
      let children := (last.comments.foldl Cursor.pushComment cursor).children.reverse
      some {
        kind := "program"
        bytes := some source
        children := children.map (·.node)
        fields := Rule.fieldsFrom 0 children }
  | _ => none

theorem parse?_eq (text : List Char) :
    parse? text = (tokenize text).bind (treeOf (String.ofList text).toUTF8) := rfl

theorem Cursors.program_node {cursor partner : Cursor} (h : places.Cursors true cursor partner) :
    Alike
      { kind := "program"
        bytes := some source
        children := cursor.children.reverse.map (·.node)
        fields := fieldsFrom 0 cursor.children.reverse }
      { kind := "program"
        bytes := some other
        children := partner.children.reverse.map (·.node)
        fields := fieldsFrom 0 partner.children.reverse } := by
  have hchildren := List.rel_reverse h.children
  exact .intro rfl rfl (fieldsFrom_eq hchildren 0) places.words_whole nofun
    (List.rel_map (fun _ _ hchild => hchild.node) hchildren)

/-- Corresponding tokens give trees that are reported alike, or none in both cases. -/
theorem treeOf_rel (places : Correspondence source other) {tokens partners : List Token}
    (h : List.Forall₂ places.Tokens tokens partners) :
    Option.Rel Alike (treeOf source tokens) (treeOf other partners) := by
  have hstart : places.Cursors true ⟨source, tokens, []⟩ ⟨other, partners, []⟩ :=
    ⟨rfl, rfl, h, .nil⟩
  have hmaps : places.Maps true true
      (program (rulesWithin (depthPerToken * (tokens.length + 1)))) := Respects.maps
  unfold treeOf
  rw [← h.length_eq]
  dsimp only [bind]
  rcases rel_cases (hmaps hstart) with ⟨hc, hp⟩ | ⟨cursor, partner, hc, hp, hend⟩
  · rw [hc, hp]
    exact .none
  · rw [hc, hp, Option.bind_some, Option.bind_some]
    have hrest := hend.rest
    generalize cursor.rest = rest at hrest ⊢
    generalize partner.rest = restPartner at hrest ⊢
    rcases hrest with _ | ⟨hlast, _ | ⟨_, _⟩⟩
    · exact .none
    · exact .some (hend.pushComments hlast.comments).program_node
    · exact .none

end Cyclomatic.Java.Correspondence
