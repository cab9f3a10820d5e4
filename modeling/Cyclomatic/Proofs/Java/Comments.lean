import Cyclomatic.Java.Units
import Cyclomatic.Proofs.Text.Separated
import Mathlib.Data.List.TakeDrop

/-! # Comments among parameters

Comments are nodes of a syntax tree like all others, and they may stand anywhere between the
parameters of a unit and inside of them. A parameter finds its type by a field, whatever stands
around it. The last parameter of a unit that takes any number of arguments has no such field: its
type is the first child that is neither a modifier nor the declared name. A comment before the type
takes its place, and the unit is named after the comment. -/

namespace Cyclomatic.Java

open Text

/-! ## Comments put into a tree -/

/-- A comment, whatever its text is. -/
def IsComment (node : Node) : Prop :=
  (node.kind = "line_comment" ∨ node.kind = "block_comment") ∧ node.named = true

/-- A comment that starts with a slash, as those of a source text do. -/
def IsSlashComment (node : Node) : Prop :=
  IsComment node ∧ node.text.head? = some '/'

section

variable (inserted : Node → Prop)

/-- Nodes are inserted among others, which may change in their places. -/
inductive Woven (changed : Node → Node → Prop) : List Node → List Node → Prop where
  | nil : Woven changed [] []
  | insert {node : Node} {before after : List Node} (hnode : inserted node)
      (hrest : Woven changed before after) : Woven changed before (node :: after)
  | keep {old new : Node} {before after : List Node} (hnode : changed old new)
      (hrest : Woven changed before after) : Woven changed (old :: before) (new :: after)

/-- Nodes are inserted among the children of a parameter. Its fields lead to the same children. -/
structure InsideParameter (before after : Node) : Prop where
  kind : after.kind = before.kind
  named : after.named = before.named
  fields : ∀ field, after.child? field = before.child? field
  children : Woven inserted Eq before.children after.children

/-- Whether a child of a parameter without fields is taken for its type if it is the first one. -/
def standsForType (child : Node) : Bool :=
  child.named && (child.kind != "modifiers" && child.kind != "variable_declarator")

/-- Nodes are inserted among the children of a parameter, but none before its type. -/
inductive TypeFirst : List Node → List Node → Prop where
  | nil : TypeFirst [] []
  | skip {child : Node} {before after : List Node} (hchild : standsForType child = false)
      (hrest : TypeFirst before after) : TypeFirst (child :: before) (child :: after)
  | type {child : Node} {before after : List Node} (hchild : standsForType child = true)
      (hrest : Woven inserted Eq before after) : TypeFirst (child :: before) (child :: after)

/-- No node is inserted before the type of a parameter that is found by its place. -/
structure BehindType (before after : Node) : Prop
    extends InsideParameter inserted before after where
  type : before.named = true → before.kind = "spread_parameter" →
    TypeFirst inserted before.children after.children

/-- Nodes are inserted among the parameters of a declaration, which may change in their places. -/
structure AmongParameters (changed : Node → Node → Prop) (before after : Node) : Prop where
  name : after.child? "name" = before.child? "name"
  parameters : Option.Rel (fun old new => Woven inserted changed old.children new.children)
    (before.child? "parameters") (after.child? "parameters")

end

variable {inserted : Node → Prop}

/-! ## Types -/

theorem parameterType_spread {parameter : Node} (h : parameter.kind = "spread_parameter") :
    parameterType parameter = ((parameter.children.find? standsForType).map fun child =>
      squash child.text ++ ['.', '.', '.']).getD [] := by
  have hformal : ¬ (parameter.kind == "formal_parameter") = true := by rw [h]; decide
  have hspread : (parameter.kind == "spread_parameter") = true := by rw [h]; decide
  have hfind : parameter.namedChildren.find? (fun child =>
      child.kind != "modifiers" && child.kind != "variable_declarator") =
        parameter.children.find? standsForType := by
    rw [Node.namedChildren, List.find?_filter]
    congr 1
    funext child
    simp only [Bool.decide_and, Bool.decide_eq_true, standsForType]
  rw [parameterType, if_neg hformal, if_pos hspread, hfind]
  cases parameter.children.find? standsForType <;> rfl

theorem parameterType_of_fields {before after : Node} (hkind : after.kind = before.kind)
    (hfields : ∀ field, after.child? field = before.child? field)
    (hspread : before.kind ≠ "spread_parameter") :
    parameterType after = parameterType before := by
  have hother : ¬ (before.kind == "spread_parameter") = true := by simpa using hspread
  simp only [parameterType, hkind, hfields, if_neg hother]

theorem IsComment.parameterType {comment : Node} (h : IsComment comment) :
    parameterType comment = [] := by
  rcases h.1 with hkind | hkind <;> simp [Java.parameterType, hkind]

theorem IsComment.standsForType {comment : Node} (h : IsComment comment) :
    standsForType comment = true := by
  rcases h.1 with hkind | hkind <;> simp [Java.standsForType, h.2, hkind]

/-- An inserted comment comes after the type, or it is taken for the type. -/
theorem Woven.typeFirst_or_comment (hi : ∀ node, inserted node → IsComment node)
    {before after : List Node} (h : Woven inserted Eq before after) :
    TypeFirst inserted before after ∨
      ∃ comment, inserted comment ∧ after.find? standsForType = some comment := by
  induction h with
  | nil => exact Or.inl .nil
  | @insert node before after hnode _ _ =>
      exact Or.inr ⟨node, hnode, List.find?_cons_of_pos (hi node hnode).standsForType⟩
  | @keep old new before after hsame hrest ih =>
      subst hsame
      cases hchild : standsForType old with
      | true => exact Or.inl (.type hchild hrest)
      | false =>
          rw [List.find?_cons_of_neg (by simp [hchild])]
          exact ih.imp_left (.skip hchild)

theorem TypeFirst.find?_eq {before after : List Node} (h : TypeFirst inserted before after) :
    after.find? standsForType = before.find? standsForType := by
  induction h with
  | nil => rfl
  | skip hchild _ ih => simpa [List.find?_cons, hchild] using ih
  | type hchild _ => rw [List.find?_cons_of_pos hchild, List.find?_cons_of_pos hchild]

theorem InsideParameter.behindType_or_comment (hi : ∀ node, inserted node → IsComment node)
    {before after : Node} (h : InsideParameter inserted before after) :
    BehindType inserted before after ∨
      before.named = true ∧ before.kind = "spread_parameter" ∧
        ∃ comment, inserted comment ∧ after.children.find? standsForType = some comment := by
  by_cases hspread : before.named = true ∧ before.kind = "spread_parameter"
  · rcases h.children.typeFirst_or_comment hi with hfirst | hfound
    · exact Or.inl ⟨h, fun _ _ => hfirst⟩
    · exact Or.inr ⟨hspread.1, hspread.2, hfound⟩
  · exact Or.inl ⟨h, fun hnamed hkind => absurd ⟨hnamed, hkind⟩ hspread⟩

theorem BehindType.parameterType {before after : Node} (h : BehindType inserted before after)
    (hnamed : before.named = true) : parameterType after = parameterType before := by
  by_cases hspread : before.kind = "spread_parameter"
  · rw [parameterType_spread (h.kind.trans hspread), parameterType_spread hspread,
      (h.type hnamed hspread).find?_eq]
  · exact parameterType_of_fields h.kind h.fields hspread

/-- The types of the parameters among some nodes. -/
def typesAmong (nodes : List Node) : List (List Char) :=
  ((nodes.filter (·.named)).map parameterType).filter fun type => !type.isEmpty

theorem parameterTypes_eq (declaration : Node) :
    parameterTypes declaration =
      ((declaration.child? "parameters").map fun parameters => typesAmong parameters.children).getD
        [] := by
  unfold parameterTypes
  cases declaration.child? "parameters" <;> rfl

theorem typesAmong_cons (node : Node) (nodes : List Node) :
    typesAmong (node :: nodes) = typesAmong [node] ++ typesAmong nodes := by
  have hcons : node :: nodes = [node] ++ nodes := rfl
  unfold typesAmong
  rw [hcons, List.filter_append, List.map_append, List.filter_append]

theorem ne_nil_of_mem_typesAmong {nodes : List Node} {type : List Char}
    (h : type ∈ typesAmong nodes) : type ≠ [] := by
  simpa using (List.mem_filter.mp h).2

theorem IsComment.typesAmong {comment : Node} (h : IsComment comment) :
    typesAmong [comment] = [] := by
  simp [Java.typesAmong, h.2, h.parameterType]

theorem BehindType.typesAmong {old new : Node} (h : BehindType inserted old new) :
    typesAmong [new] = typesAmong [old] := by
  unfold Java.typesAmong
  cases hnamed : old.named with
  | true => simp [h.named, hnamed, h.parameterType hnamed]
  | false => simp [h.named, hnamed]

/-- Comments behind the types leave the types as they are. -/
theorem Woven.typesAmong_eq (hi : ∀ node, inserted node → IsComment node)
    {before after : List Node} (h : Woven inserted (BehindType inserted) before after) :
    typesAmong after = typesAmong before := by
  induction h with
  | nil => rfl
  | insert hnode _ ih => rw [typesAmong_cons, (hi _ hnode).typesAmong, ih, List.nil_append]
  | @keep old new before after hnode _ ih =>
      rw [typesAmong_cons new, typesAmong_cons old, hnode.typesAmong, ih]

/-! ## Comments that are taken for types -/

/-- A text that does not start with a blank keeps its first character. -/
theorem head?_squash {c : Char} (hc : isBlank c = false) (rest : List Char) :
    (squash (c :: rest)).head? = some c := by
  have hword : firstWord (c :: rest) =
      (c :: rest.takeWhile fun d => !isBlank d, rest.dropWhile fun d => !isBlank d) := by
    simp [firstWord, List.span_eq_takeWhile_dropWhile, hc]
  rw [squash, words, List.length_cons, wordsWithin, hword, intercalate_cons_eq_flatMap]
  rfl

theorem IsSlashComment.head?_squash {comment : Node} (h : IsSlashComment comment) :
    (squash comment.text).head? = some '/' := by
  obtain ⟨rest, htext⟩ := List.head?_eq_some_iff.mp h.2
  rw [htext]
  exact Java.head?_squash (by decide) rest

theorem typesAmong_of_find? {parameter comment : Node} (hnamed : parameter.named = true)
    (hkind : parameter.kind = "spread_parameter")
    (hfound : parameter.children.find? standsForType = some comment) :
    typesAmong [parameter] = [squash comment.text ++ ['.', '.', '.']] := by
  have htype : parameterType parameter = squash comment.text ++ ['.', '.', '.'] := by
    rw [parameterType_spread hkind, hfound]
    rfl
  simp [typesAmong, hnamed, htype]

/-- The text of some types, each with a separator before it. -/
def separated (types : List (List Char)) : List Char :=
  types.flatMap ([',', ' '] ++ ·)

theorem separated_eq_append_intercalate {types : List (List Char)} (h : types ≠ []) :
    separated types = [',', ' '] ++ List.intercalate [',', ' '] types := by
  obtain ⟨type, types, rfl⟩ := List.exists_cons_of_ne_nil h
  rw [intercalate_cons_eq_flatMap, separated, List.flatMap_cons, List.append_assoc]

theorem intercalate_eq_nil_iff {types : List (List Char)} (h : ∀ type ∈ types, type ≠ []) :
    List.intercalate [',', ' '] types = [] ↔ types = [] := by
  cases types with
  | nil => simp
  | cons type types => simp [intercalate_cons_eq_flatMap, h type List.mem_cons_self]

theorem separated_eq_of_intercalate_eq {types others : List (List Char)}
    (ht : ∀ type ∈ types, type ≠ []) (ho : ∀ type ∈ others, type ≠ [])
    (h : List.intercalate [',', ' '] types = List.intercalate [',', ' '] others) :
    separated types = separated others := by
  have hnil : types = [] ↔ others = [] := by
    rw [← intercalate_eq_nil_iff ht, h, intercalate_eq_nil_iff ho]
  by_cases htypes : types = []
  · rw [htypes, hnil.mp htypes]
  · rw [separated_eq_append_intercalate htypes,
      separated_eq_append_intercalate (mt hnil.mpr htypes), h]

/-- Types of which none starts with a slash do not read like types of which the first does. -/
theorem separated_ne_of_slash {type : List Char} (hslash : type.head? = some '/')
    {types others : List (List Char)}
    (hplain : ∀ other ∈ others, other ≠ [] ∧ other.head? ≠ some '/') :
    separated (type :: types) ≠ separated others := by
  intro hsame
  obtain ⟨rest, rfl⟩ := List.head?_eq_some_iff.mp hslash
  cases others with
  | nil => simp [separated] at hsame
  | cons other others =>
      obtain ⟨hne, hhead⟩ := hplain other List.mem_cons_self
      obtain ⟨c, cs, rfl⟩ := List.exists_cons_of_ne_nil hne
      simp only [separated, List.flatMap_cons, List.cons_append, List.nil_append,
        List.cons.injEq, true_and] at hsame
      exact hhead (congrArg some hsame.1.symm)

/-- If comments can be told from types, no comment before a type is overlooked. -/
theorem Woven.behindType_of_separated {before after : List Node}
    (h : Woven IsSlashComment (InsideParameter IsSlashComment) before after)
    (hplain : ∀ type ∈ typesAmong before, type.head? ≠ some '/')
    (hsame : separated (typesAmong after) = separated (typesAmong before)) :
    Woven IsSlashComment (BehindType IsSlashComment) before after := by
  induction h with
  | nil => exact .nil
  | insert hnode _ ih =>
      rw [typesAmong_cons, hnode.1.typesAmong, List.nil_append] at hsame
      exact .insert hnode (ih hplain hsame)
  | @keep old new before after hnode _ ih =>
      rcases hnode.behindType_or_comment (fun _ hcomment => hcomment.1) with
        hbehind | ⟨hnamed, hspread, comment, hcomment, hfound⟩
      · rw [typesAmong_cons new, typesAmong_cons old, hbehind.typesAmong] at hsame
        rw [typesAmong_cons] at hplain
        simp only [separated, List.flatMap_append, List.append_cancel_left_eq] at hsame
        exact .keep hbehind (ih (fun type hm => hplain type (List.mem_append_right _ hm)) hsame)
      · -- The types read differently from here on.
        rw [typesAmong_cons new, typesAmong_of_find? (hnode.named.trans hnamed)
          (hnode.kind.trans hspread) hfound] at hsame
        refine absurd hsame (separated_ne_of_slash ?_ ?_)
        · rw [List.head?_append, hcomment.head?_squash]
          rfl
        · intro type hm
          exact ⟨ne_nil_of_mem_typesAmong hm, hplain type hm⟩

/-! ## Names -/

theorem parameterTypes_of_behindType (hi : ∀ node, inserted node → IsComment node)
    {declaration after : Node}
    (h : AmongParameters inserted (BehindType inserted) declaration after) :
    parameterTypes after = parameterTypes declaration := by
  have hparameters := h.parameters
  rw [parameterTypes_eq, parameterTypes_eq]
  generalize declaration.child? "parameters" = old at hparameters ⊢
  generalize after.child? "parameters" = new at hparameters ⊢
  cases hparameters with
  | none => rfl
  | some hwoven => exact hwoven.typesAmong_eq hi

theorem intercalate_eq_of_unitName_eq {declaration after : Node}
    (hname : after.child? "name" = declaration.child? "name")
    (h : unitName after = unitName declaration) :
    List.intercalate [',', ' '] (parameterTypes after) =
      List.intercalate [',', ' '] (parameterTypes declaration) := by
  have hchars := String.ofList_injective h
  rw [hname] at hchars
  exact List.append_cancel_left (List.append_cancel_right hchars)

theorem AmongParameters.behindType_of_unitName {declaration after : Node}
    (h : AmongParameters IsSlashComment (InsideParameter IsSlashComment) declaration after)
    (hplain : ∀ type ∈ parameterTypes declaration, type.head? ≠ some '/')
    (hsame : unitName after = unitName declaration) :
    AmongParameters IsSlashComment (BehindType IsSlashComment) declaration after := by
  have htypes := intercalate_eq_of_unitName_eq h.name hsame
  have hparameters := h.parameters
  refine ⟨h.name, ?_⟩
  rw [parameterTypes_eq] at hplain
  rw [parameterTypes_eq, parameterTypes_eq] at htypes
  generalize declaration.child? "parameters" = old at hparameters hplain htypes ⊢
  generalize after.child? "parameters" = new at hparameters htypes ⊢
  cases hparameters with
  | none => exact .none
  | some hwoven =>
      refine .some (hwoven.behindType_of_separated hplain ?_)
      exact separated_eq_of_intercalate_eq (fun _ => ne_nil_of_mem_typesAmong)
        (fun _ => ne_nil_of_mem_typesAmong) htypes

/-- Comments leave the name of a unit as it is if none of them stands before a type that is found by
its place, whatever they read. Where types do not start like comments, no other comments do. -/
theorem unitName_of_comments {declaration after : Node} :
    (AmongParameters IsComment (BehindType IsComment) declaration after →
      unitName after = unitName declaration) ∧
    (AmongParameters IsSlashComment (InsideParameter IsSlashComment) declaration after →
      (∀ type ∈ parameterTypes declaration, type.head? ≠ some '/') →
        unitName after = unitName declaration →
          AmongParameters IsSlashComment (BehindType IsSlashComment) declaration after) := by
  refine ⟨fun h => ?_, AmongParameters.behindType_of_unitName⟩
  rw [unitName, unitName, h.name, parameterTypes_of_behindType (fun _ hc => hc) h]

/-- A comment before a type that has a field, and a comment behind a type that has none. -/
theorem unitName_of_comments_behind_types :
    let leaf (kind text : String) : Node := { kind := kind, bytes := some text.toUTF8 }
    let comment := leaf "block_comment" "/* c */"
    let method (parameters : List Node) : Node :=
      { kind := "method_declaration", fields := [("name", 0), ("parameters", 1)]
        children := [leaf "identifier" "f",
          { kind := "formal_parameters", children := parameters }] }
    let formal (place : Nat) (comments : List Node) : Node :=
      { kind := "formal_parameter", fields := [("type", place)]
        children := comments ++ [leaf "type_identifier" "K", leaf "identifier" "k"] }
    let spread (comments : List Node) : Node :=
      { kind := "spread_parameter"
        children := leaf "integral_type" "int" :: comments ++ [leaf "variable_declarator" "xs"] }
    let declaration := method [formal 0 [], spread []]
    let after := method [comment, formal 1 [comment], spread [comment]]
    unitName declaration = "f(K, int...)" ∧ unitName after = unitName declaration ∧
      AmongParameters IsSlashComment (BehindType IsSlashComment) declaration after := by
  intro leaf comment method formal spread declaration after
  have hcomment : IsSlashComment comment := ⟨⟨Or.inr rfl, rfl⟩, by decide +kernel⟩
  have hfields (field : String) :
      (formal 1 [comment]).child? field = (formal 0 []).child? field := by
    simp only [formal, Node.child?, List.lookup_cons]
    cases field == "type" <;> rfl
  have hformal {inserted : Node → Prop} (hi : inserted comment) :
      BehindType inserted (formal 0 []) (formal 1 [comment]) := by
    refine ⟨⟨rfl, rfl, hfields, .insert hi (.keep rfl (.keep rfl .nil))⟩, ?_⟩
    intro _ hkind
    exact absurd hkind (by decide)
  have hspread {inserted : Node → Prop} (hi : inserted comment) :
      BehindType inserted (spread []) (spread [comment]) := by
    refine ⟨⟨rfl, rfl, fun _ => rfl, .keep rfl (.insert hi (.keep rfl .nil))⟩, fun _ _ => ?_⟩
    exact .type (by decide) (.insert hi (.keep rfl .nil))
  have hsame : unitName after = unitName declaration :=
    unitName_of_comments.1 ⟨rfl, .some (.insert hcomment.1 (.keep (hformal hcomment.1)
      (.keep (hspread hcomment.1) .nil)))⟩
  have hinside :
      AmongParameters IsSlashComment (InsideParameter IsSlashComment) declaration after :=
    ⟨rfl, .some (.insert hcomment (.keep (hformal hcomment).toInsideParameter
      (.keep (hspread hcomment).toInsideParameter .nil)))⟩
  exact ⟨by decide +kernel, hsame, unitName_of_comments.2 hinside (by decide +kernel) hsame⟩

/-- A comment between a modifier and the type is taken for the type. -/
theorem unitName_of_comment_before_type :
    let leaf (kind text : String) : Node := { kind := kind, bytes := some text.toUTF8 }
    let comment := leaf "block_comment" "/* c */"
    let method (comments : List Node) : Node :=
      { kind := "method_declaration", fields := [("name", 0), ("parameters", 1)]
        children := [leaf "identifier" "f",
          { kind := "formal_parameters"
            children := [{ kind := "spread_parameter"
                           children := leaf "modifiers" "final" :: comments ++
                            [leaf "integral_type" "int", leaf "variable_declarator" "xs"] }] }] }
    AmongParameters IsComment (InsideParameter IsComment) (method []) (method [comment]) ∧
      unitName (method []) = "f(int...)" ∧ unitName (method [comment]) = "f(/* c */...)" := by
  intro leaf comment method
  have hcomment : IsComment comment := ⟨Or.inr rfl, rfl⟩
  refine ⟨⟨rfl, .some (.keep ?_ .nil)⟩, by decide +kernel, by decide +kernel⟩
  exact ⟨rfl, rfl, fun _ => rfl, .keep rfl (.insert hcomment (.keep rfl (.keep rfl .nil)))⟩

end Cyclomatic.Java
