import Cyclomatic.Proofs.Java.Units
import Mathlib.Data.List.Forall2
import Mathlib.Data.Option.Basic

/-! # Trees that are reported alike

Two trees of one shape give the same units with the same scores, even if the texts of their nodes
differ in white space: types are shown word by word, and scores do not depend on texts at all. Only
the names of units are shown as they are written. -/

namespace Cyclomatic.Java

open Text

/-- Two trees of one shape. Their texts have the same words, and their units the same names. -/
inductive Alike : Node → Node → Prop where
  | intro {node other : Node}
      (kind : node.kind = other.kind)
      (named : node.named = other.named)
      (fields : node.fields = other.fields)
      (words : words node.text = words other.text)
      (name : isUnit node = true →
        textOf (node.child? "name") = textOf (other.child? "name"))
      (children : List.Forall₂ Alike node.children other.children) : Alike node other

/-! ## Related lists -/

section

variable {α β : Type} {R : α → β → Prop}

theorem rel_cases {a : Option α} {b : Option β} (h : Option.Rel R a b) :
    (a = none ∧ b = none) ∨ ∃ x y, a = some x ∧ b = some y ∧ R x y := by
  cases h with
  | none => exact Or.inl ⟨rfl, rfl⟩
  | some hxy => exact Or.inr ⟨_, _, rfl, rfl, hxy⟩

theorem rel_ite {α β : Type} {R : α → β → Prop} {x x' : Option α} {y y' : Option β} {b c : Bool}
    (hbc : c = b) (h : b = true → Option.Rel R x y) (h' : b = false → Option.Rel R x' y') :
    Option.Rel R (if b then x else x') (if c then y else y') := by
  rw [hbc]
  cases b with
  | true => exact h rfl
  | false => exact h' rfl

theorem rel_getElem? {xs : List α} {ys : List β} (h : List.Forall₂ R xs ys) (i : Nat) :
    Option.Rel R xs[i]? ys[i]? := by
  induction h generalizing i with
  | nil => exact .none
  | cons hfirst _ ih =>
      cases i with
      | zero => exact .some hfirst
      | succ i => simpa using ih i

theorem rel_find? {xs : List α} {ys : List β} (h : List.Forall₂ R xs ys) {p : α → Bool}
    {q : β → Bool} (hpq : ∀ {a b}, R a b → p a = q b) :
    Option.Rel R (xs.find? p) (ys.find? q) := by
  induction h with
  | nil => exact .none
  | @cons a b xs ys hfirst _ ih =>
      rw [List.find?_cons, List.find?_cons, ← hpq hfirst]
      cases p a with
      | true => exact .some hfirst
      | false => exact ih

theorem forall₂_filter {xs : List α} {ys : List β} (h : List.Forall₂ R xs ys) {p : α → Bool}
    {q : β → Bool} (hpq : ∀ {a b}, R a b → p a = q b) :
    List.Forall₂ R (xs.filter p) (ys.filter q) := by
  refine List.rel_filter ?_ h
  intro a b hab
  exact iff_of_eq (congrArg (· = true) (hpq hab))

theorem map_eq_of_forall₂ {xs : List α} {ys : List β} (h : List.Forall₂ R xs ys) {γ : Type}
    {f : α → γ} {g : β → γ} (hfg : ∀ {a b}, R a b → f a = g b) : xs.map f = ys.map g := by
  induction h with
  | nil => rfl
  | cons hfirst _ ih => rw [List.map_cons, List.map_cons, hfg hfirst, ih]

end

/-! ## Names and scores -/

namespace Alike

variable {node other : Node}

theorem kind_eq (h : Alike node other) : node.kind = other.kind := by
  cases h
  assumption

theorem named_eq (h : Alike node other) : node.named = other.named := by
  cases h
  assumption

theorem squash_eq (h : Alike node other) : squash node.text = squash other.text := by
  cases h with
  | intro _ _ _ hwords _ _ => rw [squash, hwords, squash]

theorem isUnit_eq (h : Alike node other) : isUnit node = isUnit other := by
  rw [isUnit, h.kind_eq, isUnit]

theorem child? (h : Alike node other) (field : String) :
    Option.Rel Alike (node.child? field) (other.child? field) := by
  cases h with
  | intro _ _ hfields _ _ hchildren =>
      rw [Node.child?, Node.child?, hfields]
      cases other.fields.lookup field with
      | none => exact .none
      | some index => exact rel_getElem? hchildren index

theorem namedChildren (h : Alike node other) :
    List.Forall₂ Alike node.namedChildren other.namedChildren := by
  cases h with
  | intro _ _ _ _ _ hchildren => exact forall₂_filter hchildren named_eq

theorem squash_textOf {a b : Option Node} (h : Option.Rel Alike a b) :
    squash (textOf a) = squash (textOf b) := by
  cases h with
  | none => rfl
  | some h => exact h.squash_eq

theorem parameterType_eq (h : Alike node other) : parameterType node = parameterType other := by
  have hfirst : Option.Rel Alike
      (node.namedChildren.find? fun child =>
        child.kind != "modifiers" && child.kind != "variable_declarator")
      (other.namedChildren.find? fun child =>
        child.kind != "modifiers" && child.kind != "variable_declarator") :=
    rel_find? h.namedChildren fun hchild => by rw [hchild.kind_eq]
  unfold parameterType
  rw [h.kind_eq, squash_textOf (h.child? "dimensions"), squash_textOf (h.child? "type")]
  rcases rel_cases hfirst with ⟨hnode, hother⟩ | ⟨child, partner, hnode, hother, hchild⟩
  · rw [hnode, hother]
  · simp only [hnode, hother, hchild.squash_eq]

theorem parameterTypes_eq (h : Alike node other) :
    parameterTypes node = parameterTypes other := by
  unfold parameterTypes
  rcases rel_cases (h.child? "parameters") with
    ⟨hnode, hother⟩ | ⟨list, partner, hnode, hother, hlist⟩
  · rw [hnode, hother]
  · have htypes := map_eq_of_forall₂ hlist.namedChildren parameterType_eq
    simp only [hnode, hother, htypes]

theorem unitName_eq (h : Alike node other) (hunit : isUnit node = true) :
    unitName node = unitName other := by
  have htypes := h.parameterTypes_eq
  cases h with
  | intro _ _ _ _ hname _ => rw [unitName, unitName, htypes, hname hunit]

theorem isDecision_eq (h : Alike node other) : isDecision node = isDecision other := by
  unfold isDecision isLogical
  rw [h.kind_eq]
  rcases rel_cases (h.child? "operator") with
    ⟨hnode, hother⟩ | ⟨operator, partner, hnode, hother, hoperator⟩
  · rw [hnode, hother]
  · simp only [hnode, hother, Option.any_some, hoperator.kind_eq]

/-- The traversals come to related nodes, tree by tree. -/
theorem preorderAll {nodes others : List Node} (h : List.Forall₂ Alike nodes others) :
    List.Forall₂ Alike (Node.preorderAll nodes) (Node.preorderAll others) := by
  induction nodes using Node.forest_induction generalizing others with
  | nil =>
      cases h
      exact .nil
  | cons node nodes hchildren hrest =>
      cases h with
      | cons hnode htail =>
          rw [Node.preorderAll, Node.preorderAll, Node.preorder_eq, Node.preorder_eq]
          refine List.rel_append (.cons hnode (hchildren ?_)) (hrest htail)
          cases hnode
          assumption

theorem preorder (h : Alike node other) : List.Forall₂ Alike node.preorder other.preorder := by
  have hall := preorderAll (.cons h .nil)
  simpa only [Node.preorderAll, List.append_nil] using hall

theorem complexity_eq (h : Alike node other) : complexity node = complexity other := by
  have hdecisions := forall₂_filter h.preorder isDecision_eq
  rw [complexity, complexity, Node.walk_eq_preorder, Node.walk_eq_preorder,
    List.countP_eq_length_filter, List.countP_eq_length_filter, hdecisions.length_eq]

end Alike

/-- Trees whose units are alike have the same table of units. -/
theorem unitsOf_eq_of_unitNodes {node other : Node}
    (h : List.Forall₂ Alike (unitNodes node) (unitNodes other)) : unitsOf node = unitsOf other := by
  have hentries : (unitNodes node).map entryOf = (unitNodes other).map entryOf := by
    have hboth : List.Forall₂ (fun a b => isUnit a = true ∧ Alike a b) _ _ :=
      (List.forall₂_and_left _ _).mpr ⟨fun unit hmem => (List.mem_filter.mp hmem).2, h⟩
    refine map_eq_of_forall₂ hboth (fun hab => ?_)
    rw [entryOf, entryOf, hab.2.unitName_eq hab.1, hab.2.complexity_eq]
  rw [unitsOf_eq_ofList, unitsOf_eq_ofList, hentries]

/-- Trees of one shape have the same table of units. -/
theorem Alike.unitsOf_eq {node other : Node} (h : Alike node other) :
    unitsOf node = unitsOf other :=
  unitsOf_eq_of_unitNodes (forall₂_filter h.preorder isUnit_eq)

theorem forall₂_alike_refl (nodes : List Node) : List.Forall₂ Alike nodes nodes := by
  induction nodes using Node.forest_induction with
  | nil => exact .nil
  | cons node rest hchildren hrest =>
      exact .cons (.intro rfl rfl rfl rfl (fun _ => rfl) hchildren) hrest

/-- Every tree has its own shape. -/
theorem Alike.refl (node : Node) : Alike node node :=
  .intro rfl rfl rfl rfl (fun _ => rfl) (forall₂_alike_refl node.children)

end Cyclomatic.Java
