import Cyclomatic.Java.Units
import Cyclomatic.Proofs.Syntax.Walk

/-! # Units inside units

Every unit is scored by a traversal of its own, so the decision points of a unit that lies inside
others count for all of them. The score of a unit is made up of the decision points that are in no
unit further inside, and of those that the outermost units inside it have been scored with. -/

namespace Cyclomatic

/-! ## Descendants -/

/-- A node below another one, with the nodes between the two, the outermost first. -/
structure Descendant where
  between : List Node
  node : Node

/-- A descendant of a child, seen from the parent. -/
def Descendant.under (child : Node) (inner : Descendant) : Descendant :=
  ⟨child :: inner.between, inner.node⟩

namespace Node

mutual

/-- The nodes below a node, in the order of the traversal. -/
def descendants : Node → List Descendant
  | ⟨_, _, children, _, _, _, _, _⟩ => descendantsIn children

/-- Several children and the nodes below them. -/
def descendantsIn : List Node → List Descendant
  | [] => []
  | child :: rest => ⟨[], child⟩ :: child.descendants.map (.under child) ++ descendantsIn rest

end

theorem descendants_eq (node : Node) : node.descendants = descendantsIn node.children := by
  cases node
  rw [descendants]

/-- The traversal comes to each descendant once. -/
theorem map_node_descendantsIn (nodes : List Node) :
    (descendantsIn nodes).map (·.node) = preorderAll nodes := by
  induction nodes using forest_induction with
  | nil => rw [descendantsIn, preorderAll, List.map_nil]
  | cons child rest hchildren hrest =>
      have hunder : (child.descendants.map (Descendant.under child)).map (·.node) =
          preorderAll child.children := by
        rw [List.map_map, descendants_eq, ← hchildren]
        rfl
      rw [descendantsIn, List.map_append, List.map_cons, hunder, hrest, preorderAll, preorder_eq]

end Node

namespace Java

open Node

/-! ## Decision points of a unit's own -/

/-- The descendants with no unit between. A unit may be among them, but nothing that is inside
it. -/
def exposed (inner : List Descendant) : List Node :=
  (inner.filter fun descendant => !descendant.between.any isUnit).map (·.node)

/-- The decision points of a node and below it that are not inside a unit below it. -/
def ownDecisions (node : Node) : Nat :=
  (node :: exposed node.descendants).countP isDecision

/-- The units below a node with no other unit between. -/
def innerUnits (node : Node) : List Node :=
  (exposed node.descendants).filter isUnit

/-- The points that several units were scored with. -/
def pointsOf (units : List Node) : Int :=
  units.foldr (fun unit sum => complexity unit - 1 + sum) 0

@[simp] theorem pointsOf_nil : pointsOf [] = 0 := rfl

@[simp] theorem pointsOf_cons (unit : Node) (rest : List Node) :
    pointsOf (unit :: rest) = complexity unit - 1 + pointsOf rest := rfl

@[simp] theorem pointsOf_append (front back : List Node) :
    pointsOf (front ++ back) = pointsOf front + pointsOf back := by
  induction front with
  | nil => simp
  | cons unit front ih => rw [List.cons_append, pointsOf_cons, pointsOf_cons, ih, Int.add_assoc]

/-- What is below a unit is not exposed, what is below any other node is as exposed as before. -/
theorem exposed_descendantsIn_cons (node : Node) (rest : List Node) :
    exposed (descendantsIn (node :: rest)) =
      node :: (if isUnit node then [] else exposed (descendantsIn node.children)) ++
        exposed (descendantsIn rest) := by
  unfold exposed
  rw [descendantsIn, List.filter_append, List.map_append, List.filter_cons, descendants_eq,
    List.filter_map]
  cases hunit : isUnit node <;> simp [Function.comp_def, Descendant.under, hunit]

/-- No node is both a decision point and a unit. -/
theorem isDecision_of_isUnit {node : Node} (h : isUnit node = true) : isDecision node = false := by
  have hkind : node.kind ∈ unitKinds := List.contains_iff_mem.mp h
  have hother : ∀ kind ∈ unitKinds,
      decisionKinds.contains kind = false ∧ (kind == "binary_expression") = false := by
    decide
  obtain ⟨hdecision, hbinary⟩ := hother node.kind hkind
  rw [isDecision, isLogical, hdecision, hbinary]
  rfl

theorem complexity_eq (node : Node) :
    complexity node = 1 + (node.preorder.countP isDecision : Nat) := by
  rw [complexity, walk_eq_preorder]

/-- Every decision point of several trees is exposed or inside one of the outermost units. -/
theorem countP_preorderAll (nodes : List Node) :
    ((preorderAll nodes).countP isDecision : Int) =
      (exposed (descendantsIn nodes)).countP isDecision +
        pointsOf ((exposed (descendantsIn nodes)).filter isUnit) := by
  induction nodes using forest_induction with
  | nil => rw [preorderAll, descendantsIn]; rfl
  | cons node rest hchildren hrest =>
      rw [preorderAll, List.countP_append, exposed_descendantsIn_cons, List.countP_append,
        List.filter_append, pointsOf_append]
      cases hunit : isUnit node with
      | true =>
          -- All that is in the unit is in its score, and the unit itself is no decision point.
          have hdecision : ¬ isDecision node = true := by simp [isDecision_of_isUnit hunit]
          have hscore := complexity_eq node
          rw [if_pos rfl, List.countP_cons_of_neg hdecision, List.filter_cons_of_pos hunit,
            pointsOf_cons, List.countP_nil, List.filter_nil, pointsOf_nil]
          omega
      | false =>
          have hother : ¬ isUnit node = true := by simp [hunit]
          rw [if_neg Bool.false_ne_true, preorder_eq, List.countP_cons, List.countP_cons,
            List.filter_cons_of_neg hother]
          omega

/-- A node that a traversal comes to scores no more than the node that it started from. -/
theorem complexity_le_of_mem_preorder {node inner : Node} (h : inner ∈ node.preorder) :
    complexity inner ≤ complexity node := by
  rw [← preorderAll_singleton] at h
  have hstretch := preorder_infix_preorderAll h
  rw [preorderAll_singleton] at hstretch
  have hcount : inner.preorder.countP isDecision ≤ node.preorder.countP isDecision :=
    hstretch.sublist.countP_le
  rw [complexity_eq, complexity_eq]
  omega

/-- A score is one more than the decision points outside the units further inside and the points
of the outermost of these units. So no unit scores more than one that it is in. -/
theorem complexity_eq_own_add_inner (declaration : Node) :
    complexity declaration =
        1 + (ownDecisions declaration : Int) + pointsOf (innerUnits declaration) ∧
      ∀ inner ∈ declaration.descendants, complexity inner.node ≤ complexity declaration := by
  constructor
  · have hbelow := countP_preorderAll declaration.children
    rw [← descendants_eq] at hbelow
    rw [complexity_eq, preorder_eq, ownDecisions, innerUnits, List.countP_cons, List.countP_cons]
    omega
  · intro inner hinner
    apply complexity_le_of_mem_preorder
    rw [preorder_eq, ← map_node_descendantsIn, ← descendants_eq]
    exact List.mem_cons_of_mem _ (List.mem_map_of_mem hinner)

/-- A loop around an anonymous class, whose only method has one decision point. -/
theorem complexity_of_anonymous_class :
    let inner : Node := { kind := "method_declaration", children := [{ kind := "if_statement" }] }
    let body : Node := { kind := "class_body", children := [inner] }
    let loop : Node := { kind := "while_statement", children := [body] }
    let outer : Node := { kind := "method_declaration", children := [loop] }
    complexity outer = 1 + 1 + pointsOf [inner] ∧ complexity inner ≤ complexity outer := by
  intro inner body loop outer
  obtain ⟨hscore, hle⟩ := complexity_eq_own_add_inner outer
  exact ⟨hscore, hle ⟨[loop, body], inner⟩ (.tail _ (.tail _ (.head _)))⟩

end Java

end Cyclomatic
