import Cyclomatic.Proofs.Java.Nesting
import Mathlib.Data.List.Lex

/-! # Order of a walk

The loop that walks a tree with a stack comes to its end, and yields what the traversal by recursion
yields. The nodes of a tree are told apart by their places, since equal nodes may stand at several
of them, and the walk comes to each place once, in the order of the source. -/

namespace Cyclomatic

namespace Node

/-! ## The loop -/

/-- The nodes that the loop yields from a stack on until the stack is empty. Each round takes the
uppermost node and puts its children in its place. -/
inductive Yields : List Node → List Node → Prop where
  | stop : Yields [] []
  | round {node stack nodes} (h : Yields (node.children ++ stack) nodes) :
      Yields (node :: stack) (node :: nodes)

theorem Yields.eq_preorderAll {stack nodes : List Node} (h : Yields stack nodes) :
    preorderAll stack = nodes := by
  induction h with
  | stop => rw [preorderAll]
  | round _ ih => rw [preorderAll, preorder_eq, List.cons_append, ← preorderAll_append, ih]

/-- Every stack is emptied: a round removes one node and adds none that was not below it. -/
theorem yields_preorderAll (stack : List Node) : Yields stack (preorderAll stack) := by
  induction hsize : sizeAll stack using Nat.strongRecOn generalizing stack with
  | ind size ih =>
      cases stack with
      | nil =>
          rw [preorderAll]
          exact .stop
      | cons node stack =>
          have hless : sizeAll (node.children ++ stack) < size := by
            rw [← hsize, sizeAll, size_eq, sizeAll_append]
            omega
          have hrest := ih _ hless (node.children ++ stack) rfl
          rw [preorderAll, preorder_eq, List.cons_append, ← preorderAll_append]
          exact .round hrest

theorem yields_iff {stack nodes : List Node} : Yields stack nodes ↔ preorderAll stack = nodes :=
  ⟨Yields.eq_preorderAll, fun h => h ▸ yields_preorderAll stack⟩

/-! ## Places -/

/-- The node at a place, which is given by the numbers of the children on the way from the root. -/
def nodeAt? (root : Node) : List Nat → Option Node
  | [] => some root
  | index :: place =>
      match root.children[index]? with
      | some child => child.nodeAt? place
      | none => none

mutual

/-- The places of a tree in the order of the traversal. -/
def places : Node → List (List Nat)
  | ⟨_, _, children, _, _, _, _, _⟩ => [] :: placesFrom 0 children

/-- The places in several children, of which the first has the number `index`. -/
def placesFrom (index : Nat) : List Node → List (List Nat)
  | [] => []
  | child :: rest => child.places.map (index :: ·) ++ placesFrom (index + 1) rest

end

theorem places_eq (root : Node) : root.places = [] :: placesFrom 0 root.children := by
  cases root
  rw [places]

theorem nodeAt?_cons {root child : Node} {index : Nat} (h : root.children[index]? = some child)
    (place : List Nat) : root.nodeAt? (index :: place) = child.nodeAt? place := by
  rw [nodeAt?, h]

/-- The traversal comes to the nodes at the places. -/
theorem map_nodeAt?_placesFrom {nodes : List Node} (parent : Node) (front : List Node)
    (h : parent.children = front ++ nodes) :
    (placesFrom front.length nodes).map parent.nodeAt? = (preorderAll nodes).map some := by
  induction nodes using forest_induction generalizing parent front with
  | nil => rw [placesFrom, preorderAll, List.map_nil, List.map_nil]
  | cons child rest hchildren hrest =>
      have hchild : parent.children[front.length]? = some child := by simp [h]
      have hinner : (child.places.map (front.length :: ·)).map parent.nodeAt? =
          child.preorder.map some := by
        have hstep : parent.nodeAt? ∘ (front.length :: ·) = child.nodeAt? :=
          funext (nodeAt?_cons hchild)
        rw [List.map_map, hstep, places_eq, preorder_eq, List.map_cons, List.map_cons,
          ← hchildren child [] (List.nil_append _).symm]
        rfl
      have hothers := hrest parent (front ++ [child]) (by simp [h])
      rw [List.length_append, List.length_singleton] at hothers
      rw [placesFrom, preorderAll, List.map_append, List.map_append, hinner, hothers]

theorem mem_placesFrom_iff {nodes : List Node} {index : Nat} {place : List Nat} :
    place ∈ placesFrom index nodes ↔
      ∃ skipped child inner, nodes[skipped]? = some child ∧ inner ∈ child.places ∧
        place = (index + skipped) :: inner := by
  induction nodes generalizing index with
  | nil => simp [placesFrom]
  | cons child rest ih =>
      rw [placesFrom, List.mem_append, List.mem_map, ih]
      constructor
      · rintro (⟨inner, hinner, rfl⟩ | ⟨skipped, other, inner, hother, hinner, rfl⟩)
        · exact ⟨0, child, inner, rfl, hinner, rfl⟩
        · exact ⟨skipped + 1, other, inner, hother, hinner, by simp; omega⟩
      · rintro ⟨_ | skipped, other, inner, hother, hinner, rfl⟩
        · obtain rfl : child = other := by simpa using hother
          exact Or.inl ⟨inner, hinner, rfl⟩
        · exact Or.inr ⟨skipped, other, inner, hother, hinner, by simp; omega⟩

/-- The places are those that hold a node. -/
theorem mem_places_iff {root : Node} {place : List Nat} :
    place ∈ root.places ↔ (root.nodeAt? place).isSome := by
  induction place generalizing root with
  | nil => simp [places_eq, nodeAt?]
  | cons index place ih =>
      rw [places_eq, List.mem_cons, mem_placesFrom_iff, nodeAt?]
      cases hchild : root.children[index]? with
      | none => simp [hchild]
      | some child => simp [← ih, hchild]

/-- A node stands before what is below it, and what is below a child before the next child. -/
theorem pairwise_placesFrom (index : Nat) (nodes : List Node) :
    (placesFrom index nodes).Pairwise (· < ·) := by
  induction nodes using forest_induction generalizing index with
  | nil =>
      rw [placesFrom]
      exact .nil
  | cons child rest hchildren hrest =>
      rw [placesFrom, List.pairwise_append, List.pairwise_map, places_eq, List.pairwise_cons]
      refine ⟨⟨?_, ?_⟩, hrest (index + 1), ?_⟩
      · intro place hplace
        obtain ⟨skipped, _, inner, -, -, rfl⟩ := mem_placesFrom_iff.mp hplace
        simp
      · exact (hchildren 0).imp fun hlt => by simpa using hlt
      · intro place hplace later hlater
        obtain ⟨inner, -, rfl⟩ := List.mem_map.mp hplace
        obtain ⟨skipped, _, inner', -, -, rfl⟩ := mem_placesFrom_iff.mp hlater
        exact List.cons_lt_cons_iff.mpr (Or.inl (by omega))

/-- Nodes that are visited at all places of a tree, at each of them once and in the order of the
source: a node before those below it, and those below a child before the next child. -/
structure VisitedInOrder (root : Node) (places : List (List Nat)) (nodes : List Node) : Prop where
  visits : places.map root.nodeAt? = nodes.map some
  complete : ∀ place, place ∈ places ↔ (root.nodeAt? place).isSome
  once : places.Nodup
  ordered : places.Pairwise (· < ·)

theorem visitedInOrder_preorder (root : Node) :
    VisitedInOrder root root.places root.preorder := by
  have hordered : root.places.Pairwise (· < ·) := by
    rw [places_eq, List.pairwise_cons]
    refine ⟨fun place hplace => ?_, pairwise_placesFrom 0 root.children⟩
    obtain ⟨skipped, _, inner, -, -, rfl⟩ := mem_placesFrom_iff.mp hplace
    simp
  refine ⟨?_, fun place => mem_places_iff, hordered.imp ne_of_lt, hordered⟩
  rw [places_eq, preorder_eq, List.map_cons, List.map_cons,
    ← map_nodeAt?_placesFrom root [] (List.nil_append _).symm]
  rfl

end Node

namespace Java

open Node

/-! ## Scores of children -/

theorem pointsOf_eq_countP (nodes : List Node) :
    pointsOf nodes = ((preorderAll nodes).countP isDecision : Nat) := by
  induction nodes with
  | nil => simp [preorderAll]
  | cons node rest ih =>
      rw [pointsOf_cons, ih, complexity_eq, preorderAll, List.countP_append]
      omega

/-- The points of a tree are its root's own, if it is a decision point, and those of its
children. -/
theorem complexity_sub_one (root : Node) :
    complexity root - 1 = (if isDecision root then 1 else 0) + pointsOf root.children := by
  rw [pointsOf_eq_countP, complexity_eq, preorder_eq, List.countP_cons]
  split <;> omega

/-- The loop ends on every tree, whatever bound of its rounds at or above the number of nodes is
set, and it yields the nodes as the traversal by recursion does, each once and in the order of the
source. So the points of a tree add up from those of its children. -/
theorem walk_visits_inOrder (root : Node) :
    (∀ nodes, Yields [root] nodes ↔ root.walk = nodes) ∧
      root.walk = root.preorder ∧
      (∀ further, popOnto [] (root.size + further) [root] = root.walk) ∧
      VisitedInOrder root root.places root.walk ∧
      complexity root - 1 = (if isDecision root then 1 else 0) + pointsOf root.children := by
  refine ⟨fun nodes => ?_, walk_eq_preorder root, fun further => ?_, ?_, complexity_sub_one root⟩
  · rw [yields_iff, preorderAll_singleton, walk_eq_preorder]
  · have hsize : sizeAll [root] ≤ root.size + further := by simp [sizeAll]
    rw [popOnto_eq [] [root] hsize, preorderAll_singleton, walk_eq_preorder]
    rfl
  · rw [walk_eq_preorder]
    exact visitedInOrder_preorder root

end Java

end Cyclomatic
