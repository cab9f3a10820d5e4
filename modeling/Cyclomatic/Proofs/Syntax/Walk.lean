import Cyclomatic.Syntax.Node
import Mathlib.Tactic.Common

/-! # Walks of a syntax tree

The stack holds the trees that are still to be traversed, so what is left of a walk is always the
traversal of the stack by recursion. As many rounds as there are nodes suffice. -/

namespace Cyclomatic.Node

theorem size_eq (node : Node) : node.size = 1 + sizeAll node.children := by
  cases node
  rw [size]

theorem preorder_eq (node : Node) : node.preorder = node :: preorderAll node.children := by
  cases node
  rw [preorder]

theorem preorderAll_singleton (root : Node) : preorderAll [root] = root.preorder := by
  rw [preorderAll, preorderAll, List.append_nil]

theorem sizeAll_append (front back : List Node) :
    sizeAll (front ++ back) = sizeAll front + sizeAll back := by
  induction front with
  | nil => simp [sizeAll]
  | cons node front ih => rw [List.cons_append, sizeAll, sizeAll, ih, Nat.add_assoc]

theorem preorderAll_append (front back : List Node) :
    preorderAll (front ++ back) = preorderAll front ++ preorderAll back := by
  induction front with
  | nil => simp [preorderAll]
  | cons node front ih =>
      rw [List.cons_append, preorderAll, preorderAll, ih, List.append_assoc]

/-- What holds of several trees once it holds of the children of the first and of the others, holds
of all. -/
theorem forest_induction {motive : List Node → Prop} (nil : motive [])
    (cons : ∀ node rest, motive node.children → motive rest → motive (node :: rest)) :
    ∀ nodes, motive nodes
  | [] => nil
  | node :: rest =>
      cons node rest (forest_induction nil cons node.children) (forest_induction nil cons rest)
termination_by nodes => sizeAll nodes
decreasing_by all_goals rw [sizeAll, size_eq]; omega

/-- The traversal of a node is a stretch of each traversal that comes to the node. -/
theorem preorder_infix_preorderAll {node : Node} {nodes : List Node}
    (h : node ∈ preorderAll nodes) : node.preorder <:+: preorderAll nodes := by
  induction nodes using forest_induction with
  | nil => cases h
  | cons first rest hchildren hrest =>
      rw [preorderAll] at h ⊢
      rcases List.mem_append.mp h with h | h
      · rw [preorder_eq] at h
        rcases List.mem_cons.mp h with rfl | h
        · exact (List.prefix_append _ _).isInfix
        · have hbelow : preorderAll first.children <:+: first.preorder := by
            rw [preorder_eq]
            exact (List.suffix_cons first _).isInfix
          exact ((hchildren h).trans hbelow).trans (List.prefix_append _ _).isInfix
      · exact (hrest h).trans (List.suffix_append _ _).isInfix

theorem popOnto_eq (done stack : List Node) {rounds : Nat} (h : sizeAll stack ≤ rounds) :
    popOnto done rounds stack = done.reverse ++ preorderAll stack := by
  induction rounds generalizing done stack with
  | zero =>
      cases stack with
      | nil => rw [popOnto, preorderAll, List.append_nil]
      | cons node stack =>
          rw [sizeAll, size_eq] at h
          omega
  | succ rounds ih =>
      cases stack with
      | nil => rw [popOnto, preorderAll, List.append_nil]
      | cons node stack =>
          have hrest : sizeAll (node.children ++ stack) ≤ rounds := by
            rw [sizeAll, size_eq] at h
            rw [sizeAll_append]
            omega
          rw [popOnto, ih _ _ hrest, preorderAll_append, preorderAll, preorder_eq]
          simp

theorem walk_eq_preorder (root : Node) : root.walk = root.preorder := by
  have hsize : sizeAll [root] ≤ root.size := by simp [sizeAll]
  rw [walk, popOnto_eq [] [root] hsize, preorderAll_singleton]
  rfl

end Cyclomatic.Node
