import Cyclomatic.Analysis
import Cyclomatic.Proofs.OrderedMap
import Cyclomatic.Proofs.Syntax.Walk

/-! # The table of a syntax tree

Methods and constructors are recorded by name and parameter types alone, all classes of a file
together. So the table has an entry for each name, with the score of the last unit that bears it,
and a unit keeps an entry of its own exactly as long as no other unit of the file has its name.
Units of one class differ in their names, those of different classes need not. -/

namespace Cyclomatic.Java

/-! ## Units in order -/

/-- The units of a tree, wherever they stand, in the order in which they begin. -/
def unitNodes (root : Node) : List Node :=
  root.preorder.filter isUnit

/-- The entry under which a unit is recorded. -/
def entryOf (unit : Node) : String × Int :=
  (unitName unit, complexity unit)

theorem unitsOf_eq_ofList (root : Node) :
    unitsOf root = .ofList ((unitNodes root).map entryOf) := by
  rw [unitsOf, Node.walk_eq_preorder, OrderedMap.ofList, OrderedMap.insertAll, List.foldl_map]
  rfl

theorem names_entryOf (units : List Node) : (units.map entryOf).map (·.1) = units.map unitName := by
  rw [List.map_map]
  rfl

theorem keys_unitsOf (root : Node) :
    (unitsOf root).keys = ((unitNodes root).map unitName).eraseDups := by
  rw [unitsOf_eq_ofList, OrderedMap.keys_ofList, names_entryOf]

theorem get?_unitsOf (root : Node) (name : String) :
    (unitsOf root).get? name =
      ((unitNodes root).filter (unitName · = name)).getLast?.map complexity := by
  rw [unitsOf_eq_ofList, OrderedMap.get?_ofList, List.filter_map, List.getLast?_map,
    Option.map_map]
  rfl

/-! ## Reports -/

/-- Every unit of a tree has an entry of its own, with its own score, and there is no other. -/
structure OwnEntries (tree : Node) (report : Report) : Prop where
  count : report.unitCount = (unitNodes tree).length
  score : ∀ unit ∈ unitNodes tree, report.units.get? (unitName unit) = some (complexity unit)

/-- One entry for each name, in the order of the first units of each name, with the scores of the
last ones. -/
structure LastOfName (tree : Node) (report : Report) : Prop where
  names : report.units.keys = ((unitNodes tree).map unitName).eraseDups
  score : ∀ name, report.units.get? name =
    ((unitNodes tree).filter (unitName · = name)).getLast?.map complexity

theorem ownEntries_iff (fileName : FileName) (tree : Node) :
    OwnEntries tree (javaReport fileName tree).1 ↔ ((unitNodes tree).map unitName).Nodup := by
  have hsize := OrderedMap.size_ofList_eq_length_iff ((unitNodes tree).map entryOf)
  rw [← unitsOf_eq_ofList, List.length_map, names_entryOf] at hsize
  constructor
  · intro h
    exact hsize.mp h.count
  · intro hn
    refine ⟨hsize.mpr hn, ?_⟩
    intro unit hu
    have hkeys : (((unitNodes tree).map entryOf).map (·.1)).Nodup := by rwa [names_entryOf]
    have hentry := OrderedMap.lookupEntry_of_mem hkeys (List.mem_map_of_mem hu)
    rwa [← OrderedMap.get?_ofList_of_nodup hkeys, ← unitsOf_eq_ofList] at hentry

/-- A report has one entry for each name of a unit, with the score of the last unit of that name.
Every unit has an entry of its own exactly if no two units of the tree have the same name. -/
theorem javaReport_ownEntries_iff (fileName : FileName) (tree : Node) :
    LastOfName tree (javaReport fileName tree).1 ∧
      (OwnEntries tree (javaReport fileName tree).1 ↔
        ((unitNodes tree).map unitName).Nodup) :=
  ⟨⟨keys_unitsOf tree, get?_unitsOf tree⟩, ownEntries_iff fileName tree⟩

/-! ## Classes inside classes -/

/-- The units directly below any one node have different names. -/
def SiblingsDiffer (tree : Node) : Prop :=
  ∀ node ∈ tree.preorder, ((node.children.filter isUnit).map unitName).Nodup

instance (tree : Node) : Decidable (SiblingsDiffer tree) :=
  inferInstanceAs (Decidable (∀ node ∈ tree.preorder,
    ((node.children.filter isUnit).map unitName).Nodup))

/-- The declaration of a method `f` without parameters. -/
def methodF (body : List Node) : Node where
  kind := "method_declaration"
  children := [{ kind := "identifier", bytes := some "f".toUTF8 },
    { kind := "formal_parameters" }, { kind := "block", children := body }]
  fields := [("name", 0), ("parameters", 1), ("body", 2)]

/-- The declaration of a class. -/
def classOf (members : List Node) : Node where
  kind := "class_declaration"
  children := [{ kind := "class_body", children := members }]

/-- A class with a method `f`, and in it a class with a method `f` that has one decision point. -/
def nestedClasses : Node where
  kind := "program"
  children := [classOf [methodF [], classOf [methodF [{ kind := "if_statement" }]]]]

/-- The method of the inner class takes the place of the one of the outer class. -/
theorem not_ownEntries_of_nested_classes :
    SiblingsDiffer nestedClasses ∧ (unitNodes nestedClasses).length = 2 ∧
      (javaReport "A.java" nestedClasses).1.units = ⟨[("f()", 2)]⟩ ∧
      ¬ OwnEntries nestedClasses (javaReport "A.java" nestedClasses).1 := by
  have hlength : (unitNodes nestedClasses).length = 2 := by decide
  have hunits : (javaReport "A.java" nestedClasses).1.units = ⟨[("f()", 2)]⟩ := by decide +kernel
  refine ⟨by decide +kernel, hlength, hunits, ?_⟩
  intro h
  have hcount := h.count
  rw [Report.unitCount, hunits, hlength] at hcount
  cases hcount

end Cyclomatic.Java
