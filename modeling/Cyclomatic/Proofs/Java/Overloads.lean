import Cyclomatic.Java.Units
import Cyclomatic.Proofs.Text.Separated
import Mathlib.Data.List.Infix

/-! # Overloads stay apart

The name of a unit holds the types of its parameters, separated by commas. Types may hold commas of
their own, but only between brackets, so the name tells the types apart: two units have the same
name only if they are declared under the same name with the same types in the same order. -/

namespace Cyclomatic.Java

/-! ## Brackets -/

/-- What a character adds to the depth of brackets. -/
def nesting (c : Char) : Int :=
  if c ∈ ['(', '<', '['] then 1 else if c ∈ [')', '>', ']'] then -1 else 0

/-- The depth of brackets after a text. -/
def depth (text : List Char) : Int :=
  (text.map nesting).foldr (· + ·) 0

/-- The brackets of a text are closed at its end, and its commas stand inside of brackets. Whether
a bracket is closed before it is opened does not matter. -/
def SelfContained (text : List Char) : Prop :=
  depth text = 0 ∧ ∀ front ∈ text.inits, front ++ [','] <+: text → depth front ≠ 0

instance (text : List Char) : Decidable (SelfContained text) :=
  inferInstanceAs (Decidable (_ ∧ _))

/-- A text with a comma after it is not the start of another one. -/
theorem SelfContained.ne_append {text other : List Char} (h : SelfContained text)
    (ho : SelfContained other) (tail : List Char) : text ≠ other ++ ',' :: tail := by
  rintro rfl
  have hinit : other ∈ (other ++ ',' :: tail).inits :=
    (List.mem_inits _ _).mpr (List.prefix_append _ _)
  have hcomma : other ++ [','] <+: other ++ ',' :: tail := ⟨tail, by simp⟩
  exact h.2 other hinit hcomma ho.1

/-! ## Names -/

/-- A declaration whose name has no bracket and whose types can be told apart. -/
structure PlainSignature (declaration : Node) : Prop where
  name : '(' ∉ textOf (declaration.child? "name")
  types : ∀ type ∈ parameterTypes declaration, SelfContained type

theorem ne_nil_of_mem_parameterTypes {declaration : Node} {type : List Char}
    (h : type ∈ parameterTypes declaration) : type ≠ [] := by
  unfold parameterTypes at h
  split at h
  · simpa using (List.mem_filter.mp h).2
  · cases h

/-- Two units have the same name exactly if they are declared under the same name and the types of
their parameters are the same, one after the other. -/
theorem unitName_eq_iff {declaration other : Node} (h : PlainSignature declaration)
    (ho : PlainSignature other) :
    unitName declaration = unitName other ↔
      textOf (declaration.child? "name") = textOf (other.child? "name") ∧
        parameterTypes declaration = parameterTypes other := by
  constructor
  · intro heq
    have hchars := String.ofList_injective heq
    simp only [List.append_assoc, List.singleton_append] at hchars
    have hname {name rest : List Char} (hn : '(' ∉ name) (tail : List Char) :
        name ≠ rest ++ '(' :: tail := by
      rintro rfl
      exact hn (by simp)
    obtain ⟨hnames, hrest⟩ := Text.append_mark_inj (hname h.name) (hname ho.name) hchars
    have htypes := List.append_cancel_right hrest
    refine ⟨hnames, Text.intercalate_inj SelfContained.ne_append [' '] ?_ ?_ htypes⟩
    · intro type hm
      exact ⟨h.types type hm, ne_nil_of_mem_parameterTypes hm⟩
    · intro type hm
      exact ⟨ho.types type hm, ne_nil_of_mem_parameterTypes hm⟩
  · rintro ⟨hname, htypes⟩
    rw [unitName, unitName, hname, htypes]

/-- A comma between parameters, and one between the arguments of a type. -/
theorem unitName_ne_of_type_arguments :
    let typed (type : String) : Node :=
      { kind := "formal_parameter", fields := [("type", 0)]
        children := [{ kind := "generic_type", bytes := some type.toUTF8 }] }
    let method (types : List String) : Node :=
      { kind := "method_declaration", fields := [("name", 0), ("parameters", 1)]
        children := [{ kind := "identifier", bytes := some "f".toUTF8 },
          { kind := "formal_parameters", children := types.map typed }] }
    unitName (method ["M<K, V>", "T[]"]) = "f(M<K, V>, T[])" ∧
      unitName (method ["M<K, V>", "T[]"]) ≠ unitName (method ["M<K, V, T[]>"]) := by
  intro typed method
  have h : PlainSignature (method ["M<K, V>", "T[]"]) := ⟨by decide +kernel, by decide +kernel⟩
  have ho : PlainSignature (method ["M<K, V, T[]>"]) := ⟨by decide +kernel, by decide +kernel⟩
  refine ⟨by decide +kernel, ?_⟩
  rw [Ne, unitName_eq_iff h ho]
  decide +kernel

end Cyclomatic.Java
