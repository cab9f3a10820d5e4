import Cyclomatic.Text.CodePoint
import Mathlib.Tactic.Common

/-! # Texts that have an encoding

A text either consists of characters, and then it is encoded as a text of these, or holds half of a
surrogate pair, and then it has no encoding. -/

namespace Cyclomatic

namespace CodePoint

theorem surrogate_notMem_ofChars (half : Fin 0x800) (cs : List Char) :
    .surrogate half ∉ ofChars cs := by
  simp [ofChars]

theorem ofChars_injective : Function.Injective ofChars :=
  fun cs others h => by simpa using congrArg toChars h

/-- A text consists of characters unless half of a pair stands in it. -/
theorem chars_or_half (points : List CodePoint) :
    (∃ cs, points = ofChars cs) ∨ ∃ half, .surrogate half ∈ points := by
  induction points with
  | nil => exact Or.inl ⟨[], rfl⟩
  | cons point rest ih =>
      cases point with
      | surrogate half => exact Or.inr ⟨half, List.mem_cons_self⟩
      | char c =>
          rcases ih with ⟨cs, rfl⟩ | ⟨half, hhalf⟩
          · exact Or.inl ⟨c :: cs, rfl⟩
          · exact Or.inr ⟨half, List.mem_cons_of_mem _ hhalf⟩

theorem findHalf?_ofChars (start : Nat) (cs : List Char) : findHalf? start (ofChars cs) = none := by
  induction cs generalizing start with
  | nil => rfl
  | cons c cs ih => exact ih (start + 1)

theorem encode_ofChars (cs : List Char) : encode (ofChars cs) = .ok (String.ofList cs).toUTF8 := by
  rw [encode, findHalf?_ofChars, toChars_ofChars]

theorem exists_findHalf? {half : Fin 0x800} {points : List CodePoint}
    (h : .surrogate half ∈ points) (start : Nat) :
    ∃ error, findHalf? start points = some error := by
  induction points generalizing start with
  | nil => cases h
  | cons point rest ih =>
      cases point with
      | surrogate found => exact ⟨_, rfl⟩
      | char c =>
          have hrest : .surrogate half ∈ rest := by simpa using h
          exact ih hrest (start + 1)

theorem exists_encode_error {half : Fin 0x800} {points : List CodePoint}
    (h : .surrogate half ∈ points) : ∃ error, encode points = .error error := by
  obtain ⟨error, herror⟩ := exists_findHalf? h 0
  exact ⟨error, by rw [encode, herror]⟩

/-- Half of a pair is no blank. -/
theorem allBlank_iff (points : List CodePoint) :
    allBlank points = true ↔ ∀ point ∈ points, ∃ c, point = .char c ∧ Text.isBlank c = true := by
  rw [allBlank, Text.allBlank, List.all_eq_true, toChars, List.forall_mem_map]
  refine forall₂_congr fun point _ => ?_
  cases point with
  | char c => simp
  | surrogate half =>
      have hreplaced : Text.isBlank Text.replacementChar = false := by decide
      simp [hreplaced]

end CodePoint

end Cyclomatic
