import Cyclomatic.Text.Quoted

/-! # Digits of numbers

How integers are written: a sign if they are negative, then their decimal digits, of which the first
is zero for zero only. In base sixteen, the digits filled with zeros are the digits of the quotient
by sixteen and the digit of the remainder. -/

namespace Cyclomatic.Text

theorem toList_toString_int (n : Int) :
    (toString n).toList =
      if n < 0 then '-' :: Nat.toDigits 10 n.natAbs else Nat.toDigits 10 n.natAbs := by
  cases n with
  | ofNat m =>
      have h : ¬ Int.ofNat m < 0 := by simp
      rw [if_neg h]
      exact Nat.toList_repr
  | negSucc m =>
      rw [if_pos (Int.negSucc_lt_zero m)]
      change ("-" ++ Nat.repr (m + 1)).toList = '-' :: Nat.toDigits 10 (m + 1)
      rw [String.toList_append, Nat.toList_repr]
      rfl

theorem isDigit_of_mem_decimal {n : Nat} {c : Char} (h : c ∈ Nat.toDigits 10 n) :
    c.isDigit = true :=
  Nat.isDigit_of_mem_toDigits (by decide) (by decide) h

theorem mem_toString_int {n : Int} {c : Char} (h : c ∈ (toString n).toList) :
    c = '-' ∨ c.isDigit = true := by
  rw [toList_toString_int] at h
  split at h
  · rcases List.mem_cons.mp h with rfl | h
    · exact Or.inl rfl
    · exact Or.inr (isDigit_of_mem_decimal h)
  · exact Or.inr (isDigit_of_mem_decimal h)

theorem getLast?_toString_int (n : Int) :
    ∃ c, (toString n).toList.getLast? = some c ∧ c.isDigit = true := by
  have hdigits := Nat.toDigits_ne_nil (n := n.natAbs) (b := 10)
  refine ⟨(Nat.toDigits 10 n.natAbs).getLast hdigits, ?_,
    isDigit_of_mem_decimal (List.getLast_mem hdigits)⟩
  rw [toList_toString_int]
  split
  · rw [List.getLast?_cons_of_ne_nil hdigits, List.getLast?_eq_some_getLast hdigits]
  · exact List.getLast?_eq_some_getLast hdigits

theorem head_decimal_ne_zero {n : Nat} (hn : 0 < n) : (Nat.toDigits 10 n).head? ≠ some '0' := by
  induction n using Nat.strongRecOn with
  | ind n ih =>
      by_cases hlt : n < 10
      · rw [Nat.toDigits_of_lt_base hlt]
        simp
        omega
      · rw [Nat.toDigits_of_base_le (by decide) (by omega), List.head?_append]
        have hhead := ih (n / 10) (by omega) (by omega)
        cases hdigits : Nat.toDigits 10 (n / 10) with
        | nil => exact absurd hdigits Nat.toDigits_ne_nil
        | cons c cs =>
            rw [hdigits] at hhead
            exact hhead

/-! ## Base sixteen -/

theorem hexDigits_one {n : Nat} (h : n < 16) : hexDigits 1 n = [n.digitChar] := by
  simp [hexDigits, Nat.toDigits_of_lt_base h]

theorem hexDigits_succ {size : Nat} (hsize : 0 < size) (n : Nat) :
    hexDigits (size + 1) n = hexDigits size (n / 16) ++ [(n % 16).digitChar] := by
  by_cases hlt : n < 16
  · have hfill : List.replicate size '0' = List.replicate (size - 1) '0' ++ ['0'] := by
      rw [← List.replicate_succ', Nat.sub_add_cancel hsize]
    rw [Nat.div_eq_of_lt hlt, Nat.mod_eq_of_lt hlt]
    simp [hexDigits, Nat.toDigits_of_lt_base hlt, hfill]
  · simp [hexDigits, Nat.toDigits_of_base_le (b := 16) (n := n) (by decide) (by omega)]

theorem hexDigits_four {n : Nat} (h : n < 0x10000) :
    hexDigits 4 n =
      [(n / 16 / 16 / 16).digitChar, (n / 16 / 16 % 16).digitChar, (n / 16 % 16).digitChar,
        (n % 16).digitChar] := by
  rw [hexDigits_succ (by decide), hexDigits_succ (by decide), hexDigits_succ (by decide),
    hexDigits_one (by omega)]
  rfl

end Cyclomatic.Text
