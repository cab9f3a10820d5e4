/-!
# Sets of characters

A set of code points given by its boundaries, so that a Unicode property of some hundred
thousand characters is a short table and a membership test is a binary search.
-/

namespace Cyclomatic.Text

/-- A set of code points. `bounds` increases strictly; from an even place on, up to the next odd
place, code points are members, and from an odd place on they are not. -/
structure CharSet where
  bounds : Array Nat

/-- How many of the increasing `bounds` from place `lo` to place `hi` are at most `x`, plus `lo`,
if all before `lo` are at most `x` and all from `hi` on are greater. Each round halves the
interval, so `rounds` need not exceed the binary length of its size. -/
def CharSet.rank (bounds : Array Nat) (x : Nat) (lo hi : Nat) : Nat → Nat
  | 0 => lo
  | rounds + 1 =>
      if lo < hi then
        let mid := (lo + hi) / 2
        if bounds.getD mid 0 ≤ x then CharSet.rank bounds x (mid + 1) hi rounds
        else CharSet.rank bounds x lo mid rounds
      else lo

/-- A character is a member when an odd number of boundaries are at most its code point. -/
def CharSet.contains (set : CharSet) (c : Char) : Bool :=
  CharSet.rank set.bounds c.toNat 0 set.bounds.size (set.bounds.size.log2 + 2) % 2 == 1

end Cyclomatic.Text
