import Mathlib.Algebra.GroupWithZero.Nat
import Mathlib.Data.List.Basic

/-!
# Sequence numbers

Sixteen bit numbers that start again at zero after the largest.  `after s k` is the number `k`
places behind `s`, and a loop that counts up from `s` until it meets `stop` visits `upTo s stop`.
-/

namespace SequenceNumber

def after (s : UInt16) (k : Nat) : UInt16 :=
  s + .ofNat k

theorem toNat_after (s : UInt16) (k : Nat) : (after s k).toNat = (s.toNat + k) % 2 ^ 16 := by
  rw [after, UInt16.toNat_add, UInt16.toNat_ofNat']
  omega

theorem after_zero (s : UInt16) : after s 0 = s := by
  apply UInt16.toNat_inj.mp
  have h := s.toNat_lt
  rw [toNat_after, Nat.add_zero]
  omega

theorem after_succ (s : UInt16) (k : Nat) : after s (k + 1) = after s k + 1 := by
  apply UInt16.toNat_inj.mp
  rw [UInt16.toNat_add, toNat_after, toNat_after, UInt16.toNat_one]
  omega

theorem after_add (s : UInt16) (j k : Nat) : after (after s j) k = after s (j + k) := by
  apply UInt16.toNat_inj.mp
  rw [toNat_after, toNat_after, toNat_after]
  omega

theorem after_of_succ (s : UInt16) (k : Nat) : after (s + 1) k = after s (k + 1) := by
  rw [Nat.add_comm, ← after_add]
  rfl

/-- Fewer than `2 ^ 16` numbers in a row are all different. -/
theorem after_inj {s : UInt16} {j k : Nat} (hj : j < 2 ^ 16) (hk : k < 2 ^ 16) :
    after s j = after s k ↔ j = k := by
  have h := s.toNat_lt
  rw [← UInt16.toNat_inj, toNat_after, toNat_after]
  omega

/-! ## Counting up to a number -/

def upTo (s stop : UInt16) : List UInt16 :=
  (List.range (stop - s).toNat).map (after s)

theorem toNat_after_sub {k : Nat} (s : UInt16) (hk : k < 2 ^ 16) :
    (after s k - s).toNat = k := by
  have h := s.toNat_lt
  rw [UInt16.toNat_sub, toNat_after]
  omega

theorem upTo_after {k : Nat} (s : UInt16) (hk : k < 2 ^ 16) :
    upTo s (after s k) = (List.range k).map (after s) := by
  rw [upTo, toNat_after_sub s hk]

/-! ## Numbers with their cycle

The `k`-th number from `s` on is the low half of `s + k`.  A receiver that has seen `high` guesses
the rest of a number `n` from its low half.
-/

def extend (high n : Nat) : Nat :=
  let cycle := high / 2 ^ 16 * 2 ^ 16
  if high % 2 ^ 16 ≤ n then cycle + n
  else if n + 2 ^ 16 - high % 2 ^ 16 < high % 2 ^ 16 - n then cycle + 2 ^ 16 + n
  else cycle + n

-- In the cycle of `high` and not far behind it, or in the next one and not far ahead of it.
def Near (high n : Nat) : Prop :=
  n / 2 ^ 16 = high / 2 ^ 16 ∧ high ≤ n + 2 ^ 15 ∨
    n / 2 ^ 16 = high / 2 ^ 16 + 1 ∧ n < high + 2 ^ 15

instance Near.decidable (high n : Nat) : Decidable (Near high n) :=
  inferInstanceAs (Decidable (_ ∨ _))

/-- The guess is right exactly for the numbers nearby. -/
theorem extend_eq_iff (high n : Nat) : extend high (n % 2 ^ 16) = n ↔ Near high n := by
  unfold extend Near
  dsimp only
  split
  · omega
  · split <;> omega

/-- Whole cycles are carried along. -/
theorem extend_add_cycles (high n k : Nat) :
    extend (high + k * 2 ^ 16) n = extend high n + k * 2 ^ 16 := by
  unfold extend
  rw [Nat.add_mul_div_right _ _ (by decide), Nat.add_mul_mod_self_right]
  dsimp only
  split
  · omega
  · split <;> omega

end SequenceNumber
