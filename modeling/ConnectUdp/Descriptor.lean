import Mathlib.Data.Finset.Card

/-!
# Descriptor numbers

A new descriptor takes the lowest number that is not open.
-/

namespace Descriptor

variable {inUse : Finset Int} {fuel n m : Nat}

/-- The first number from `n` on that is free, if it is among the next `fuel` ones. -/
def firstFree (inUse : Finset Int) : Nat → Nat → Nat
  | 0, n => n
  | fuel + 1, n => if (n : Int) ∈ inUse then firstFree inUse fuel (n + 1) else n

theorem mem_of_lt_firstFree (hle : n ≤ m) (hlt : m < firstFree inUse fuel n) :
    (m : Int) ∈ inUse := by
  induction fuel generalizing n with
  | zero =>
    unfold firstFree at hlt
    omega
  | succ fuel ih =>
    unfold firstFree at hlt
    by_cases hn : (n : Int) ∈ inUse
    · rw [if_pos hn] at hlt
      by_cases hm : m = n
      · rw [hm]
        exact hn
      · exact ih (by omega) hlt
    · rw [if_neg hn] at hlt
      omega

theorem firstFree_of_mem (h : (firstFree inUse fuel n : Int) ∈ inUse) :
    firstFree inUse fuel n = n + fuel := by
  induction fuel generalizing n with
  | zero => rfl
  | succ fuel ih =>
    unfold firstFree at h ⊢
    by_cases hn : (n : Int) ∈ inUse
    · rw [if_pos hn] at h ⊢
      rw [ih h]
      omega
    · rw [if_neg hn] at h
      exact absurd h hn

/-- The lowest free number: the search needs at most one step for each number in use. -/
def lowestFree (inUse : Finset Int) : Int :=
  firstFree inUse inUse.card 0

theorem lowestFree_not_mem (inUse : Finset Int) : lowestFree inUse ∉ inUse := by
  intro h
  have hcard : firstFree inUse inUse.card 0 = inUse.card := by
    rw [firstFree_of_mem h, Nat.zero_add]
  -- otherwise 0 up to the number found would all be in use, one too many
  have hmem : ∀ k ∈ Finset.range (inUse.card + 1), (k : Int) ∈ inUse := by
    intro k hk
    have hlt := Finset.mem_range.mp hk
    by_cases hlast : k = inUse.card
    · rw [hlast, ← hcard]
      exact h
    · apply mem_of_lt_firstFree (Nat.zero_le k)
      rw [hcard]
      omega
  have hle := Finset.card_le_card_of_injOn _ hmem fun a _ b _ hab => Int.ofNat.inj hab
  rw [Finset.card_range] at hle
  omega

end Descriptor
