import Mathlib.Data.Int.Cast.Lemmas
import Mathlib.Data.Nat.ModEq
import Mathlib.Logic.Function.Basic
import Mathlib.Tactic.TypeStar

/-!
# Ring buffers with two indices

A writer and a reader each keep the index of the place they used last, which is -1 at first.  The
reader takes equal indices for an empty buffer.  That is right, and no value is written over, as
long as the writer is less than the size of the buffer ahead.
-/

namespace RingBuffer

variable {α : Type*} {size m n : Nat}

-- The index after `n` moves.
def index (size : Nat) : Nat → Int
  | 0 => -1
  | n + 1 => (n % size : Nat)

def nextIndex (size : Nat) (i : Int) : Int :=
  (i + 1) % size

theorem nextIndex_index (size n : Nat) : nextIndex size (index size n) = index size (n + 1) := by
  cases n with
  | zero => rfl
  | succ n =>
    rw [nextIndex, index, index, ← Nat.mod_add_mod n size 1]
    exact_mod_cast rfl

theorem index_succ_nonneg (size n : Nat) : 0 ≤ index size (n + 1) :=
  Int.natCast_nonneg _

/-- The indices agree only when the writer and the reader have made the same number of moves. -/
theorem index_eq_iff (hle : m ≤ n) (hlt : n < m + size) :
    index size m = index size n ↔ m = n := by
  refine ⟨fun h => ?_, fun h => congrArg (index size) h⟩
  match m, n with
  | 0, 0 => rfl
  | 0, n + 1 =>
    have hneg : index size 0 = -1 := rfl
    have hpos := index_succ_nonneg size n
    omega
  | m + 1, n + 1 =>
    have hmod : m % size = n % size := Int.ofNat.inj h
    have hdvd : size ∣ n - m := (Nat.modEq_iff_dvd' (by omega)).mp hmod
    have hzero := Nat.eq_zero_of_dvd_of_lt hdvd (by omega)
    omega

/-! ## What the places hold -/

-- The places hold the values written from the first one on that is still needed.
def Holds (size : Nat) (places : Int → α) (values : List α) (first : Nat) : Prop :=
  ∀ j x, first ≤ j → values[j]? = some x → places (index size (j + 1)) = x

variable {places : Int → α} {values : List α} {first : Nat}

theorem Holds.later (h : Holds size places values first) {first' : Nat} (hle : first ≤ first') :
    Holds size places values first' :=
  fun j x hj => h j x (hle.trans hj)

/-- The place of the next value is not one that is still needed. -/
theorem Holds.update (h : Holds size places values first) (hroom : values.length < first + size)
    (x : α) :
    Holds size (Function.update places (index size (values.length + 1)) x) values first := by
  intro j y hj hy
  have hlt := (List.getElem?_eq_some_iff.mp hy).1
  rw [Function.update_of_ne]
  · exact h j y hj hy
  · intro heq
    have := (index_eq_iff (by omega) (by omega)).mp heq
    omega

theorem Holds.write (h : Holds size places values first) (hroom : values.length < first + size)
    (x : α) : Holds size (Function.update places (index size (values.length + 1)) x)
      (values ++ [x]) first := by
  intro j y hj hy
  by_cases hlt : j < values.length
  · rw [List.getElem?_append_left hlt] at hy
    exact h.update hroom x j y hj hy
  · rw [List.getElem?_append_right (by omega), List.getElem?_singleton] at hy
    split at hy
    next heq =>
      obtain rfl : j = values.length := by omega
      cases hy
      exact Function.update_self _ _ _
    next => cases hy

end RingBuffer
