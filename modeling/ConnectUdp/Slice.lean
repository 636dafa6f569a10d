import Mathlib.Algebra.BigOperators.Group.List.Basic
import Mathlib.Algebra.GroupWithZero.Nat
import Mathlib.Data.List.Basic
import Mathlib.Tactic.TypeStar

/-!
# Slices of a memory

A slice is a range of addresses.  Slices that lie one behind the other, with no gap between them,
are read as one.
-/

structure Slice where
  start : Nat
  length : Nat
  deriving DecidableEq, Repr

namespace Slice

variable {α : Type*} (mem : Nat → α)

-- The first address behind the slice.
def stop (s : Slice) : Nat :=
  s.start + s.length

def read (s : Slice) : List α :=
  (List.range' s.start s.length).map mem

theorem length_read (s : Slice) : (s.read mem).length = s.length := by
  rw [read, List.length_map, List.length_range']

theorem read_append (start m n : Nat) :
    read mem ⟨start, m⟩ ++ read mem ⟨start + m, n⟩ = read mem ⟨start, m + n⟩ := by
  simp only [read]
  rw [← List.map_append, ← List.range'_append_1]

/-- Slices of the given lengths, each starting where the lengths before it add up to. -/
def consecutive (lengths : List Nat) : List Slice :=
  lengths.zipIdx.map fun p => ⟨(lengths.take p.2).sum, p.1⟩

-- The same slices with a running address.
def consecutiveFrom (start : Nat) : List Nat → List Slice
  | [] => []
  | length :: lengths => ⟨start, length⟩ :: consecutiveFrom (start + length) lengths

theorem consecutiveFrom_eq (start : Nat) (before lengths : List Nat) :
    consecutiveFrom (start + before.sum) lengths = (lengths.zipIdx before.length).map fun p =>
      ⟨start + ((before ++ lengths).take p.2).sum, p.1⟩ := by
  induction lengths generalizing before with
  | nil => rfl
  | cons length lengths ih =>
    have hrest := ih (before ++ [length])
    rw [List.sum_append, List.sum_singleton, ← Nat.add_assoc, List.append_assoc,
      List.length_append] at hrest
    rw [consecutiveFrom, hrest, List.zipIdx_cons, List.map_cons]
    simp only [List.take_left]
    rfl

/-- The running address is the sum of the earlier lengths. -/
theorem consecutive_eq (lengths : List Nat) : consecutive lengths = consecutiveFrom 0 lengths := by
  have h := consecutiveFrom_eq 0 [] lengths
  simp only [List.sum_nil, Nat.zero_add, List.nil_append, List.length_nil] at h
  exact h.symm

theorem map_length_consecutive (lengths : List Nat) :
    (consecutive lengths).map Slice.length = lengths := by
  rw [consecutive, List.map_map]
  exact List.zipIdx_map_fst 0 lengths

theorem flatMap_consecutiveFrom (start : Nat) (lengths : List Nat) :
    (consecutiveFrom start lengths).flatMap (read mem) = read mem ⟨start, lengths.sum⟩ := by
  induction lengths generalizing start with
  | nil => rfl
  | cons length lengths ih =>
    rw [consecutiveFrom, List.flatMap_cons, ih, List.sum_cons, read_append]

/-- Read one behind the other, the slices are the memory up to the sum of their lengths. -/
theorem flatMap_consecutive (lengths : List Nat) :
    (consecutive lengths).flatMap (read mem) = read mem ⟨0, lengths.sum⟩ := by
  rw [consecutive_eq, flatMap_consecutiveFrom]

end Slice
