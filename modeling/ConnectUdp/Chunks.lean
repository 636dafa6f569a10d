import Mathlib.Data.List.Basic
import Mathlib.Tactic.TypeStar

/-!
# Chunks

A list cut into pieces of one size, the last one possibly shorter.  The pieces read one behind the
other are the list.
-/

namespace Chunks

variable {α : Type*} {n : Nat} {l : List α}

def count (n length : Nat) : Nat :=
  (length + n - 1) / n

def chunk (n : Nat) (l : List α) (k : Nat) : List α :=
  (l.drop (k * n)).take n

def chunks (n : Nat) (l : List α) : List (List α) :=
  (List.range (count n l.length)).map (chunk n l)

/-! ## How many pieces there are -/

theorem count_zero (hn : 0 < n) : count n 0 = 0 := by
  rw [count, Nat.zero_add]
  exact Nat.div_eq_of_lt (by omega)

theorem count_of_le {length : Nat} (hlen : 0 < length) (h : length ≤ n) : count n length = 1 := by
  rw [count, show length + n - 1 = length - 1 + n by omega, Nat.add_div_right _ (by omega),
    Nat.div_eq_of_lt (by omega)]

theorem count_of_lt {length : Nat} (hn : 0 < n) (h : n < length) :
    count n length = count n (length - n) + 1 := by
  rw [count, count, show length + n - 1 = length - n + n - 1 + n by omega, Nat.add_div_right _ hn]

theorem lt_count_iff {length k : Nat} (hn : 0 < n) : k < count n length ↔ k * n < length := by
  rw [count, Nat.lt_iff_add_one_le, Nat.le_div_iff_mul_le hn, Nat.add_mul, Nat.one_mul]
  omega

theorem one_lt_count {length : Nat} (hn : 0 < n) (h : n < length) : 1 < count n length :=
  (lt_count_iff hn).mpr (by rwa [Nat.one_mul])

/-! ## The pieces -/

theorem length_chunks (n : Nat) (l : List α) : (chunks n l).length = count n l.length := by
  rw [chunks, List.length_map, List.length_range]

theorem getElem?_chunks {k : Nat} (hk : k < count n l.length) :
    (chunks n l)[k]? = some (chunk n l k) := by
  rw [chunks, List.getElem?_map, List.getElem?_range hk]
  rfl

theorem length_chunk_le (n : Nat) (l : List α) (k : Nat) : (chunk n l k).length ≤ n := by
  rw [chunk, List.length_take]
  omega

theorem length_chunk_pos {k : Nat} (hn : 0 < n) (hk : k < count n l.length) :
    0 < (chunk n l k).length := by
  have hlt := (lt_count_iff hn).mp hk
  rw [chunk, List.length_take, List.length_drop]
  omega

theorem chunks_of_le (hlen : l ≠ []) (h : l.length ≤ n) : chunks n l = [l] := by
  rw [chunks, count_of_le (List.length_pos_iff.mpr hlen) h, List.range_one, List.map_singleton,
    chunk, Nat.zero_mul, List.drop_zero, List.take_of_length_le h]

theorem chunk_succ (n : Nat) (l : List α) (k : Nat) :
    chunk n l (k + 1) = chunk n (l.drop n) k := by
  rw [chunk, chunk, List.drop_drop, Nat.succ_mul, Nat.add_comm (k * n)]

/-- One turn of a loop that cuts a piece off the front. -/
theorem chunks_of_lt (hn : 0 < n) (h : n < l.length) :
    chunks n l = l.take n :: chunks n (l.drop n) := by
  rw [chunks, chunks, count_of_lt hn h, List.range_succ_eq_map, List.map_cons, List.map_map,
    List.length_drop]
  refine congrArg₂ _ (by rw [chunk, Nat.zero_mul, List.drop_zero]) ?_
  exact List.map_congr_left fun k _ => chunk_succ n l k

theorem flatten_chunks (hn : 0 < n) (l : List α) : (chunks n l).flatten = l := by
  by_cases hle : l.length ≤ n
  · by_cases hnil : l = []
    · rw [hnil, chunks, List.length_nil, count_zero hn]
      rfl
    · rw [chunks_of_le hnil hle, List.flatten_singleton]
  · have : (l.drop n).length < l.length := by rw [List.length_drop]; omega
    rw [chunks_of_lt hn (by omega), List.flatten_cons, flatten_chunks hn (l.drop n),
      List.take_append_drop]
termination_by l.length

end Chunks
