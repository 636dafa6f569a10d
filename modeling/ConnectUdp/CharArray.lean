import Mathlib.Data.List.TakeWhile

/-!
# Character arrays of fixed size and C strings

An array keeps its size as a field, so a store can neither grow it nor run past its end.  A C
string is what stands before the first NUL.
-/

/-- The C string that starts at the head of `memory`. -/
def cstring (memory : List UInt8) : List UInt8 :=
  memory.takeWhile fun byte => byte ≠ 0

theorem cstring_of_no_nul {text : List UInt8} (h : 0 ∉ text) : cstring text = text := by
  refine List.takeWhile_eq_self_iff.mpr fun byte hbyte => ?_
  exact decide_eq_true fun hzero => h (hzero ▸ hbyte)

theorem nul_not_mem_cstring (memory : List UInt8) : 0 ∉ cstring memory := by
  intro hmem
  have hne := List.mem_takeWhile_imp (p := fun byte : UInt8 => decide (byte ≠ 0)) hmem
  exact absurd hne (by decide)

theorem cstring_append_nul {text : List UInt8} (h : 0 ∉ text) (rest : List UInt8) :
    cstring (text ++ 0 :: rest) = text := by
  have htext : ∀ byte ∈ text, decide (byte ≠ 0) = true :=
    fun byte hbyte => decide_eq_true fun hzero => h (hzero ▸ hbyte)
  rw [cstring, List.takeWhile_append_of_pos htext,
    List.takeWhile_cons_of_neg (by decide), List.append_nil]

structure CharArray (size : Nat) where
  bytes : List UInt8
  length_eq : bytes.length = size
  deriving DecidableEq, Repr

namespace CharArray

variable {size : Nat} {a b : CharArray size}

theorem ext_bytes (h : a.bytes = b.bytes) : a = b := by
  cases a
  cases b
  cases h
  rfl

-- `memset(a, 0, sizeof(a))`.
def zero (size : Nat) : CharArray size :=
  ⟨List.replicate size 0, List.length_replicate⟩

-- Store `data` from index 0 on; what does not fit is not stored.
def store (a : CharArray size) (data : List UInt8) : CharArray size where
  bytes := data.take size ++ a.bytes.drop data.length
  length_eq := by
    rw [List.length_append, List.length_take, List.length_drop, a.length_eq]
    omega

/-- `a[i] = byte`, or nothing when the index is outside the array. -/
def set? (a : CharArray size) (i : Int) (byte : UInt8) : Option (CharArray size) :=
  if 0 ≤ i ∧ i < size then
    some ⟨a.bytes.set i.toNat byte, List.length_set.trans a.length_eq⟩
  else none

-- The array that holds `data` and zeros after it.
def padded (size : Nat) (data : List UInt8) : CharArray size :=
  (zero size).store data

theorem padded_bytes {data : List UInt8} (h : data.length ≤ size) :
    (padded size data).bytes = data ++ List.replicate (size - data.length) 0 := by
  change data.take size ++ (List.replicate size 0).drop data.length = _
  rw [List.take_of_length_le h, List.drop_replicate]

theorem padded_take {data : List UInt8} (h : data.length ≤ size) :
    (padded size data).bytes.take data.length = data := by
  rw [padded_bytes h, List.take_left]

theorem padded_getElem_of_ge {data : List UInt8} (h : data.length ≤ size) {i : Nat}
    (hlo : data.length ≤ i) (hi : i < (padded size data).bytes.length) :
    (padded size data).bytes[i] = 0 := by
  simp only [padded_bytes h]
  rw [List.getElem_append_right hlo, List.getElem_replicate]

/-- Terminating what was stored in a cleared array changes nothing. -/
theorem padded_set?_terminator {data : List UInt8} (h : data.length < size) :
    (padded size data).set? data.length 0 = some (padded size data) := by
  rw [set?, if_pos ⟨by omega, by omega⟩]
  refine congrArg some (ext_bytes ?_)
  change (padded size data).bytes.set ((data.length : Int).toNat) 0 = _
  rw [padded_bytes h.le, Int.toNat_natCast, List.set_append_right _ _ le_rfl, Nat.sub_self]
  obtain ⟨n, hn⟩ := Nat.exists_eq_succ_of_ne_zero (Nat.sub_ne_zero_of_lt h)
  rw [hn, List.replicate_succ, List.set_cons_zero]

-- `strncpy(a, src, n)`: at most `n` characters of the C string, and zeros up to index `n`.
def strncpy (a : CharArray size) (src : List UInt8) (n : Nat) : CharArray size :=
  a.store ((cstring src).take n ++ List.replicate (n - (cstring src).length) 0)

/-- Copying all but one byte and terminating there leaves the string, cut off where it is too
long. -/
theorem strncpy_set?_terminator (a : CharArray size) (src : List UInt8) {n : Nat}
    (h : n + 1 = size) :
    (a.strncpy src n).set? n 0 = some (padded size ((cstring src).take n)) := by
  have hdata : ((cstring src).take n ++ List.replicate (n - (cstring src).length) 0).length =
      n := by
    rw [List.length_append, List.length_take, List.length_replicate]
    omega
  have hlast : (a.bytes.drop n).length = 1 := by
    rw [List.length_drop, a.length_eq]
    omega
  obtain ⟨byte, hbyte⟩ := List.length_eq_one_iff.mp hlast
  rw [set?, if_pos ⟨by omega, by omega⟩]
  refine congrArg some (ext_bytes ?_)
  rw [padded_bytes (by rw [List.length_take]; omega)]
  change (List.take size _ ++ a.bytes.drop (List.length _)).set ((n : Int).toNat) 0 = _
  rw [hdata, hbyte, List.take_of_length_le (by omega), Int.toNat_natCast,
    List.set_append_right _ _ hdata.le, hdata, Nat.sub_self, List.set_cons_zero,
    List.append_assoc, ← List.replicate_succ', List.length_take]
  congr 2
  omega

theorem cstring_padded {data : List UInt8} (hnul : 0 ∉ data) (h : data.length < size) :
    cstring (padded size data).bytes = data := by
  rw [padded_bytes h.le]
  obtain ⟨n, hn⟩ := Nat.exists_eq_succ_of_ne_zero (Nat.sub_ne_zero_of_lt h)
  rw [hn, List.replicate_succ]
  exact cstring_append_nul hnul _

end CharArray
