import ConnectUdp.NetworkOrder
import Mathlib.Algebra.BigOperators.Group.List.Basic
import Mathlib.Data.List.Basic

/-!
# Records behind their length

Byte strings with their length in front, sixteen bits in network order, one behind the other.
Whatever the bytes are, they begin with some records, and then nothing or a record that is cut off
is left.
-/

namespace Records

open NetworkOrder

-- The length has sixteen bits.
def Fits (r : List UInt8) : Prop :=
  r.length < 2 ^ 16

def record (r : List UInt8) : List UInt8 :=
  bytes16 (.ofNat r.length) ++ r

/-- A record that is not all there: one byte of the length, or fewer bytes than it says. -/
inductive Cut : List UInt8 → Prop
  | inLength (b : UInt8) : Cut [b]
  | inBody (n : UInt16) (short : List UInt8) (h : short.length < n.toNat) :
      Cut (bytes16 n ++ short)

variable {r rest : List UInt8} {rs : List (List UInt8)}

theorem length_record (r : List UInt8) : (record r).length = r.length + 2 := by
  rw [record, List.length_append, length_bytes16, Nat.add_comm]

theorem toNat_length (h : Fits r) : (UInt16.ofNat r.length).toNat = r.length := by
  rw [UInt16.toNat_ofNat']
  exact Nat.mod_eq_of_lt h

theorem exists_records (bytes : List UInt8) : ∃ (rs : List (List UInt8)) (rest : List UInt8),
    (∀ r ∈ rs, Fits r) ∧ bytes = rs.flatMap record ++ rest ∧ (rest = [] ∨ Cut rest) := by
  have hnone : ∀ r ∈ ([] : List (List UInt8)), Fits r := fun r hr => absurd hr List.not_mem_nil
  match bytes with
  | [] => exact ⟨[], [], hnone, rfl, .inl rfl⟩
  | [b] => exact ⟨[], [b], hnone, rfl, .inr (.inLength b)⟩
  | b₁ :: b₀ :: bytes =>
    have hlt := (word16 b₁ b₀).toNat_lt
    by_cases hshort : bytes.length < (word16 b₁ b₀).toNat
    · refine ⟨[], b₁ :: b₀ :: bytes, hnone, rfl, .inr ?_⟩
      have hcut := Cut.inBody (word16 b₁ b₀) bytes hshort
      rwa [bytes16_word16] at hcut
    · obtain ⟨rs, rest, hfits, hbytes, hrest⟩ :=
        exists_records (bytes.drop (word16 b₁ b₀).toNat)
      have hlength : (bytes.take (word16 b₁ b₀).toNat).length = (word16 b₁ b₀).toNat := by
        rw [List.length_take]
        omega
      refine ⟨bytes.take (word16 b₁ b₀).toNat :: rs, rest, ?_, ?_, hrest⟩
      · intro r hr
        rcases List.mem_cons.mp hr with rfl | hr
        · rw [Fits, hlength]
          exact hlt
        · exact hfits r hr
      · rw [List.flatMap_cons, List.append_assoc, ← hbytes, record, hlength, UInt16.ofNat_toNat,
          bytes16_word16, List.append_assoc, List.take_append_drop]
        rfl
termination_by bytes.length

theorem length_le_flatMap_record (rs : List (List UInt8)) :
    (rs.map List.length).sum + 2 * rs.length = (rs.flatMap record).length := by
  induction rs with
  | nil => rfl
  | cons r rs ih =>
    rw [List.map_cons, List.sum_cons, List.length_cons, List.flatMap_cons, List.length_append,
      length_record, ← ih]
    omega

/-! ## Where the records are -/

-- The length of each record and the place of its first byte, when they begin at `i`.
def places : List (List UInt8) → Nat → List (Nat × Nat)
  | [], _ => []
  | r :: rs, i => (r.length, i + 2) :: places rs (i + (r.length + 2))

variable {bytes : List UInt8} {i : Nat}

theorem drop_record (h : bytes.drop i = record r ++ rest) :
    bytes.drop (i + (r.length + 2)) = rest := by
  rw [← List.drop_drop, h, ← length_record, List.drop_left]

theorem take_drop_record (h : bytes.drop i = record r ++ rest) :
    (bytes.drop (i + 2)).take r.length = r := by
  have hbody : bytes.drop (i + 2) = r ++ rest := by
    rw [← List.drop_drop, h, record, List.append_assoc, ← length_bytes16 (.ofNat r.length),
      List.drop_left]
  rw [hbody, List.take_left]

theorem record_le (h : bytes.drop i = record r ++ rest) : i + (r.length + 2) ≤ bytes.length := by
  have hlength := congrArg List.length h
  rw [List.length_drop, List.length_append, length_record] at hlength
  omega

theorem read16_record (h : bytes.drop i = record r ++ rest) :
    read16 bytes i = some (.ofNat r.length) := by
  rw [read16, h, record, List.append_assoc]
  exact congrArg some (word16_bytes _)

end Records
