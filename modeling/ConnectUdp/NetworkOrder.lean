import Mathlib.Algebra.GroupWithZero.Nat
import Mathlib.Tactic.TypeStar

/-!
# Network byte order

Fixed-width words as bytes, the most significant byte first, and words read at an offset of a
datagram.  A read that does not fit is `none`.
-/

namespace NetworkOrder

def bytes16 (w : UInt16) : List UInt8 :=
  [.ofNat (w.toNat / 2 ^ 8), .ofNat w.toNat]

def bytes32 (w : UInt32) : List UInt8 :=
  [.ofNat (w.toNat / 2 ^ 24), .ofNat (w.toNat / 2 ^ 16), .ofNat (w.toNat / 2 ^ 8), .ofNat w.toNat]

def word16 (b₁ b₀ : UInt8) : UInt16 :=
  .ofNat (b₁.toNat * 2 ^ 8 + b₀.toNat)

def word32 (b₃ b₂ b₁ b₀ : UInt8) : UInt32 :=
  .ofNat (b₃.toNat * 2 ^ 24 + b₂.toNat * 2 ^ 16 + b₁.toNat * 2 ^ 8 + b₀.toNat)

theorem length_bytes16 (w : UInt16) : (bytes16 w).length = 2 := rfl

theorem length_bytes32 (w : UInt32) : (bytes32 w).length = 4 := rfl

theorem toNat_word16 (b₁ b₀ : UInt8) : (word16 b₁ b₀).toNat = b₁.toNat * 2 ^ 8 + b₀.toNat := by
  have h₁ := b₁.toNat_lt
  have h₀ := b₀.toNat_lt
  rw [word16, UInt16.toNat_ofNat']
  omega

theorem toNat_word32 (b₃ b₂ b₁ b₀ : UInt8) : (word32 b₃ b₂ b₁ b₀).toNat =
    b₃.toNat * 2 ^ 24 + b₂.toNat * 2 ^ 16 + b₁.toNat * 2 ^ 8 + b₀.toNat := by
  have h₃ := b₃.toNat_lt
  have h₂ := b₂.toNat_lt
  have h₁ := b₁.toNat_lt
  have h₀ := b₀.toNat_lt
  rw [word32, UInt32.toNat_ofNat']
  omega

theorem bytes16_word16 (b₁ b₀ : UInt8) : bytes16 (word16 b₁ b₀) = [b₁, b₀] := by
  have h₁ := b₁.toNat_lt
  have h₀ := b₀.toNat_lt
  simp only [bytes16, toNat_word16, List.cons.injEq, and_true, ← UInt8.toNat_inj,
    UInt8.toNat_ofNat']
  omega

theorem bytes32_word32 (b₃ b₂ b₁ b₀ : UInt8) :
    bytes32 (word32 b₃ b₂ b₁ b₀) = [b₃, b₂, b₁, b₀] := by
  have h₃ := b₃.toNat_lt
  have h₂ := b₂.toNat_lt
  have h₁ := b₁.toNat_lt
  have h₀ := b₀.toNat_lt
  simp only [bytes32, toNat_word32, List.cons.injEq, and_true, ← UInt8.toNat_inj,
    UInt8.toNat_ofNat']
  omega

/-- Reading back the bytes of a word gives the word. -/
theorem word16_bytes (w : UInt16) :
    word16 (.ofNat (w.toNat / 2 ^ 8)) (.ofNat w.toNat) = w := by
  have h := w.toNat_lt
  apply UInt16.toNat_inj.mp
  simp only [toNat_word16, UInt8.toNat_ofNat']
  omega

theorem word32_bytes (w : UInt32) :
    word32 (.ofNat (w.toNat / 2 ^ 24)) (.ofNat (w.toNat / 2 ^ 16)) (.ofNat (w.toNat / 2 ^ 8))
      (.ofNat w.toNat) = w := by
  have h := w.toNat_lt
  apply UInt32.toNat_inj.mp
  simp only [toNat_word32, UInt8.toNat_ofNat']
  omega

/-- What holds of the 256 bytes holds of every byte. -/
theorem forall_byte {P : UInt8 → Prop} (h : ∀ n < 256, P (.ofNat n)) (b : UInt8) : P b := by
  have hb := h b.toNat b.toNat_lt
  rwa [UInt8.ofNat_toNat] at hb

/-! ## Words at an offset -/

def read16 (bytes : List UInt8) (i : Nat) : Option UInt16 :=
  match bytes.drop i with
  | b₁ :: b₀ :: _ => some (word16 b₁ b₀)
  | _ => none

/-! ## Words in a row -/

section words

variable {enc : UInt32 → List UInt8}

theorem length_flatMap_words (henc : ∀ w, (enc w).length = 4) (ws : List UInt32) :
    (ws.flatMap enc).length = ws.length * 4 := by
  induction ws with
  | nil => rfl
  | cons w ws ih =>
    rw [List.flatMap_cons, List.length_append, ih, henc, List.length_cons]
    omega

/-- Bytes begin with as many words as they have room for. -/
theorem exists_words (henc : ∀ b₀ b₁ b₂ b₃, ∃ w, enc w = [b₀, b₁, b₂, b₃]) {n : Nat}
    {bytes : List UInt8} (h : n * 4 ≤ bytes.length) : ∃ (ws : List UInt32) (rest : List UInt8),
      ws.length = n ∧ bytes = ws.flatMap enc ++ rest := by
  induction n generalizing bytes with
  | zero => exact ⟨[], bytes, rfl, rfl⟩
  | succ n ih =>
    match bytes, h with
    | [], h | [_], h | [_, _], h | [_, _, _], h =>
      simp only [List.length_cons, List.length_nil] at h
      omega
    | b₀ :: b₁ :: b₂ :: b₃ :: bytes, h =>
      simp only [List.length_cons] at h
      obtain ⟨w, hw⟩ := henc b₀ b₁ b₂ b₃
      obtain ⟨ws, rest, hlength, hbytes⟩ := @ih bytes (by omega)
      refine ⟨w :: ws, rest, congrArg _ hlength, ?_⟩
      rw [List.flatMap_cons, hw, hbytes]
      rfl

end words

def words32 : Nat → List UInt8 → List UInt32
  | n + 1, b₃ :: b₂ :: b₁ :: b₀ :: bytes => word32 b₃ b₂ b₁ b₀ :: words32 n bytes
  | _, _ => []

theorem words32_flatMap (ws : List UInt32) (rest : List UInt8) :
    words32 ws.length (ws.flatMap bytes32 ++ rest) = ws := by
  induction ws with
  | nil => rfl
  | cons w ws ih =>
    show words32 (ws.length + 1) (.ofNat (w.toNat / 2 ^ 24) :: .ofNat (w.toNat / 2 ^ 16) ::
      .ofNat (w.toNat / 2 ^ 8) :: .ofNat w.toNat :: (ws.flatMap bytes32 ++ rest)) = _
    simp only [words32, ih, word32_bytes]

theorem exists_bytes32 (b₃ b₂ b₁ b₀ : UInt8) : ∃ w, bytes32 w = [b₃, b₂, b₁, b₀] :=
  ⟨word32 b₃ b₂ b₁ b₀, bytes32_word32 b₃ b₂ b₁ b₀⟩

end NetworkOrder
