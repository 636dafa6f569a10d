import ConnectUdp.NetworkOrder
import Mathlib.Data.List.Basic

/-!
# The header of an RTP packet

Twelve bytes: version, padding bit, extension bit and number of contributing sources in the first,
marker and payload type in the second, then sequence number, timestamp and source.
-/

namespace RtpHeader

open NetworkOrder

structure Header where
  version : UInt8
  padding : UInt8
  ext : UInt8
  cc : UInt8
  marker : UInt8
  payload : UInt8
  seq : UInt16
  timestamp : UInt32
  ssrc : UInt32
  deriving DecidableEq, Repr

def firstByte (version padding ext cc : UInt8) : UInt8 :=
  version <<< 6 ||| padding <<< 5 ||| ext <<< 4 ||| cc

def secondByte (marker payload : UInt8) : UInt8 :=
  marker <<< 7 ||| payload

def headerBytes (h : Header) : List UInt8 :=
  [firstByte h.version h.padding h.ext h.cc, secondByte h.marker h.payload] ++
    bytes16 h.seq ++ bytes32 h.timestamp ++ bytes32 h.ssrc

def headerFields (b₀ b₁ : UInt8) (seq : UInt16) (timestamp ssrc : UInt32) : Header where
  version := (b₀ >>> 6) &&& 3
  padding := (b₀ >>> 5) &&& 1
  ext := (b₀ >>> 4) &&& 1
  cc := b₀ &&& 0x0f
  marker := if b₁ &&& 0x80 ≠ 0 then 1 else 0
  payload := b₁ &&& 0x7f
  seq := seq
  timestamp := timestamp
  ssrc := ssrc

/-- The header of a datagram and what follows it; `none` for less than twelve bytes. -/
def readHeader : List UInt8 → Option (Header × List UInt8)
  | b₀ :: b₁ :: s₁ :: s₀ :: t₃ :: t₂ :: t₁ :: t₀ :: c₃ :: c₂ :: c₁ :: c₀ :: rest =>
    some (headerFields b₀ b₁ (word16 s₁ s₀) (word32 t₃ t₂ t₁ t₀) (word32 c₃ c₂ c₁ c₀), rest)
  | _ => none

-- The fields that are smaller than a byte.
structure Header.Fits (h : Header) : Prop where
  version : h.version.toNat < 4
  padding : h.padding.toNat < 2
  ext : h.ext.toNat < 2
  cc : h.cc.toNat < 16
  marker : h.marker.toNat < 2
  payload : h.payload.toNat < 128

theorem Header.Fits.ext_eq {h : Header} (hf : h.Fits) : h.ext = 0 ∨ h.ext = 1 := by
  have hext := hf.ext
  rw [← UInt8.toNat_inj, ← UInt8.toNat_inj, UInt8.toNat_zero, UInt8.toNat_one]
  omega

theorem Header.Fits.marker_eq {h : Header} (hf : h.Fits) : h.marker = 0 ∨ h.marker = 1 := by
  have hmarker := hf.marker
  rw [← UInt8.toNat_inj, ← UInt8.toNat_inj, UInt8.toNat_zero, UInt8.toNat_one]
  omega

theorem Header.Fits.padding_eq {h : Header} (hf : h.Fits) : h.padding = 0 ∨ h.padding = 1 := by
  have hpadding := hf.padding
  rw [← UInt8.toNat_inj, ← UInt8.toNat_inj, UInt8.toNat_zero, UInt8.toNat_one]
  omega

/-! ## Bytes from fields and fields from bytes -/

theorem firstByte_of_fields (b : UInt8) :
    firstByte ((b >>> 6) &&& 3) ((b >>> 5) &&& 1) ((b >>> 4) &&& 1) (b &&& 0x0f) = b := by
  revert b
  apply forall_byte
  decide +kernel

theorem secondByte_of_fields (b : UInt8) :
    secondByte (if b &&& 0x80 ≠ 0 then 1 else 0) (b &&& 0x7f) = b := by
  revert b
  apply forall_byte
  decide +kernel

theorem fits_of_firstByte (b : UInt8) : ((b >>> 6) &&& 3).toNat < 4 ∧ ((b >>> 5) &&& 1).toNat < 2 ∧
    ((b >>> 4) &&& 1).toNat < 2 ∧ (b &&& 0x0f).toNat < 16 := by
  revert b
  apply forall_byte
  decide +kernel

theorem fits_of_secondByte (b : UInt8) :
    (if b &&& 0x80 ≠ 0 then (1 : UInt8) else 0).toNat < 2 ∧ (b &&& 0x7f).toNat < 128 := by
  revert b
  apply forall_byte
  decide +kernel

theorem firstByte_fields {h : Header} (hf : h.Fits) :
    (firstByte h.version h.padding h.ext h.cc >>> 6) &&& 3 = h.version ∧
    (firstByte h.version h.padding h.ext h.cc >>> 5) &&& 1 = h.padding ∧
    (firstByte h.version h.padding h.ext h.cc >>> 4) &&& 1 = h.ext ∧
    firstByte h.version h.padding h.ext h.cc &&& 0x0f = h.cc := by
  have hall : ∀ v < 4, ∀ p < 2, ∀ e < 2, ∀ c < 16,
      let b := firstByte (.ofNat v) (.ofNat p) (.ofNat e) (.ofNat c)
      (b >>> 6) &&& 3 = .ofNat v ∧ (b >>> 5) &&& 1 = .ofNat p ∧ (b >>> 4) &&& 1 = .ofNat e ∧
        b &&& 0x0f = .ofNat c := by
    decide +kernel
  have hb := hall _ hf.version _ hf.padding _ hf.ext _ hf.cc
  simpa only [UInt8.ofNat_toNat] using hb

theorem secondByte_fields {h : Header} (hf : h.Fits) :
    (if secondByte h.marker h.payload &&& 0x80 ≠ 0 then (1 : UInt8) else 0) = h.marker ∧
      secondByte h.marker h.payload &&& 0x7f = h.payload := by
  have hall : ∀ m < 2, ∀ p < 128, let b := secondByte (.ofNat m) (.ofNat p)
      (if b &&& 0x80 ≠ 0 then (1 : UInt8) else 0) = .ofNat m ∧ b &&& 0x7f = .ofNat p := by
    decide +kernel
  have hb := hall _ hf.marker _ hf.payload
  simpa only [UInt8.ofNat_toNat] using hb

theorem fits_headerFields (b₀ b₁ : UInt8) (seq : UInt16) (timestamp ssrc : UInt32) :
    (headerFields b₀ b₁ seq timestamp ssrc).Fits := by
  obtain ⟨hversion, hpadding, hext, hcc⟩ := fits_of_firstByte b₀
  obtain ⟨hmarker, hpayload⟩ := fits_of_secondByte b₁
  exact ⟨hversion, hpadding, hext, hcc, hmarker, hpayload⟩

theorem length_headerBytes (h : Header) : (headerBytes h).length = 12 := rfl

/-- Whatever a header that fits is followed by, its fields are read back. -/
theorem readHeader_headerBytes {h : Header} (hf : h.Fits) (rest : List UInt8) :
    readHeader (headerBytes h ++ rest) = some (h, rest) := by
  obtain ⟨hversion, hpadding, hext, hcc⟩ := firstByte_fields hf
  obtain ⟨hmarker, hpayload⟩ := secondByte_fields hf
  simp only [headerBytes, bytes16, bytes32, List.cons_append, List.nil_append, readHeader,
    headerFields, word16_bytes, word32_bytes, hversion, hpadding, hext, hcc, hmarker, hpayload]

theorem exists_headerBytes {packet : List UInt8} (hsize : 12 ≤ packet.length) :
    ∃ h rest, Header.Fits h ∧ packet = headerBytes h ++ rest := by
  match packet, hsize with
  | b₀ :: b₁ :: s₁ :: s₀ :: t₃ :: t₂ :: t₁ :: t₀ :: c₃ :: c₂ :: c₁ :: c₀ :: rest, _ =>
    refine ⟨headerFields b₀ b₁ (word16 s₁ s₀) (word32 t₃ t₂ t₁ t₀) (word32 c₃ c₂ c₁ c₀), rest,
      fits_headerFields _ _ _ _ _, ?_⟩
    simp only [headerBytes, headerFields, firstByte_of_fields, secondByte_of_fields, bytes16_word16,
      bytes32_word32, List.cons_append, List.nil_append]

theorem readHeader_eq_none {packet : List UInt8} (hsize : packet.length < 12) :
    readHeader packet = none := by
  unfold readHeader
  split
  next =>
    simp only [List.length_cons] at hsize
    omega
  next => rfl

end RtpHeader
