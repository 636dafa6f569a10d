import ConnectUdp.RtpHeader
import Mathlib.Data.List.Basic
import Mathlib.Data.Nat.Basic

/-!
# RTP packets of uvgRTP

`rtp::fill_header` writes the header of the packets sent, `rtp::packet_handler` turns a received
datagram into a frame.  What the handler accepts is compared with the layout of a packet.
-/

namespace ConnectUdp.Uvgrtp

open NetworkOrder RtpHeader

inductive Fault
  | readOutside
  | nullPointer
  | heapOverflow
  deriving DecidableEq, Repr

theorem map_eq_ok {α β : Type} {x : Except Fault α} {f : α → β} {b : β} (h : x.map f = .ok b) :
    ∃ a, x = .ok a ∧ f a = b := by
  match x, h with
  | .ok a, h => exact ⟨a, rfl, Except.ok.inj h⟩

theorem bind_eq_ok {α β : Type} {x : Except Fault α} {f : α → Except Fault β} {b : β}
    (h : x >>= f = .ok b) : ∃ a, x = .ok a ∧ f a = .ok b := by
  match x, h with
  | .ok a, h => exact ⟨a, rfl, h⟩

structure ExtHeader where
  type : UInt16
  data : List UInt8
  deriving DecidableEq, Repr

-- `payload_len` is the length of `payload`, and `ext->len` that of `ext.data`.
structure Frame where
  header : Header
  csrc : List UInt32
  ext : Option ExtHeader
  paddingLen : Nat
  payload : List UInt8
  deriving DecidableEq, Repr

/-! ## Sending: `rtp::fill_header` -/

def invalidTs : UInt64 := 0xFFFFFFFFFFFFFFFF

-- Clock readings are in microseconds.
structure Rtp where
  ssrc : UInt32
  ts : UInt32
  seq : UInt16
  payload : UInt8
  clockRate : UInt32
  wcStart : Nat
  timestamp : UInt64
  payloadSize : UInt64
  deriving DecidableEq, Repr

-- The clock is running once a random timestamp stands for the reading `wcStart`.
def Rtp.started (r : Rtp) (now : Nat) (random : UInt32) : Rtp :=
  if r.ts = 0 then { r with ts := random, wcStart := now } else r

@[simp] theorem Rtp.started_payloadSize (r : Rtp) (now : Nat) (random : UInt32) :
    (r.started now random).payloadSize = r.payloadSize := by
  rw [started]
  split <;> rfl

@[simp] theorem Rtp.started_seq (r : Rtp) (now : Nat) (random : UInt32) :
    (r.started now random).seq = r.seq := by
  rw [started]
  split <;> rfl

def Rtp.rtpTimestamp (r : Rtp) (now : Nat) : UInt32 :=
  if r.timestamp = invalidTs then
    let uSeconds := UInt64.ofNat ((now - r.wcStart) * r.clockRate.toNat)
    r.ts + (uSeconds / 1000000).toUInt32
  else r.timestamp.toUInt32

def Rtp.fillHeader (r : Rtp) (now : Nat) (random : UInt32) : Rtp × Header :=
  let r := r.started now random
  (r, { version := 2, padding := 0, ext := 0, cc := 0, marker := 0, payload := r.payload &&& 0x7f,
        seq := r.seq, timestamp := r.rtpTimestamp now, ssrc := r.ssrc })

-- `update_rtp_header`: the header all packets of a transaction share, with the current number.
def Rtp.updateRtpHeader (r : Rtp) (common : Header) : Header :=
  { common with seq := r.seq }

def Rtp.incSequence (r : Rtp) : Rtp :=
  { r with seq := if r.seq ≠ 0xFFFF then r.seq + 1 else 0 }

theorem Rtp.incSequence_eq (r : Rtp) : r.incSequence = { r with seq := r.seq + 1 } := by
  rw [incSequence]
  by_cases h : r.seq = 0xFFFF
  · rw [if_neg (not_not.mpr h), h]
    rfl
  · rw [if_pos h]

/-! ## Receiving: `rtp::packet_handler` -/

inductive Handled
  | notHandled
  | error
  | modified (frame : Frame)
  deriving DecidableEq, Repr

-- The entries are stored in the order of the host, least significant byte first.
def csrcEntries : Nat → List UInt8 → List UInt32 × List UInt8
  | n + 1, b₀ :: b₁ :: b₂ :: b₃ :: ptr =>
    let (entries, ptr) := csrcEntries n ptr
    (word32 b₃ b₂ b₁ b₀ :: entries, ptr)
  | _, ptr => ([], ptr)

-- `len` has sixteen bits; it does not hold the product for every count of words.
def extHeader : List UInt8 → Except Fault (ExtHeader × List UInt8)
  | t₁ :: t₀ :: l₁ :: l₀ :: ptr =>
    let len := (word16 l₁ l₀ * 4).toNat
    if ptr.length < len then .error .readOutside
    else .ok (⟨word16 t₁ t₀, ptr.take len⟩, ptr.drop len)
  | _ => .error .readOutside

def optionalExt (header : Header) (ptr : List UInt8) :
    Except Fault (Option ExtHeader × List UInt8) :=
  if header.ext = 0 then .ok (none, ptr)
  else (extHeader ptr).map fun (ext, ptr) => (some ext, ptr)

def packetBody (header : Header) (ptr : List UInt8) : Except Fault Handled :=
  if ptr.length < header.cc.toNat * 4 then .ok .error
  else
    let (csrc, ptr) := csrcEntries header.cc.toNat ptr
    match optionalExt header ptr with
    | .error fault => .error fault
    | .ok (ext, ptr) =>
      -- The length of the padding is read through `payload`, which is not allocated yet.
      if header.padding ≠ 0 then .error .nullPointer
      else .ok (.modified ⟨header, csrc, ext, 0, ptr⟩)

def packetHandler (packet : List UInt8) : Except Fault Handled :=
  match readHeader packet with
  | none => .ok .notHandled
  | some (header, ptr) => if header.version ≠ 2 then .ok .notHandled else packetBody header ptr

/-! ## The layout of a packet -/

/-- A packet without padding, its words in network order. -/
structure RtpPacket where
  header : Header
  csrcs : List UInt32
  ext : Option ExtHeader
  payload : List UInt8
  deriving DecidableEq, Repr

-- `words` is what the packet says about the length of its extension.
def extBytes (words : UInt16) : Option ExtHeader → List UInt8
  | none => []
  | some ext => bytes16 ext.type ++ bytes16 words ++ ext.data

def RtpPacket.bytes (p : RtpPacket) (words : UInt16) : List UInt8 :=
  headerBytes p.header ++ (p.csrcs.flatMap bytes32 ++ (extBytes words p.ext ++ p.payload))

/-- The fields fit together, and the extension has this many words. -/
structure RtpPacket.WellFormed (p : RtpPacket) (words : Nat) : Prop where
  fits : p.header.Fits
  version : p.header.version = 2
  padding : p.header.padding = 0
  cc : p.header.cc.toNat = p.csrcs.length
  ext : p.header.ext = if p.ext.isSome then 1 else 0
  extLen : ∀ ext ∈ p.ext, ext.data.length = 4 * words

/-! ### Where the handler departs from it -/

-- A word in network order as a little-endian host reads it.
def hostOrder (w : UInt32) : UInt32 :=
  word32 (.ofNat w.toNat) (.ofNat (w.toNat / 2 ^ 8)) (.ofNat (w.toNat / 2 ^ 16))
    (.ofNat (w.toNat / 2 ^ 24))

-- All that a length of sixteen bits keeps of a count of words.
def keptWords (words : UInt16) : Nat :=
  words.toNat % 2 ^ 14

theorem toNat_mul_four (words : UInt16) : (words * 4).toNat = 4 * keptWords words := by
  rw [UInt16.toNat_mul, keptWords, show UInt16.toNat 4 = 4 from rfl]
  omega

theorem keptWords_of_lt {words : UInt16} (h : words.toNat < 2 ^ 14) :
    keptWords words = words.toNat :=
  Nat.mod_eq_of_lt h

-- The CSRC entries are not converted.
def RtpPacket.frame (p : RtpPacket) : Frame where
  header := p.header
  csrc := p.csrcs.map hostOrder
  ext := p.ext
  paddingLen := 0
  payload := p.payload

/-- The handler reads the fields of a header back. -/
theorem packetHandler_headerBytes {h : Header} (hf : h.Fits) (ptr : List UInt8) :
    packetHandler (headerBytes h ++ ptr) =
      if h.version ≠ 2 then .ok .notHandled else packetBody h ptr := by
  rw [packetHandler, readHeader_headerBytes hf]

theorem packetHandler_of_short {packet : List UInt8} (hsize : packet.length < 12) :
    packetHandler packet = .ok .notHandled := by
  rw [packetHandler, readHeader_eq_none hsize]

/-! ### What follows the header -/

theorem csrcEntries_flatMap (csrcs : List UInt32) (ptr : List UInt8) :
    csrcEntries csrcs.length (csrcs.flatMap bytes32 ++ ptr) = (csrcs.map hostOrder, ptr) := by
  induction csrcs with
  | nil => rfl
  | cons w csrcs ih =>
    change csrcEntries (csrcs.length + 1) (.ofNat (w.toNat / 2 ^ 24) ::
      .ofNat (w.toNat / 2 ^ 16) :: .ofNat (w.toNat / 2 ^ 8) :: .ofNat w.toNat ::
        (csrcs.flatMap bytes32 ++ ptr)) = _
    simp only [csrcEntries, ih]
    rfl

theorem length_flatMap_bytes32 (csrcs : List UInt32) :
    (csrcs.flatMap bytes32).length = csrcs.length * 4 :=
  length_flatMap_words length_bytes32 csrcs

theorem extHeader_bytes {ext : ExtHeader} {words : UInt16}
    (hlen : ext.data.length = 4 * keptWords words) (rest : List UInt8) :
    extHeader (extBytes words (some ext) ++ rest) = .ok (ext, rest) := by
  simp only [extBytes, bytes16, List.cons_append, List.nil_append, extHeader, word16_bytes]
  rw [toNat_mul_four, ← hlen, List.length_append, if_neg (by omega), List.take_left,
    List.drop_left]

theorem extHeader_eq_ok {ptr rest : List UInt8} {ext : ExtHeader}
    (h : extHeader ptr = .ok (ext, rest)) : ∃ words : UInt16,
      ext.data.length = 4 * keptWords words ∧ ptr = extBytes words (some ext) ++ rest := by
  unfold extHeader at h
  split at h
  next t₁ t₀ l₁ l₀ ptr =>
    dsimp only at h
    split at h
    · cases h
    next hfits =>
      cases h
      refine ⟨word16 l₁ l₀, ?_, ?_⟩
      · rw [List.length_take, ← toNat_mul_four]
        omega
      rw [extBytes, bytes16_word16, bytes16_word16, List.append_assoc, List.take_append_drop]
      rfl
  · cases h

-- Behind the CSRC entries there is no extension header, or not the words that are kept.
def ExtOutside (ptr : List UInt8) : Prop :=
  ∀ words ∈ read16 ptr 2, ptr.length < 4 + 4 * keptWords words

-- The same for all the words that the packet announces.
def ExtMissing (ptr : List UInt8) : Prop :=
  ∀ words ∈ read16 ptr 2, ptr.length < 4 + 4 * words.toNat

theorem ExtOutside.missing {ptr : List UInt8} (h : ExtOutside ptr) : ExtMissing ptr := by
  intro words hwords
  have hkept := h words hwords
  unfold keptWords at hkept
  omega

/-- An extension of less than `2 ^ 14` words is read outside when it is not there. -/
theorem extOutside_iff_missing {ptr : List UInt8}
    (hcount : ∀ words ∈ read16 ptr 2, words.toNat < 2 ^ 14) :
    ExtOutside ptr ↔ ExtMissing ptr := by
  refine ⟨ExtOutside.missing, fun h words hwords => ?_⟩
  rw [keptWords_of_lt (hcount words hwords)]
  exact h words hwords

theorem extHeader_eq_error_iff (ptr : List UInt8) :
    (∃ fault, extHeader ptr = .error fault) ↔ ExtOutside ptr := by
  match ptr with
  | [] | [_] | [_, _] | [_, _, _] => exact iff_of_true ⟨_, rfl⟩ (by intro w hw; cases hw)
  | t₁ :: t₀ :: l₁ :: l₀ :: ptr =>
    have hread : read16 (t₁ :: t₀ :: l₁ :: l₀ :: ptr) 2 = some (word16 l₁ l₀) := rfl
    simp only [ExtOutside, hread, Option.mem_some_iff, forall_eq', List.length_cons, extHeader,
      toNat_mul_four]
    split
    next hlt => exact iff_of_true ⟨_, rfl⟩ (by omega)
    next hle => exact iff_of_false (by rintro ⟨_, h⟩; cases h) (by omega)

theorem optionalExt_bytes {h : Header} {ext : Option ExtHeader} {words : UInt16}
    (hext : h.ext = if ext.isSome then 1 else 0)
    (hlen : ∀ e ∈ ext, e.data.length = 4 * keptWords words) (rest : List UInt8) :
    optionalExt h (extBytes words ext ++ rest) = .ok (ext, rest) := by
  cases ext with
  | none => exact if_pos hext
  | some ext =>
    have hone : h.ext ≠ 0 := by
      rw [hext, Option.isSome_some, if_pos rfl]
      decide
    rw [optionalExt, if_neg hone, extHeader_bytes (hlen ext rfl)]
    rfl

theorem optionalExt_eq_ok {h : Header} (hf : h.Fits) {ext : Option ExtHeader}
    {ptr rest : List UInt8} (hok : optionalExt h ptr = .ok (ext, rest)) :
    h.ext = (if ext.isSome then 1 else 0) ∧ ∃ words : UInt16,
      (∀ e ∈ ext, e.data.length = 4 * keptWords words) ∧ ptr = extBytes words ext ++ rest := by
  unfold optionalExt at hok
  by_cases hzero : h.ext = 0
  · rw [if_pos hzero] at hok
    cases hok
    refine ⟨hzero, 0, ?_, rfl⟩
    intro e he
    cases he
  · rw [if_neg hzero] at hok
    match he : extHeader ptr with
    | .error fault => rw [he] at hok; cases hok
    | .ok (e, rest') =>
      rw [he] at hok
      cases hok
      obtain ⟨words, hlen, hptr⟩ := extHeader_eq_ok he
      exact ⟨hf.ext_eq.resolve_left hzero, words, fun _ h => Option.mem_some_iff.mp h ▸ hlen, hptr⟩

theorem optionalExt_eq_error_iff {h : Header} (hf : h.Fits) (ptr : List UInt8) :
    (∃ fault, optionalExt h ptr = .error fault) ↔ h.ext = 1 ∧ ExtOutside ptr := by
  unfold optionalExt
  rcases hf.ext_eq with hzero | hone
  · rw [if_pos hzero, hzero]
    exact iff_of_false (by rintro ⟨_, h⟩; cases h) (by rintro ⟨h, -⟩; cases h)
  · rw [if_neg (by rw [hone]; decide), ← extHeader_eq_error_iff]
    match extHeader ptr with
    | .error fault => exact iff_of_true ⟨fault, rfl⟩ ⟨hone, fault, rfl⟩
    | .ok _ =>
      exact iff_of_false (by rintro ⟨_, h⟩; cases h) (by rintro ⟨-, _, h⟩; cases h)

theorem packetBody_of_short {h : Header} {ptr : List UInt8}
    (hshort : ptr.length < h.cc.toNat * 4) : packetBody h ptr = .ok .error :=
  if_pos hshort

theorem packetBody_csrc {h : Header} {csrcs : List UInt32} (hcc : h.cc.toNat = csrcs.length)
    (ptr : List UInt8) : packetBody h (csrcs.flatMap bytes32 ++ ptr) =
      match optionalExt h ptr with
      | .error fault => .error fault
      | .ok (ext, ptr) =>
        if h.padding ≠ 0 then .error .nullPointer
        else .ok (.modified ⟨h, csrcs.map hostOrder, ext, 0, ptr⟩) := by
  have hfits : ¬ (csrcs.flatMap bytes32 ++ ptr).length < h.cc.toNat * 4 := by
    rw [List.length_append, length_flatMap_bytes32]
    omega
  rw [packetBody, if_neg hfits, hcc, csrcEntries_flatMap]

/-! ## What the handler accepts -/

section accepts

variable {p : RtpPacket} {words : UInt16}

/-- The handler reads a packet back from its layout, of an extension as much as it keeps. -/
theorem packetHandler_bytes (hp : p.WellFormed (keptWords words)) :
    packetHandler (p.bytes words) = .ok (.modified p.frame) := by
  rw [RtpPacket.bytes, packetHandler_headerBytes hp.fits, if_neg (not_not.mpr hp.version),
    packetBody_csrc hp.cc, optionalExt_bytes hp.ext hp.extLen]
  dsimp only
  rw [if_neg (not_not.mpr hp.padding)]
  rfl

-- A packet with nothing between its header and its payload.
theorem packetHandler_plain {h : Header} (hf : h.Fits) (hversion : h.version = 2)
    (hpadding : h.padding = 0) (hext : h.ext = 0) (hcc : h.cc = 0) (payload : List UInt8) :
    packetHandler (headerBytes h ++ payload) = .ok (.modified ⟨h, [], none, 0, payload⟩) := by
  have hp : RtpPacket.WellFormed ⟨h, [], none, payload⟩ (keptWords 0) := by
    refine ⟨hf, hversion, hpadding, ?_, hext, fun e he => by cases he⟩
    rw [hcc]
    rfl
  have hbytes : RtpPacket.bytes ⟨h, [], none, payload⟩ 0 = headerBytes h ++ payload := by
    simp only [RtpPacket.bytes, extBytes, List.flatMap_nil, List.nil_append]
  rw [← hbytes, packetHandler_bytes hp]
  rfl

theorem packetHandler_wellFormed (hp : p.WellFormed words.toNat) (hcount : words.toNat < 2 ^ 14) :
    packetHandler (p.bytes words) = .ok (.modified p.frame) :=
  packetHandler_bytes (keptWords_of_lt hcount ▸ hp)

/-- Of an extension of `2 ^ 14` words or more, the words that are not kept turn up in front of the
payload. -/
theorem packetHandler_wideExt {ext : ExtHeader} (hp : p.WellFormed words.toNat)
    (hext : p.ext = some ext) : packetHandler (p.bytes words) = .ok (.modified { p.frame with
      ext := some { ext with data := ext.data.take (4 * keptWords words) }
      payload := ext.data.drop (4 * keptWords words) ++ p.payload }) := by
  have hlength := hp.extLen ext hext
  have hkept : keptWords words ≤ words.toNat := Nat.mod_le _ _
  have hcut : RtpPacket.WellFormed { p with
      ext := some { ext with data := ext.data.take (4 * keptWords words) }
      payload := ext.data.drop (4 * keptWords words) ++ p.payload } (keptWords words) := by
    refine ⟨hp.fits, hp.version, hp.padding, hp.cc, ?_, fun e he => ?_⟩
    · rw [hp.ext, hext]
      rfl
    · cases he
      rw [List.length_take, hlength]
      omega
  have hbytes : p.bytes words = RtpPacket.bytes { p with
      ext := some { ext with data := ext.data.take (4 * keptWords words) }
      payload := ext.data.drop (4 * keptWords words) ++ p.payload } words := by
    simp only [RtpPacket.bytes, hext, extBytes, List.append_assoc]
    rw [← List.append_assoc (ext.data.take _), List.take_append_drop]
  rw [hbytes, packetHandler_bytes hcut]
  rfl

-- `2 ^ 14` words are announced and none is there; the contributing source 5 becomes `5 * 2 ^ 24`.
example : packetHandler (headerBytes ⟨2, 0, 1, 1, 0, 96, 7, 8, 9⟩ ++
    [0, 0, 0, 5, 0xBE, 0xDE, 0x40, 0]) =
      .ok (.modified ⟨⟨2, 0, 1, 1, 0, 96, 7, 8, 9⟩, [0x05000000], some ⟨0xBEDE, []⟩, 0, []⟩) := by
  decide

theorem wellFormed_of_packetHandler {packet : List UInt8} {f : Frame}
    (hok : packetHandler packet = .ok (.modified f)) : ∃ (p : RtpPacket) (words : UInt16),
      p.WellFormed (keptWords words) ∧ packet = p.bytes words ∧ p.frame = f := by
  by_cases hsize : packet.length < 12
  · rw [packetHandler_of_short hsize] at hok
    cases hok
  obtain ⟨h, ptr, hf, rfl⟩ := exists_headerBytes (not_lt.mp hsize)
  rw [packetHandler_headerBytes hf] at hok
  by_cases hversion : h.version = 2
  swap
  · rw [if_pos hversion] at hok
    cases hok
  rw [if_neg (not_not.mpr hversion)] at hok
  by_cases hshort : ptr.length < h.cc.toNat * 4
  · rw [packetBody_of_short hshort] at hok
    cases hok
  obtain ⟨csrcs, ptr, hcc, rfl⟩ := exists_words exists_bytes32 (not_lt.mp hshort)
  rw [packetBody_csrc hcc.symm] at hok
  match hext : optionalExt h ptr with
  | .error fault => rw [hext] at hok; cases hok
  | .ok (ext, payload) =>
    rw [hext] at hok
    dsimp only at hok
    by_cases hpadding : h.padding = 0
    · rw [if_neg (not_not.mpr hpadding)] at hok
      cases hok
      obtain ⟨hbit, words, hlen, rfl⟩ := optionalExt_eq_ok hf hext
      exact ⟨⟨h, csrcs, ext, payload⟩, words,
        ⟨hf, hversion, hpadding, hcc.symm, hbit, hlen⟩, rfl, rfl⟩
    · rw [if_pos hpadding] at hok
      cases hok

/-- The handler accepts the packets that are laid out as one without padding, of whose extension
only as many words need be there as it keeps. -/
theorem packetHandler_modified_iff (packet : List UInt8) (f : Frame) :
    packetHandler packet = .ok (.modified f) ↔ ∃ (p : RtpPacket) (words : UInt16),
      p.WellFormed (keptWords words) ∧ packet = p.bytes words ∧ p.frame = f := by
  refine ⟨wellFormed_of_packetHandler, ?_⟩
  rintro ⟨p, words, hp, rfl, rfl⟩
  exact packetHandler_bytes hp

end accepts

theorem packetHandler_headerBytes_faults {h : Header} (hf : h.Fits) (ptr : List UInt8) :
    (∃ fault, packetHandler (headerBytes h ++ ptr) = .error fault) ↔
      h.version = 2 ∧ h.cc.toNat * 4 ≤ ptr.length ∧
        (h.padding = 1 ∨ h.ext = 1 ∧ ExtOutside (ptr.drop (h.cc.toNat * 4))) := by
  rw [packetHandler_headerBytes hf]
  by_cases hversion : h.version = 2
  swap
  · rw [if_pos hversion]
    exact iff_of_false (by rintro ⟨_, h⟩; cases h) fun h => hversion h.1
  rw [if_neg (not_not.mpr hversion)]
  by_cases hshort : ptr.length < h.cc.toNat * 4
  · rw [packetBody_of_short hshort]
    exact iff_of_false (by rintro ⟨_, h⟩; cases h) fun h => absurd h.2.1 (not_le.mpr hshort)
  obtain ⟨csrcs, ptr, hcc, rfl⟩ := exists_words exists_bytes32 (not_lt.mp hshort)
  have hdrop : (csrcs.flatMap bytes32 ++ ptr).drop (h.cc.toNat * 4) = ptr := by
    rw [← hcc, ← length_flatMap_bytes32, List.drop_left]
  rw [packetBody_csrc hcc.symm, hdrop, ← optionalExt_eq_error_iff hf]
  match hext : optionalExt h ptr with
  | .error fault =>
    exact iff_of_true ⟨fault, rfl⟩ ⟨hversion, not_lt.mp hshort, .inr ⟨fault, rfl⟩⟩
  | .ok (ext, payload) =>
    dsimp only
    rcases hf.padding_eq with hzero | hone
    · rw [if_neg (not_not.mpr hzero), hzero]
      refine iff_of_false (by rintro ⟨_, h⟩; cases h) ?_
      rintro ⟨-, -, h | ⟨_, h⟩⟩
      · cases h
      · cases h
    · rw [if_pos (by rw [hone]; decide)]
      exact iff_of_true ⟨_, rfl⟩ ⟨hversion, not_lt.mp hshort, .inl hone⟩

/-- The handler leaves the datagram, or follows a null pointer, on exactly the packets with the
padding bit or with an extension of which the words it keeps are not all there. -/
theorem packetHandler_faults_iff (packet : List UInt8) :
    (∃ fault, packetHandler packet = .error fault) ↔ ∃ (h : Header) (ptr : List UInt8), h.Fits ∧
      packet = headerBytes h ++ ptr ∧ h.version = 2 ∧ h.cc.toNat * 4 ≤ ptr.length ∧
        (h.padding = 1 ∨ h.ext = 1 ∧ ExtOutside (ptr.drop (h.cc.toNat * 4))) := by
  constructor
  · intro hfault
    by_cases hsize : packet.length < 12
    · obtain ⟨fault, hfault⟩ := hfault
      rw [packetHandler_of_short hsize] at hfault
      cases hfault
    · obtain ⟨h, ptr, hf, rfl⟩ := exists_headerBytes (not_lt.mp hsize)
      exact ⟨h, ptr, hf, rfl, (packetHandler_headerBytes_faults hf ptr).mp hfault⟩
  · rintro ⟨h, ptr, hf, rfl, hparts⟩
    exact (packetHandler_headerBytes_faults hf ptr).mpr hparts

example : packetHandler (headerBytes ⟨2, 1, 0, 0, 0, 96, 7, 8, 9⟩ ++ [1, 2, 2]) =
    .error .nullPointer := by decide

end ConnectUdp.Uvgrtp
