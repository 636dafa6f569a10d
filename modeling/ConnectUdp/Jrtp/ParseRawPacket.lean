import ConnectUdp.Jrtp.PacketBuilder
import ConnectUdp.RtpHeader
import Mathlib.Data.List.TakeDrop

/-!
# Packets of JRTPLIB as bytes

`RTPPacket::BuildPacket` writes a packet, `RTPPacket::ParseRawPacket` reads a datagram.  What is
read is compared with the layout of a packet.
-/

namespace ConnectUdp.Jrtp

open NetworkOrder RtpHeader

def RTP_VERSION : UInt8 := 2

def RTP_RTCPTYPE_SR : UInt8 := 200

def RTP_RTCPTYPE_RR : UInt8 := 201

def ERR_RTP_PACKET_INVALIDPACKET : Int := -25

-- `sizeof(RTPExtensionHeader)`.
def extensionHeaderSize : Nat := 4

-- `extensionlength` is the length of `extension`.
structure Extension where
  extid : UInt16
  numwords : UInt16
  extension : List UInt8
  length_eq : extension.length = 4 * numwords.toNat
  deriving DecidableEq, Repr

/-- The fields of an `RTPPacket`.  `numcsrcs` and `payloadlength` are the lengths of the lists. -/
structure Packet where
  hasmarker : Bool
  payloadtype : UInt8
  extseqnr : UInt32
  timestamp : UInt32
  ssrc : UInt32
  csrcs : List UInt32
  extension : Option Extension
  payload : List UInt8
  packetlength : Nat
  deriving DecidableEq, Repr

/-! ## `BuildPacket` -/

def extensionLength : Option Extension → Nat
  | none => 0
  | some e => extensionHeaderSize + 4 * e.numwords.toNat

def extensionBytes : Option Extension → List UInt8
  | none => []
  | some e => bytes16 e.extid ++ bytes16 e.numwords ++ e.extension

/-- The fields of the packet and the bytes that are written. -/
def buildPacket (payloadtype : UInt8) (payloaddata : List UInt8) (seqnr : UInt16)
    (timestamp ssrc : UInt32) (gotmarker : Bool) (csrcs : List UInt32)
    (extension : Option Extension) (maxsize : Nat) : Except Int (Packet × List UInt8) :=
  let packetlength := headerSize + 4 * csrcs.length + extensionLength extension + payloaddata.length
  let rtphdr : Header :=
    { version := RTP_VERSION, padding := 0, ext := if extension.isSome then 1 else 0,
      cc := .ofNat csrcs.length, marker := if gotmarker then 1 else 0,
      payload := payloadtype &&& 127, seq := seqnr, timestamp, ssrc }
  if RTP_MAXCSRCS < csrcs.length then .error ERR_RTP_PACKET_TOOMANYCSRCS
  else if 127 < payloadtype then .error ERR_RTP_PACKET_BADPAYLOADTYPE
  else if payloadtype = 72 ∨ payloadtype = 73 then .error ERR_RTP_PACKET_BADPAYLOADTYPE
  else if 0 < maxsize ∧ maxsize < packetlength then .error ERR_RTP_PACKET_DATAEXCEEDSMAXSIZE
  else
    .ok (⟨gotmarker, payloadtype, seqnr.toUInt32, timestamp, ssrc, csrcs, extension, payloaddata,
        packetlength⟩,
      headerBytes rtphdr ++ csrcs.flatMap bytes32 ++ extensionBytes extension ++ payloaddata)

/-! ## `ParseRawPacket` -/

inductive Parsed
  | error (status : Int)
  -- The header of the extension is read behind the end of the datagram.
  | readOutside
  | ok (packet : Packet)
  deriving DecidableEq, Repr

-- The last byte of the packet says how many bytes of padding there are.
def numpadbytes (rtpheader : Header) (data : List UInt8) : Nat :=
  if rtpheader.padding = 0 then 0 else (data.getLastD 0).toNat

-- The payload is what is left between `payloadoffset` and the padding.
def parsedPacket (rtpheader : Header) (data : List UInt8) (extension : Option Extension)
    (payloadoffset : Nat) : Packet where
  hasmarker := rtpheader.marker ≠ 0
  payloadtype := rtpheader.payload
  extseqnr := rtpheader.seq.toUInt32
  timestamp := rtpheader.timestamp
  ssrc := rtpheader.ssrc
  csrcs := words32 rtpheader.cc.toNat (data.drop headerSize)
  extension := extension
  payload := (data.drop payloadoffset).take
    (data.length - numpadbytes rtpheader data - payloadoffset)
  packetlength := data.length

-- `payloadlength` is negative when `rest` has no room for the extension and the padding.
def parseExtension (rtpheader : Header) (data : List UInt8) (payloadoffset : Nat) : Parsed :=
  match data.drop payloadoffset with
  | i₁ :: i₀ :: l₁ :: l₀ :: rest =>
    let exthdrlen := word16 l₁ l₀
    if h : rest.length < 4 * exthdrlen.toNat + numpadbytes rtpheader data then
      .error ERR_RTP_PACKET_INVALIDPACKET
    else
      .ok (parsedPacket rtpheader data
        (some ⟨word16 i₁ i₀, exthdrlen, rest.take (4 * exthdrlen.toNat),
          List.length_take_of_le (by omega)⟩)
        (payloadoffset + extensionHeaderSize + 4 * exthdrlen.toNat))
  | _ => .readOutside

def parseBody (rtpheader : Header) (data : List UInt8) : Parsed :=
  let payloadoffset := headerSize + 4 * rtpheader.cc.toNat
  if rtpheader.padding ≠ 0 ∧ numpadbytes rtpheader data = 0 then
    .error ERR_RTP_PACKET_INVALIDPACKET
  else if rtpheader.ext = 0 then
    if data.length < numpadbytes rtpheader data + payloadoffset then
      .error ERR_RTP_PACKET_INVALIDPACKET
    else .ok (parsedPacket rtpheader data none payloadoffset)
  else parseExtension rtpheader data payloadoffset

def parseRawPacket (isRTP : Bool) (data : List UInt8) : Parsed :=
  if isRTP then
    match readHeader data with
    | none => .error ERR_RTP_PACKET_INVALIDPACKET
    | some (rtpheader, _) =>
      if rtpheader.version ≠ RTP_VERSION then .error ERR_RTP_PACKET_INVALIDPACKET
      else if rtpheader.marker ≠ 0 ∧ (rtpheader.payload = RTP_RTCPTYPE_SR &&& 127 ∨
          rtpheader.payload = RTP_RTCPTYPE_RR &&& 127) then .error ERR_RTP_PACKET_INVALIDPACKET
      else parseBody rtpheader data
  else .error ERR_RTP_PACKET_INVALIDPACKET

/-! ## The layout of a packet -/

namespace Packet

def header (p : Packet) (padding : List UInt8) : Header where
  version := RTP_VERSION
  padding := if padding = [] then 0 else 1
  ext := if p.extension.isSome then 1 else 0
  cc := .ofNat p.csrcs.length
  marker := if p.hasmarker then 1 else 0
  payload := p.payloadtype
  seq := p.extseqnr.toUInt16
  timestamp := p.timestamp
  ssrc := p.ssrc

def bytes (p : Packet) (padding : List UInt8) : List UInt8 :=
  headerBytes (p.header padding) ++
    (p.csrcs.flatMap bytes32 ++ (extensionBytes p.extension ++ (p.payload ++ padding)))

/-- What the fields of a packet that has been read satisfy. -/
structure WellFormed (p : Packet) (padding : List UInt8) : Prop where
  csrcs : p.csrcs.length ≤ RTP_MAXCSRCS
  payloadtype : p.payloadtype.toNat < 128
  notRtcp : ¬ (p.hasmarker = true ∧ (p.payloadtype = 72 ∨ p.payloadtype = 73))
  extseqnr : p.extseqnr.toNat < 2 ^ 16
  packetlength : p.packetlength = (p.bytes padding).length
  numpadbytes : ∀ b ∈ padding.getLast?, b.toNat = padding.length

end Packet

theorem length_extensionBytes (extension : Option Extension) :
    (extensionBytes extension).length = extensionLength extension := by
  cases extension with
  | none => rfl
  | some e =>
    show (bytes16 e.extid ++ bytes16 e.numwords ++ e.extension).length = 4 + 4 * e.numwords.toNat
    rw [List.length_append, List.length_append, e.length_eq]
    rfl

theorem length_bytes (p : Packet) (padding : List UInt8) : (p.bytes padding).length =
    headerSize + 4 * p.csrcs.length + extensionLength p.extension + p.payload.length +
      padding.length := by
  simp only [Packet.bytes, List.length_append, length_headerBytes, length_extensionBytes,
    length_flatMap_words length_bytes32, headerSize]
  omega

theorem drop_headerBytes (h : Header) (rest : List UInt8) (k : Nat) :
    (headerBytes h ++ rest).drop (headerSize + k) = rest.drop k := by
  show (headerBytes h ++ rest).drop ((headerBytes h).length + k) = rest.drop k
  rw [← List.drop_drop, List.drop_left]

theorem numpadbytes_append (h : Header) (front : List UInt8) {padding : List UInt8}
    (hne : padding ≠ []) (hpadding : h.padding ≠ 0) :
    ∀ b ∈ padding.getLast?, numpadbytes h (front ++ padding) = b.toNat := by
  intro b hb
  have hlast : (front ++ padding).getLast? = some b := by
    rw [List.getLast?_append_of_ne_nil _ hne]
    exact hb
  rw [numpadbytes, if_neg hpadding, List.getLastD_eq_getLast?, hlast]
  rfl

/-! ## Reading a layout -/

section layout

variable {h : Header} {csrcs : List UInt32} {extension : Option Extension}
  {payload padding data : List UInt8}

-- The pieces of a datagram under the header `h`.
structure Layout (h : Header) (csrcs : List UInt32) (extension : Option Extension)
    (payload padding data : List UInt8) : Prop where
  data_eq : data = headerBytes h ++
    (csrcs.flatMap bytes32 ++ (extensionBytes extension ++ (payload ++ padding)))
  cc_eq : h.cc.toNat = csrcs.length
  ext_eq : h.ext = if extension.isSome then 1 else 0
  padding_eq : h.padding = if padding = [] then 0 else 1
  numpadbytes_eq : numpadbytes h data = padding.length

-- The fields that are read from these pieces.
def packetOf (h : Header) (csrcs : List UInt32) (extension : Option Extension)
    (payload data : List UInt8) : Packet :=
  ⟨h.marker ≠ 0, h.payload, h.seq.toUInt32, h.timestamp, h.ssrc, csrcs, extension, payload,
    data.length⟩

theorem Layout.drop_header (l : Layout h csrcs extension payload padding data) :
    data.drop headerSize =
      csrcs.flatMap bytes32 ++ (extensionBytes extension ++ (payload ++ padding)) := by
  have hdrop := drop_headerBytes h
    (csrcs.flatMap bytes32 ++ (extensionBytes extension ++ (payload ++ padding))) 0
  rwa [← l.data_eq, Nat.add_zero, List.drop_zero] at hdrop

theorem Layout.drop_csrcs (l : Layout h csrcs extension payload padding data) :
    data.drop (headerSize + 4 * csrcs.length) =
      extensionBytes extension ++ (payload ++ padding) := by
  rw [← List.drop_drop, l.drop_header, Nat.mul_comm, ← length_flatMap_words length_bytes32,
    List.drop_left]

theorem Layout.length_eq (l : Layout h csrcs extension payload padding data) : data.length =
    headerSize + 4 * csrcs.length + extensionLength extension + payload.length +
      padding.length := by
  simp only [l.data_eq, List.length_append, length_headerBytes, length_extensionBytes,
    length_flatMap_words length_bytes32, headerSize]
  omega

theorem Layout.parsedPacket (l : Layout h csrcs extension payload padding data) :
    parsedPacket h data extension (headerSize + 4 * csrcs.length + extensionLength extension) =
      packetOf h csrcs extension payload data := by
  have hcsrcs : words32 h.cc.toNat (data.drop headerSize) = csrcs := by
    rw [l.cc_eq, l.drop_header, words32_flatMap]
  have hdrop : data.drop (headerSize + 4 * csrcs.length + extensionLength extension) =
      payload ++ padding := by
    rw [← List.drop_drop, l.drop_csrcs, ← length_extensionBytes, List.drop_left]
  have hlength : data.length - numpadbytes h data -
      (headerSize + 4 * csrcs.length + extensionLength extension) = payload.length := by
    rw [l.numpadbytes_eq, l.length_eq]
    omega
  rw [Jrtp.parsedPacket, hcsrcs, hdrop, hlength, List.take_left, packetOf]

theorem Layout.numpadbytes_pos (l : Layout h csrcs extension payload padding data) :
    ¬ (h.padding ≠ 0 ∧ Jrtp.numpadbytes h data = 0) := by
  rw [l.numpadbytes_eq, l.padding_eq]
  by_cases hne : padding = []
  · rw [if_pos hne]
    exact fun hand => hand.1 rfl
  · rw [List.length_eq_zero_iff]
    exact fun hand => hne hand.2

theorem Layout.parseBody (l : Layout h csrcs extension payload padding data) :
    parseBody h data = .ok (packetOf h csrcs extension payload data) := by
  unfold Jrtp.parseBody
  simp only [l.cc_eq, if_neg l.numpadbytes_pos]
  rw [← l.parsedPacket]
  cases extension with
  | none =>
    have hfits : ¬ data.length < Jrtp.numpadbytes h data + (headerSize + 4 * csrcs.length) := by
      have hlength := l.length_eq
      rw [l.numpadbytes_eq]
      omega
    have hext : h.ext = 0 := l.ext_eq
    rw [if_pos hext, if_neg hfits]
    rfl
  | some e =>
    have hext : h.ext ≠ 0 := by
      rw [l.ext_eq, Option.isSome_some, if_pos rfl]
      decide
    have hdrop : data.drop (headerSize + 4 * csrcs.length) =
        .ofNat (e.extid.toNat / 2 ^ 8) :: .ofNat e.extid.toNat ::
          .ofNat (e.numwords.toNat / 2 ^ 8) :: .ofNat e.numwords.toNat ::
            (e.extension ++ (payload ++ padding)) := l.drop_csrcs
    have hfits : ¬ (e.extension ++ (payload ++ padding)).length <
        4 * e.numwords.toNat + Jrtp.numpadbytes h data := by
      simp only [l.numpadbytes_eq, List.length_append, e.length_eq]
      omega
    rw [if_neg hext, parseExtension, hdrop]
    simp only [word16_bytes]
    rw [dif_neg hfits]
    simp only [← e.length_eq, List.take_left]
    have hoffset : headerSize + 4 * csrcs.length + extensionHeaderSize + e.extension.length =
        headerSize + 4 * csrcs.length + extensionLength (some e) := by
      rw [extensionLength, e.length_eq, Nat.add_assoc]
    rw [hoffset]

theorem parseExtension_eq_ok {payloadoffset : Nat} {p : Packet}
    (hok : parseExtension h data payloadoffset = .ok p) :
    ∃ (e : Extension) (payload padding : List UInt8), padding.length = numpadbytes h data ∧
      data.drop payloadoffset = extensionBytes (some e) ++ (payload ++ padding) := by
  unfold parseExtension at hok
  split at hok
  next i₁ i₀ l₁ l₀ rest hdrop =>
    dsimp only at hok
    split at hok
    next => cases hok
    next hfits =>
      have hlong : 4 * (word16 l₁ l₀).toNat ≤ rest.length := by omega
      refine ⟨⟨word16 i₁ i₀, word16 l₁ l₀, rest.take _, List.length_take_of_le hlong⟩,
        (rest.drop (4 * (word16 l₁ l₀).toNat)).take
          (rest.length - 4 * (word16 l₁ l₀).toNat - numpadbytes h data),
        (rest.drop (4 * (word16 l₁ l₀).toNat)).drop
          (rest.length - 4 * (word16 l₁ l₀).toNat - numpadbytes h data), ?_, ?_⟩
      · rw [List.length_drop, List.length_drop]
        omega
      · rw [hdrop, List.take_append_drop]
        simp only [extensionBytes, bytes16_word16, List.append_assoc, List.take_append_drop]
        rfl
  next => cases hok

/-- Whatever is accepted has the layout of a packet. -/
theorem layout_of_parseBody {rest : List UInt8} {p : Packet} (hf : h.Fits)
    (hdata : data = headerBytes h ++ rest) (hok : parseBody h data = .ok p) :
    ∃ (csrcs : List UInt32) (extension : Option Extension) (payload padding : List UInt8),
      Layout h csrcs extension payload padding data := by
  have hlength : data.length = headerSize + rest.length := by
    rw [hdata, List.length_append, length_headerBytes, headerSize]
  have hdrop : data.drop (headerSize + 4 * h.cc.toNat) = rest.drop (4 * h.cc.toNat) := by
    rw [hdata, drop_headerBytes]
  unfold parseBody at hok
  dsimp only at hok
  split at hok
  next => cases hok
  next hpad =>
    have hpadding : ∀ padding : List UInt8, padding.length = numpadbytes h data →
        h.padding = if padding = [] then 0 else 1 := by
      intro padding hlen
      rcases hf.padding_eq with hzero | hone
      · have hnil : padding = [] := by
          rw [← List.length_eq_zero_iff, hlen, numpadbytes, if_pos hzero]
        rw [hzero, if_pos hnil]
      · have hne : padding ≠ [] := by
          intro hnil
          rw [hnil, List.length_nil] at hlen
          exact hpad ⟨by rw [hone]; decide, hlen.symm⟩
        rw [hone, if_neg hne]
    split at hok
    next hext =>
      split at hok
      next => cases hok
      next hfits =>
        have hroom : h.cc.toNat * 4 ≤ rest.length := by omega
        obtain ⟨csrcs, tail, hcc, hrest⟩ := exists_words exists_bytes32 hroom
        have htail : rest.length = csrcs.length * 4 + tail.length := by
          rw [hrest, List.length_append, length_flatMap_words length_bytes32]
        have hnum : (tail.drop (tail.length - numpadbytes h data)).length =
            numpadbytes h data := by
          rw [List.length_drop]
          omega
        refine ⟨csrcs, none, tail.take (tail.length - numpadbytes h data),
          tail.drop (tail.length - numpadbytes h data), ?_, hcc.symm, hext, hpadding _ hnum,
          hnum.symm⟩
        rw [List.take_append_drop, hdata, hrest]
        rfl
    next hext =>
      obtain ⟨e, payload, padding, hnum, hbody⟩ := parseExtension_eq_ok hok
      rw [hdrop] at hbody
      have hfits : h.cc.toNat * 4 ≤ rest.length := by
        have hlen := congrArg List.length hbody
        simp only [List.length_drop, List.length_append, length_extensionBytes, extensionLength,
          extensionHeaderSize] at hlen
        omega
      obtain ⟨csrcs, tail, hcc, hrest⟩ := exists_words exists_bytes32 hfits
      have htail : rest.drop (4 * h.cc.toNat) = tail := by
        rw [hrest, ← hcc, Nat.mul_comm, ← length_flatMap_words length_bytes32, List.drop_left]
      refine ⟨csrcs, some e, payload, padding, ?_, hcc.symm, hf.ext_eq.resolve_left hext,
        hpadding _ hnum, hnum.symm⟩
      rw [hdata, ← hbody, htail, hrest]

end layout

/-! ## What `ParseRawPacket` accepts -/

theorem parseRawPacket_headerBytes {h : Header} (hf : h.Fits) (rest : List UInt8) :
    parseRawPacket true (headerBytes h ++ rest) =
      if h.version ≠ RTP_VERSION then .error ERR_RTP_PACKET_INVALIDPACKET
      else if h.marker ≠ 0 ∧ (h.payload = RTP_RTCPTYPE_SR &&& 127 ∨
          h.payload = RTP_RTCPTYPE_RR &&& 127) then .error ERR_RTP_PACKET_INVALIDPACKET
      else parseBody h (headerBytes h ++ rest) := by
  rw [parseRawPacket, if_pos rfl, readHeader_headerBytes hf]

section accepted

variable {h : Header} {csrcs : List UInt32} {extension : Option Extension}
  {payload padding data : List UInt8} {p : Packet}

theorem toNat_bit (c : Prop) [Decidable c] : (if c then (1 : UInt8) else 0).toNat < 2 := by
  split <;> decide

theorem Packet.WellFormed.toNat_cc (hp : p.WellFormed padding) :
    (UInt8.ofNat p.csrcs.length).toNat = p.csrcs.length := by
  have hle := hp.csrcs
  rw [RTP_MAXCSRCS] at hle
  rw [UInt8.toNat_ofNat']
  omega

theorem Packet.WellFormed.fits (hp : p.WellFormed padding) : (p.header padding).Fits := by
  have hversion : RTP_VERSION.toNat < 4 := by decide
  have hcc : (UInt8.ofNat p.csrcs.length).toNat < 16 := by
    rw [hp.toNat_cc]
    exact Nat.lt_succ_of_le hp.csrcs
  have hpadding : (if padding = [] then (0 : UInt8) else 1).toNat < 2 := by
    split <;> decide
  exact ⟨hversion, hpadding, toNat_bit _, hcc, toNat_bit _, hp.payloadtype⟩

theorem Packet.WellFormed.layout (hp : p.WellFormed padding) :
    Layout (p.header padding) p.csrcs p.extension p.payload padding (p.bytes padding) := by
  refine ⟨rfl, hp.toNat_cc, rfl, rfl, ?_⟩
  cases hlast : padding.getLast? with
  | none =>
    rw [List.getLast?_eq_none_iff.mp hlast]
    rfl
  | some b =>
    have hne : padding ≠ [] := by
      intro hnil
      rw [hnil] at hlast
      cases hlast
    have hone : (p.header padding).padding ≠ 0 := by
      show (if padding = [] then (0 : UInt8) else 1) ≠ 0
      rw [if_neg hne]
      decide
    rw [← hp.numpadbytes b hlast]
    simp only [Packet.bytes, ← List.append_assoc]
    exact numpadbytes_append _ _ hne hone b hlast

theorem Packet.WellFormed.packetOf_header (hp : p.WellFormed padding) :
    packetOf (p.header padding) p.csrcs p.extension p.payload (p.bytes padding) = p := by
  have hmarker : decide ((p.header padding).marker ≠ 0) = p.hasmarker := by
    cases hm : p.hasmarker <;> simp [Packet.header, hm]
  have hseq : p.extseqnr.toUInt16.toUInt32 = p.extseqnr := by
    apply UInt32.toNat_inj.mp
    rw [UInt16.toNat_toUInt32, UInt32.toNat_toUInt16]
    exact Nat.mod_eq_of_lt hp.extseqnr
  rw [packetOf, hmarker, ← hp.packetlength]
  show { p with extseqnr := p.extseqnr.toUInt16.toUInt32 } = p
  rw [hseq]

/-- A packet is read back from its layout. -/
theorem parseRawPacket_bytes (hp : p.WellFormed padding) :
    parseRawPacket true (p.bytes padding) = .ok p := by
  have hversion : (p.header padding).version = RTP_VERSION := rfl
  have hrtcp : ¬ ((p.header padding).marker ≠ 0 ∧
      ((p.header padding).payload = RTP_RTCPTYPE_SR &&& 127 ∨
        (p.header padding).payload = RTP_RTCPTYPE_RR &&& 127)) := by
    intro hand
    cases hm : p.hasmarker with
    | false =>
      apply hand.1
      simp [Packet.header, hm]
    | true => exact hp.notRtcp ⟨hm, hand.2⟩
  have hparse := parseRawPacket_headerBytes hp.fits (p.csrcs.flatMap bytes32 ++
    (extensionBytes p.extension ++ (p.payload ++ padding)))
  rw [if_neg (not_not.mpr hversion), if_neg hrtcp] at hparse
  exact hparse.trans (hp.layout.parseBody.trans (congrArg _ hp.packetOf_header))

theorem Layout.header_eq (l : Layout h csrcs extension payload padding data) (hf : h.Fits)
    (hversion : h.version = RTP_VERSION) :
    (packetOf h csrcs extension payload data).header padding = h := by
  have hmarker : (if decide (h.marker ≠ 0) then (1 : UInt8) else 0) = h.marker := by
    rcases hf.marker_eq with hzero | hone
    · rw [hzero]
      rfl
    · rw [hone]
      rfl
  have hcc : UInt8.ofNat csrcs.length = h.cc := by
    rw [← l.cc_eq, UInt8.ofNat_toNat]
  have hseq : h.seq.toUInt32.toUInt16 = h.seq := by
    apply UInt16.toNat_inj.mp
    rw [UInt32.toNat_toUInt16, UInt16.toNat_toUInt32]
    exact Nat.mod_eq_of_lt h.seq.toNat_lt
  show Header.mk RTP_VERSION (if padding = [] then 0 else 1) (if extension.isSome then 1 else 0)
    (.ofNat csrcs.length) (if decide (h.marker ≠ 0) then 1 else 0) h.payload
    h.seq.toUInt32.toUInt16 h.timestamp h.ssrc = h
  rw [hmarker, hcc, hseq, ← l.ext_eq, ← l.padding_eq, ← hversion]

theorem Layout.bytes_eq (l : Layout h csrcs extension payload padding data) (hf : h.Fits)
    (hversion : h.version = RTP_VERSION) :
    (packetOf h csrcs extension payload data).bytes padding = data := by
  rw [Packet.bytes, l.header_eq hf hversion]
  exact l.data_eq.symm

theorem Layout.wellFormed (l : Layout h csrcs extension payload padding data) (hf : h.Fits)
    (hversion : h.version = RTP_VERSION) (hrtcp : ¬ (h.marker ≠ 0 ∧
      (h.payload = RTP_RTCPTYPE_SR &&& 127 ∨ h.payload = RTP_RTCPTYPE_RR &&& 127))) :
    (packetOf h csrcs extension payload data).WellFormed padding where
  csrcs := Nat.le_of_lt_succ (l.cc_eq ▸ hf.cc)
  payloadtype := hf.payload
  notRtcp := fun hand => hrtcp ⟨of_decide_eq_true hand.1, hand.2⟩
  extseqnr := by
    show h.seq.toUInt32.toNat < 2 ^ 16
    rw [UInt16.toNat_toUInt32]
    exact h.seq.toNat_lt
  packetlength := congrArg List.length (l.bytes_eq hf hversion).symm
  numpadbytes := by
    intro b hb
    have hne : padding ≠ [] := by
      intro hnil
      rw [hnil] at hb
      cases hb
    have hone : h.padding ≠ 0 := by
      rw [l.padding_eq, if_neg hne]
      decide
    rw [← l.numpadbytes_eq, l.data_eq]
    simp only [← List.append_assoc]
    exact (numpadbytes_append _ _ hne hone b hb).symm

/-- `ParseRawPacket` accepts the well-formed packets and returns their fields. -/
theorem parseRawPacket_ok_iff (data : List UInt8) (p : Packet) :
    parseRawPacket true data = .ok p ↔
      ∃ padding, p.WellFormed padding ∧ data = p.bytes padding := by
  constructor
  · intro hok
    by_cases hsize : data.length < 12
    · rw [parseRawPacket, if_pos rfl, readHeader_eq_none hsize] at hok
      cases hok
    obtain ⟨h, rest, hf, hdata⟩ := exists_headerBytes (Nat.not_lt.mp hsize)
    rw [hdata, parseRawPacket_headerBytes hf, ← hdata] at hok
    split at hok
    next => cases hok
    next hversion =>
      split at hok
      next => cases hok
      next hrtcp =>
        obtain ⟨csrcs, extension, payload, padding, l⟩ := layout_of_parseBody hf hdata hok
        have hp := l.parseBody.symm.trans hok
        cases hp
        exact ⟨padding, l.wellFormed hf (not_not.mp hversion) hrtcp,
          (l.bytes_eq hf (not_not.mp hversion)).symm⟩
  · rintro ⟨padding, hp, rfl⟩
    exact parseRawPacket_bytes hp

/-- The header of the extension is read behind the end of the datagram exactly when it does not
fit behind the contributing sources; the length is checked only afterwards. -/
theorem parseRawPacket_readOutside_iff (hf : h.Fits) (rest : List UInt8) :
    parseRawPacket true (headerBytes h ++ rest) = .readOutside ↔
      h.version = RTP_VERSION ∧
      ¬ (h.marker ≠ 0 ∧
        (h.payload = RTP_RTCPTYPE_SR &&& 127 ∨ h.payload = RTP_RTCPTYPE_RR &&& 127)) ∧
      ¬ (h.padding ≠ 0 ∧ numpadbytes h (headerBytes h ++ rest) = 0) ∧
      h.ext = 1 ∧ rest.length < 4 * h.cc.toNat + extensionHeaderSize := by
  have hdrop := drop_headerBytes h rest (4 * h.cc.toNat)
  have hlength : (rest.drop (4 * h.cc.toNat)).length = rest.length - 4 * h.cc.toNat :=
    List.length_drop
  rw [parseRawPacket_headerBytes hf]
  by_cases hversion : h.version = RTP_VERSION
  swap
  · rw [if_pos hversion]
    exact iff_of_false (fun heq => by cases heq) fun hand => hversion hand.1
  rw [if_neg (not_not.mpr hversion)]
  split
  next hrtcp => exact iff_of_false (fun heq => by cases heq) fun hand => hand.2.1 hrtcp
  next hrtcp =>
    unfold parseBody
    dsimp only
    split
    next hpad => exact iff_of_false (fun heq => by cases heq) fun hand => hand.2.2.1 hpad
    next hpad =>
      rcases hf.ext_eq with hzero | hone
      · rw [if_pos hzero, hzero]
        refine iff_of_false (fun heq => ?_) fun hand => absurd hand.2.2.2.1 (by decide)
        split at heq <;> cases heq
      · rw [if_neg (by rw [hone]; decide), parseExtension, hdrop]
        split
        next i₁ i₀ l₁ l₀ tail htail =>
          rw [htail] at hlength
          simp only [List.length_cons] at hlength
          refine iff_of_false (fun heq => ?_) fun hand => ?_
          · dsimp only at heq
            split at heq <;> cases heq
          · have hshort := hand.2.2.2.2
            rw [extensionHeaderSize] at hshort
            omega
        next hshort =>
          refine iff_of_true rfl ⟨hversion, hrtcp, hpad, hone, ?_⟩
          rw [extensionHeaderSize]
          match htail : rest.drop (4 * h.cc.toNat) with
          | [] | [_] | [_, _] | [_, _, _] =>
            rw [htail] at hlength
            simp only [List.length_cons, List.length_nil] at hlength
            omega
          | i₁ :: i₀ :: l₁ :: l₀ :: tail => exact absurd htail (hshort i₁ i₀ l₁ l₀ tail)

theorem parseRawPacket_readOutside_iff_one_byte :
    parseRawPacket true (headerBytes ⟨2, 0, 1, 0, 0, 96, 7, 8, 9⟩ ++ [1]) = .readOutside := by
  have hf : Header.Fits ⟨2, 0, 1, 0, 0, 96, 7, 8, 9⟩ := by
    constructor <;> decide
  exact (parseRawPacket_readOutside_iff hf [1]).mpr (by decide)

end accepted

/-! ## Reading what `BuildPacket` writes -/

section built

variable {payloadtype : UInt8} {payloaddata packet : List UInt8} {seqnr : UInt16}
  {timestamp ssrc : UInt32} {gotmarker : Bool} {csrcs : List UInt32}
  {extension : Option Extension} {maxsize : Nat} {p : Packet}

theorem seven_bits {b : UInt8} (hb : ¬ 127 < b) : b &&& 127 = b := by
  have hall : ∀ b : UInt8, ¬ 127 < b → b &&& 127 = b := by
    apply forall_byte
    decide +kernel
  exact hall b hb

theorem toNat_lt_128 {b : UInt8} (hb : ¬ 127 < b) : b.toNat < 128 := by
  rw [UInt8.lt_iff_toNat_lt] at hb
  exact Nat.lt_succ_of_le (Nat.not_lt.mp hb)

theorem wellFormed_of_buildPacket (hok : buildPacket payloadtype payloaddata seqnr timestamp ssrc
    gotmarker csrcs extension maxsize = .ok (p, packet)) :
    p.WellFormed [] ∧ packet = p.bytes [] ∧ (0 < maxsize → packet.length ≤ maxsize) := by
  unfold buildPacket at hok
  dsimp only at hok
  split at hok
  next => cases hok
  next hcsrcs =>
    split at hok
    next => cases hok
    next htype =>
      split at hok
      next => cases hok
      next hrtcp =>
        split at hok
        next => cases hok
        next hsize =>
          cases hok
          have hseq : seqnr.toUInt32.toUInt16 = seqnr := by
            apply UInt16.toNat_inj.mp
            rw [UInt32.toNat_toUInt16, UInt16.toNat_toUInt32]
            exact Nat.mod_eq_of_lt seqnr.toNat_lt
          have hbytes : ∀ len, Packet.bytes ⟨gotmarker, payloadtype, seqnr.toUInt32, timestamp,
              ssrc, csrcs, extension, payloaddata, len⟩ [] =
              headerBytes ⟨RTP_VERSION, 0, if extension.isSome then 1 else 0,
                .ofNat csrcs.length, if gotmarker then 1 else 0, payloadtype &&& 127, seqnr,
                timestamp, ssrc⟩ ++ csrcs.flatMap bytes32 ++ extensionBytes extension ++
                payloaddata := by
            intro len
            simp only [Packet.bytes, Packet.header, hseq, seven_bits htype, List.append_nil,
              List.append_assoc, if_true]
          have hlength := length_bytes ⟨gotmarker, payloadtype, seqnr.toUInt32, timestamp, ssrc,
            csrcs, extension, payloaddata,
            headerSize + 4 * csrcs.length + extensionLength extension + payloaddata.length⟩ []
          refine ⟨⟨Nat.not_lt.mp hcsrcs, toNat_lt_128 htype, fun hand => hrtcp hand.2, ?_,
            hlength.symm, fun b hb => by cases hb⟩, (hbytes _).symm, fun hpos => ?_⟩
          · show seqnr.toUInt32.toNat < 2 ^ 16
            rw [UInt16.toNat_toUInt32]
            exact seqnr.toNat_lt
          · rw [← hbytes, hlength]
            exact Nat.not_lt.mp fun hlt => hsize ⟨hpos, hlt⟩

/-- What `BuildPacket` writes is no larger than allowed, and `ParseRawPacket` finds the same fields
in it. -/
theorem parseRawPacket_buildPacket (hok : buildPacket payloadtype payloaddata seqnr timestamp ssrc
    gotmarker csrcs extension maxsize = .ok (p, packet)) :
    parseRawPacket true packet = .ok p ∧ (0 < maxsize → packet.length ≤ maxsize) := by
  obtain ⟨hp, rfl, hsize⟩ := wellFormed_of_buildPacket hok
  exact ⟨parseRawPacket_bytes hp, hsize⟩

theorem parseRawPacket_buildPacket_extension :
    parseRawPacket true [0x91, 0xe0, 0, 7, 0, 0, 0, 8, 0, 0, 0, 9, 0, 0, 0, 5, 0, 1, 0, 1, 10, 11,
      12, 13, 1, 2] = .ok ⟨true, 96, 7, 8, 9, [5], some ⟨1, 1, [10, 11, 12, 13], rfl⟩, [1, 2], 26⟩ ∧
      (0 < 1400 → 26 ≤ 1400) := by
  have hok : buildPacket 96 [1, 2] 7 8 9 true [5] (some ⟨1, 1, [10, 11, 12, 13], rfl⟩) 1400 =
      .ok (⟨true, 96, 7, 8, 9, [5], some ⟨1, 1, [10, 11, 12, 13], rfl⟩, [1, 2], 26⟩,
        [0x91, 0xe0, 0, 7, 0, 0, 0, 8, 0, 0, 0, 9, 0, 0, 0, 5, 0, 1, 0, 1, 10, 11, 12, 13, 1,
          2]) := by
    decide +kernel
  exact parseRawPacket_buildPacket hok

end built

/-! ## The packets of a session -/

-- A packet that `SendPacket` has transmitted, as it is read on the other side.
def RTPPacket.received (p : RTPPacket) : Packet :=
  ⟨p.hasmarker, p.payloadtype, p.sequencenumber.toUInt32, p.timestamp, p.ssrc, p.csrcs, none,
    p.payload, p.packetlength⟩

/-- `BuildPacket` without an extension makes the packets of `RTPPacketBuilder`. -/
theorem buildPacket_received (payloadtype : UInt8) (payloaddata : List UInt8) (seqnr : UInt16)
    (timestamp ssrc : UInt32) (gotmarker : Bool) (csrcs : List UInt32) (maxsize : Nat) :
    (buildPacket payloadtype payloaddata seqnr timestamp ssrc gotmarker csrcs none maxsize).map
        Prod.fst =
      (RTPPacket.buildPacket payloadtype payloaddata seqnr timestamp ssrc gotmarker csrcs
        maxsize).map RTPPacket.received := by
  unfold buildPacket RTPPacket.buildPacket
  dsimp only
  by_cases hcsrcs : RTP_MAXCSRCS < csrcs.length
  · rw [if_pos hcsrcs, if_pos hcsrcs]
    rfl
  by_cases htype : 127 < payloadtype
  · rw [if_neg hcsrcs, if_neg hcsrcs, if_pos htype, if_pos htype]
    rfl
  by_cases hrtcp : payloadtype = 72 ∨ payloadtype = 73
  · rw [if_neg hcsrcs, if_neg hcsrcs, if_neg htype, if_neg htype, if_pos hrtcp, if_pos hrtcp]
    rfl
  rw [if_neg hcsrcs, if_neg hcsrcs, if_neg htype, if_neg htype, if_neg hrtcp, if_neg hrtcp]
  by_cases hsize : 0 < maxsize ∧ maxsize < headerSize + 4 * csrcs.length + payloaddata.length
  · have hsize' : 0 < maxsize ∧ maxsize <
        headerSize + 4 * csrcs.length + extensionLength none + payloaddata.length := hsize
    rw [if_pos hsize, if_pos hsize']
    rfl
  · have hsize' : ¬ (0 < maxsize ∧ maxsize <
        headerSize + 4 * csrcs.length + extensionLength none + payloaddata.length) := hsize
    rw [if_neg hsize, if_neg hsize']
    rfl

end ConnectUdp.Jrtp
