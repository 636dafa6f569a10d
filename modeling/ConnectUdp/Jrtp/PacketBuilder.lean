import Mathlib.Data.List.Chain

/-!
# Sending a packet with JRTPLIB

The path of `RTPSession::SendPacket` through `RTPPacketBuilder` and `RTPPacket` of the vendored
library, for packets without a header extension.
-/

namespace ConnectUdp.Jrtp

def RTP_MAXCSRCS : Nat := 15

def RTP_DEFAULTPACKETSIZE : Nat := 1400

-- `sizeof(RTPHeader)`.
def headerSize : Nat := 12

def ERR_RTP_PACKBUILD_NOTINIT : Int := -20

def ERR_RTP_PACKET_BADPAYLOADTYPE : Int := -21

def ERR_RTP_PACKET_DATAEXCEEDSMAXSIZE : Int := -22

def ERR_RTP_PACKET_TOOMANYCSRCS : Int := -26

def ERR_RTP_SESSION_NOTCREATED : Int := -62

structure RTPPacket where
  payloadtype : UInt8
  hasmarker : Bool
  sequencenumber : UInt16
  timestamp : UInt32
  ssrc : UInt32
  csrcs : List UInt32
  payload : List UInt8
  packetlength : Nat
  deriving DecidableEq, Repr

namespace RTPPacket

def buildPacket (payloadtype : UInt8) (payloaddata : List UInt8) (seqnr : UInt16)
    (timestamp ssrc : UInt32) (gotmarker : Bool) (csrcs : List UInt32) (maxsize : Nat) :
    Except Int RTPPacket :=
  let packetlength := headerSize + 4 * csrcs.length + payloaddata.length
  if RTP_MAXCSRCS < csrcs.length then .error ERR_RTP_PACKET_TOOMANYCSRCS
  else if 127 < payloadtype then .error ERR_RTP_PACKET_BADPAYLOADTYPE
  else if payloadtype = 72 ∨ payloadtype = 73 then .error ERR_RTP_PACKET_BADPAYLOADTYPE
  else if 0 < maxsize ∧ maxsize < packetlength then .error ERR_RTP_PACKET_DATAEXCEEDSMAXSIZE
  else .ok ⟨payloadtype, gotmarker, seqnr, timestamp, ssrc, csrcs, payloaddata, packetlength⟩

end RTPPacket

structure RTPPacketBuilder where
  init : Bool
  maxpacksize : Nat
  packetlength : Nat
  numpayloadbytes : UInt32
  numpackets : UInt32
  ssrc : UInt32
  timestamp : UInt32
  seqnr : UInt16
  csrcs : List UInt32
  deriving DecidableEq, Repr

namespace RTPPacketBuilder

-- The builder once it has built a packet.
def advance (b : RTPPacketBuilder) (p : RTPPacket) (timestampinc : UInt32) : RTPPacketBuilder :=
  { b with
    packetlength := p.packetlength
    numpayloadbytes := b.numpayloadbytes + UInt32.ofNat p.payload.length
    numpackets := b.numpackets + 1
    timestamp := b.timestamp + timestampinc
    seqnr := b.seqnr + 1 }

-- A packet that is refused leaves the builder as it was.
def privateBuildPacket (b : RTPPacketBuilder) (data : List UInt8) (pt : UInt8) (mark : Bool)
    (timestampinc : UInt32) : Except Int (RTPPacket × RTPPacketBuilder) := do
  let p ← RTPPacket.buildPacket pt data b.seqnr b.timestamp b.ssrc mark b.csrcs b.maxpacksize
  return (p, b.advance p timestampinc)

def buildPacket (b : RTPPacketBuilder) (data : List UInt8) (pt : UInt8) (mark : Bool)
    (timestampinc : UInt32) : Except Int (RTPPacket × RTPPacketBuilder) :=
  if b.init then b.privateBuildPacket data pt mark timestampinc
  else .error ERR_RTP_PACKBUILD_NOTINIT

end RTPPacketBuilder

/-- `transmitted` is what the session has handed to the network, which never fails here. -/
structure RTPSession where
  created : Bool
  packetbuilder : RTPPacketBuilder
  transmitted : List RTPPacket
  deriving DecidableEq, Repr

namespace RTPSession

def sendPacket (s : RTPSession) (data : List UInt8) (pt : UInt8) (mark : Bool)
    (timestampinc : UInt32) : Int × RTPSession :=
  if s.created then
    match s.packetbuilder.buildPacket data pt mark timestampinc with
    | .error status => (status, s)
    | .ok (p, b) => (0, { s with packetbuilder := b, transmitted := s.transmitted ++ [p] })
  else (ERR_RTP_SESSION_NOTCREATED, s)

/-- A session that `Create` has set up with default parameters; ssrc, timestamp and sequence
number start at random. -/
structure Ready (s : RTPSession) : Prop where
  created : s.created = true
  init : s.packetbuilder.init = true
  maxpacksize : s.packetbuilder.maxpacksize = RTP_DEFAULTPACKETSIZE
  csrcs : s.packetbuilder.csrcs = []

-- The payloads that go into one packet.
def Fits (data : List UInt8) : Prop :=
  headerSize + data.length ≤ RTP_DEFAULTPACKETSIZE

instance Fits.decidable : DecidablePred Fits :=
  fun _ => inferInstanceAs (Decidable (_ ≤ _))

/-- The payload types that `BuildPacket` takes. -/
def Payloadtype (pt : UInt8) : Prop :=
  ¬ 127 < pt ∧ ¬ (pt = 72 ∨ pt = 73)

instance Payloadtype.decidable : DecidablePred Payloadtype :=
  fun _ => inferInstanceAs (Decidable (_ ∧ _))

section sendPacket

variable {s : RTPSession} {data : List UInt8} {pt : UInt8} {mark : Bool} {timestampinc : UInt32}

-- The packet that carries `data` next.
def packet (s : RTPSession) (data : List UInt8) (pt : UInt8) (mark : Bool) : RTPPacket :=
  ⟨pt, mark, s.packetbuilder.seqnr, s.packetbuilder.timestamp, s.packetbuilder.ssrc, [], data,
    headerSize + data.length⟩

theorem buildPacket_of_fits (hpt : Payloadtype pt) (hfits : Fits data) (seqnr : UInt16)
    (timestamp ssrc : UInt32) (mark : Bool) :
    RTPPacket.buildPacket pt data seqnr timestamp ssrc mark [] RTP_DEFAULTPACKETSIZE =
      .ok ⟨pt, mark, seqnr, timestamp, ssrc, [], data, headerSize + data.length⟩ := by
  unfold RTPPacket.buildPacket
  rw [if_neg (by decide), if_neg hpt.1, if_neg hpt.2]
  exact if_neg fun hsize => Nat.not_lt_of_le hfits hsize.2

theorem buildPacket_of_not_fits (hpt : Payloadtype pt) (hfits : ¬ Fits data) (seqnr : UInt16)
    (timestamp ssrc : UInt32) (mark : Bool) :
    RTPPacket.buildPacket pt data seqnr timestamp ssrc mark [] RTP_DEFAULTPACKETSIZE =
      .error ERR_RTP_PACKET_DATAEXCEEDSMAXSIZE := by
  unfold RTPPacket.buildPacket
  rw [if_neg (by decide), if_neg hpt.1, if_neg hpt.2]
  exact if_pos ⟨by decide, Nat.lt_of_not_le hfits⟩

theorem sendPacket_of_fits (h : s.Ready) (hpt : Payloadtype pt) (hfits : Fits data) :
    s.sendPacket data pt mark timestampinc = (0, { s with
      packetbuilder := s.packetbuilder.advance (s.packet data pt mark) timestampinc
      transmitted := s.transmitted ++ [s.packet data pt mark] }) := by
  rw [sendPacket, if_pos h.created, RTPPacketBuilder.buildPacket, if_pos h.init,
    RTPPacketBuilder.privateBuildPacket, h.maxpacksize, h.csrcs, buildPacket_of_fits hpt hfits]
  rfl

-- The packet is not sent, and the sequence number stays.
theorem sendPacket_of_not_fits (h : s.Ready) (hpt : Payloadtype pt) (hfits : ¬ Fits data) :
    s.sendPacket data pt mark timestampinc = (ERR_RTP_PACKET_DATAEXCEEDSMAXSIZE, s) := by
  rw [sendPacket, if_pos h.created, RTPPacketBuilder.buildPacket, if_pos h.init,
    RTPPacketBuilder.privateBuildPacket, h.maxpacksize, h.csrcs, buildPacket_of_not_fits hpt hfits]
  rfl

theorem Ready.sendPacket (h : s.Ready) (hpt : Payloadtype pt) :
    (s.sendPacket data pt mark timestampinc).2.Ready := by
  by_cases hfits : Fits data
  · rw [sendPacket_of_fits h hpt hfits]
    exact ⟨h.created, h.init, h.maxpacksize, h.csrcs⟩
  · rw [sendPacket_of_not_fits h hpt hfits]
    exact h

end sendPacket

/-! ## A run of calls -/

/-- The sequence numbers count up modulo `2 ^ 16`, on to the one of the next packet. -/
structure Numbered (s : RTPSession) : Prop where
  chain : s.transmitted.IsChain fun p q => q.sequencenumber = p.sequencenumber + 1
  next : ∀ p ∈ s.transmitted.getLast?, s.packetbuilder.seqnr = p.sequencenumber + 1

def payloads (s : RTPSession) : List (List UInt8) :=
  s.transmitted.map RTPPacket.payload

section run

variable {s : RTPSession} {pt : UInt8} (mark : Bool) (timestampinc : UInt32)

def sendAll (s : RTPSession) (pt : UInt8) (mark : Bool) (timestampinc : UInt32)
    (datas : List (List UInt8)) : RTPSession :=
  datas.foldl (fun s data => (s.sendPacket data pt mark timestampinc).2) s

theorem Numbered.sendPacket (h : s.Numbered) (hready : s.Ready) (hpt : Payloadtype pt)
    (data : List UInt8) : (s.sendPacket data pt mark timestampinc).2.Numbered := by
  by_cases hfits : Fits data
  · rw [sendPacket_of_fits hready hpt hfits]
    constructor
    · refine List.isChain_append.mpr ⟨h.chain, List.isChain_singleton _, ?_⟩
      intro p hp q hq
      cases hq
      exact h.next p hp
    · intro p hp
      rw [List.getLast?_concat, Option.mem_some] at hp
      exact hp ▸ rfl
  · rw [sendPacket_of_not_fits hready hpt hfits]
    exact h

theorem Numbered.sendAll (h : s.Numbered) (hready : s.Ready) (hpt : Payloadtype pt)
    (datas : List (List UInt8)) : (s.sendAll pt mark timestampinc datas).Numbered := by
  induction datas generalizing s with
  | nil => exact h
  | cons data datas ih =>
    exact ih (h.sendPacket mark timestampinc hready hpt data) (hready.sendPacket hpt)

/-- What does not fit is left out, everything else is sent in order. -/
theorem payloads_sendAll (hready : s.Ready) (hpt : Payloadtype pt) (datas : List (List UInt8)) :
    (s.sendAll pt mark timestampinc datas).payloads = s.payloads ++ datas.filter Fits := by
  induction datas generalizing s with
  | nil => exact (List.append_nil _).symm
  | cons data datas ih =>
    refine (ih (hready.sendPacket hpt)).trans ?_
    by_cases hfits : Fits data
    · rw [sendPacket_of_fits hready hpt hfits]
      simp only [payloads, List.map_append, List.map_cons, List.map_nil, List.append_assoc,
        List.singleton_append, List.filter_cons, hfits, decide_true, if_true, packet]
    · rw [sendPacket_of_not_fits hready hpt hfits]
      simp only [List.filter_cons, hfits, decide_false, Bool.false_eq_true, if_false]

end run

end RTPSession

end ConnectUdp.Jrtp
