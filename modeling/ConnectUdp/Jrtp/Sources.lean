import ConnectUdp.InsertionTable
import ConnectUdp.Jrtp.SourceData
import ConnectUdp.Transition

/-!
# The source table of a session

`RTPSources` keeps an `RTPInternalSourceData` for every SSRC that has been heard of, together with
the address its packets come from.  Datagrams of any origin are polled, sources time out, and the
receiver takes out what is there.
-/

namespace ConnectUdp.Jrtp

open InsertionTable Transition

structure RTPIPv4Address where
  ip : UInt32
  port : UInt16
  deriving DecidableEq, Repr

namespace RTPIPv4Address

-- `none` is the null pointer.
def isSameAddress (a : RTPIPv4Address) (addr : Option RTPIPv4Address) : Bool :=
  addr.any fun addr2 => addr2.ip = a.ip ∧ addr2.port = a.port

def isFromSameHost (a : RTPIPv4Address) (addr : Option RTPIPv4Address) : Bool :=
  addr.any fun addr2 => addr2.ip = a.ip

theorem isSameAddress_some (a b : RTPIPv4Address) : a.isSameAddress (some b) = true ↔ b = a := by
  cases a
  cases b
  unfold isSameAddress
  simp only [Option.any_some, decide_eq_true_eq, mk.injEq]

end RTPIPv4Address

structure RTPUDPv4Transmitter where
  localIPs : List UInt32
  rtpPort : UInt16
  rtcpPort : UInt16
  deriving Repr

def RTPUDPv4Transmitter.comesFromThisTransmitter (t : RTPUDPv4Transmitter)
    (addr : RTPIPv4Address) : Bool :=
  t.localIPs.contains addr.ip && (addr.port == t.rtpPort || addr.port == t.rtcpPort)

/-! ## The entries -/

/-- An address is `none` until it is set, and `some none` when it is that of this session. -/
structure SourceEntry where
  internal : RTPInternalSourceData
  iscsrc : Bool
  rtpaddr : Option (Option RTPIPv4Address)
  rtcpaddr : Option (Option RTPIPv4Address)
  deriving DecidableEq, Repr

namespace SourceEntry

-- The probation type that the session parameters start with.
def new : SourceEntry :=
  ⟨.new .probationStore, false, none, none⟩

def setRTPDataAddress (srcdat : SourceEntry) (a : Option RTPIPv4Address) : SourceEntry :=
  { srcdat with rtpaddr := some a }

def setRTCPDataAddress (srcdat : SourceEntry) (a : Option RTPIPv4Address) : SourceEntry :=
  { srcdat with rtcpaddr := some a }

def setOwnSSRC (srcdat : SourceEntry) : SourceEntry :=
  { srcdat with internal := { srcdat.internal with ownssrc := true, validated := true } }

def setCSRC (srcdat : SourceEntry) : SourceEntry :=
  { srcdat with internal := { srcdat.internal with validated := true }, iscsrc := true }

def hasData (srcdat : SourceEntry) : Bool :=
  srcdat.internal.validated && !srcdat.internal.packetlist.isEmpty

def setAddress (srcdat : SourceEntry) (a : Option RTPIPv4Address) (isrtp : Bool) : SourceEntry :=
  if isrtp then srcdat.setRTPDataAddress a else srcdat.setRTCPDataAddress a

/-- `none` when there is a collision. -/
def checkCollision (srcdat : SourceEntry) (senderaddress : Option RTPIPv4Address) (isrtp : Bool) :
    Option SourceEntry :=
  match if isrtp then srcdat.rtpaddr else srcdat.rtcpaddr with
  | none =>
    match if isrtp then srcdat.rtcpaddr else srcdat.rtpaddr with
    | some none =>
      if senderaddress ≠ none then none else some (srcdat.setAddress senderaddress isrtp)
    | some (some otheraddr) =>
      if !otheraddr.isFromSameHost senderaddress then none
      else some (srcdat.setAddress senderaddress isrtp)
    | none => some (srcdat.setAddress senderaddress isrtp)
  | some none => if senderaddress ≠ none then none else some srcdat
  | some (some addr) => if !addr.isSameAddress senderaddress then none else some srcdat

-- `while ((packet = session.GetNextPacket()) != nullptr)`.
def packetLoop : Nat → SourceEntry → List Packet × SourceEntry
  | 0, srcdat => ([], srcdat)
  | fuel + 1, srcdat =>
    match srcdat.internal.getNextPacket with
    | none => ([], srcdat)
    | some (packet, internal) =>
      let rest := packetLoop fuel { srcdat with internal := internal }
      (packet :: rest.1, rest.2)

-- A source without data is passed over.
def take (srcdat : SourceEntry) : List Packet × SourceEntry :=
  if srcdat.hasData then packetLoop srcdat.internal.packetlist.length srcdat else ([], srcdat)

end SourceEntry

/-! ## The table -/

/-- `owndata` is the SSRC under which the entry of this session is found. -/
structure RTPSources where
  sourcelist : Table UInt32 SourceEntry
  owndata : UInt32
  owncollision : Bool

namespace RTPSources

def gotEntry (s : RTPSources) (ssrc : UInt32) : Bool :=
  ssrc ∈ s.sourcelist

def put (s : RTPSources) (ssrc : UInt32) (srcdat : SourceEntry) : RTPSources :=
  { s with sourcelist := InsertionTable.put ssrc srcdat s.sourcelist }

-- Only a collision with the own SSRC has consequences.
def onSSRCCollision (s : RTPSources) (ssrc : UInt32) : RTPSources :=
  match s.sourcelist.lookup ssrc with
  | none => s
  | some srcdat =>
    if srcdat.internal.ownssrc then { s with owncollision := true } else s

def createOwnSSRC (s : RTPSources) (ssrc : UInt32) : RTPSources :=
  { s.put ssrc ((SourceEntry.new.setOwnSSRC.setRTPDataAddress none).setRTCPDataAddress none) with
    owndata := ssrc }

def deleteOwnSSRC (s : RTPSources) : RTPSources :=
  { s with sourcelist := s.sourcelist.erase s.owndata }

-- The session has chosen the SSRC at random.
def create (ssrc : UInt32) : RTPSources :=
  createOwnSSRC ⟨∅, ssrc, false⟩ ssrc

-- The entry that a packet or a mention from this address goes to, `none` on a collision.
def obtain (s : RTPSources) (ssrc : UInt32) (senderaddress : Option RTPIPv4Address)
    (create : SourceEntry → SourceEntry) : Option SourceEntry :=
  match s.sourcelist.lookup ssrc with
  | none => some (create .new)
  | some srcdat => srcdat.checkCollision senderaddress true

def processCSRC (senderaddress : Option RTPIPv4Address) (s : RTPSources) (csrc : UInt32) :
    RTPSources :=
  -- No address is set when the entry is new.
  match s.obtain csrc senderaddress id with
  | none => s.onSSRCCollision csrc
  | some csrcdat => s.put csrc csrcdat.setCSRC

def processRTPPacket (s : RTPSources) (rtppack : Packet) (senderaddress : Option RTPIPv4Address) :
    RTPSources :=
  match s.obtain rtppack.ssrc senderaddress fun srcdat =>
      srcdat.setRTPDataAddress senderaddress with
  | none => s.onSSRCCollision rtppack.ssrc
  | some srcdat =>
    let srcdat := { srcdat with internal := (srcdat.internal.processRTPPacket rtppack).1 }
    let s := s.put rtppack.ssrc srcdat
    if srcdat.internal.validated then
      (rtppack.csrcs.take RTP_MAXCSRCS).foldl (processCSRC senderaddress) s
    else s

-- The numbers come from the random number generator.
def createNewSSRC (s : RTPSources) (randoms : List UInt32) : Option UInt32 :=
  randoms.find? fun ssrc => !s.gotEntry ssrc

end RTPSources

/-! ## Polling and taking out -/

/-- `received` records the packets with the addresses they have come from, `handed` what has been
taken out. -/
structure Polled where
  sources : RTPSources
  collisionlist : List RTPIPv4Address
  received : List (RTPIPv4Address × Packet)
  handed : List Packet
  crashed : Bool

inductive PollAct
  | poll (datagram : List UInt8) (sender : RTPIPv4Address) (randoms : List UInt32)
  -- The first entry that has become too old, and the first such address.
  | timeout (ssrc : UInt32)
  | collisionTimeout (addr : RTPIPv4Address)
  | takeOut
  deriving DecidableEq, Repr

namespace Polled

-- A new address in a collision with the own SSRC makes the session choose another one.
def handleCollision (s : Polled) (sender : RTPIPv4Address) (randoms : List UInt32) :
    Option Polled :=
  if s.sources.owncollision && !s.collisionlist.contains sender then
    (s.sources.createNewSSRC randoms).map fun newssrc =>
      { s with
        sources := s.sources.deleteOwnSSRC.createOwnSSRC newssrc
        collisionlist := s.collisionlist ++ [sender] }
  else some s

-- The sources once the packet has been processed.
def process (s : Polled) (rtppack : Packet) (sender : RTPIPv4Address) : Polled :=
  { s with
    sources := { s.sources with owncollision := false }.processRTPPacket rtppack (some sender)
    received := s.received ++ [(sender, rtppack)] }

-- The session does not accept its own packets.
def processRawPacket (transmitter : RTPUDPv4Transmitter) (s : Polled) (datagram : List UInt8)
    (sender : RTPIPv4Address) (randoms : List UInt32) : Option Polled :=
  match parseRawPacket true datagram with
  | .error _ => some s
  | .readOutside => some { s with crashed := true }
  | .ok rtppack =>
    if transmitter.comesFromThisTransmitter sender then some s
    else (s.process rtppack sender).handleCollision sender randoms

def next (transmitter : RTPUDPv4Transmitter) (s : Polled) : PollAct → Option Polled
  | .poll datagram sender randoms =>
    if s.crashed then none else s.processRawPacket transmitter datagram sender randoms
  | .timeout ssrc =>
    if s.crashed || ssrc == s.sources.owndata then none
    else
      some { s with
        sources := { s.sources with sourcelist := s.sources.sourcelist.erase ssrc } }
  | .collisionTimeout addr =>
    if s.crashed then none else some { s with collisionlist := s.collisionlist.erase addr }
  | .takeOut =>
    if s.crashed then none
    else
      let visited := visitAll SourceEntry.take s.sources.sourcelist
      some { s with
        sources := { s.sources with sourcelist := visited.2 }
        handed := s.handed ++ visited.1 }

def start (ssrc : UInt32) : Polled :=
  ⟨.create ssrc, [], [], [], false⟩

def machine (transmitter : RTPUDPv4Transmitter) (ssrc : UInt32) : Machine Polled PollAct :=
  ⟨fun s => s = start ssrc, next transmitter⟩

end Polled

/-! ## What the operations do to an entry -/

namespace SourceEntry

variable {srcdat srcdat' : SourceEntry} {sender : RTPIPv4Address}

theorem checkCollision_eq_some (h : srcdat.checkCollision (some sender) true = some srcdat') :
    srcdat'.internal = srcdat.internal ∧ srcdat'.rtpaddr = some (some sender) ∧
      (srcdat.rtpaddr = none ∨ srcdat.rtpaddr = some (some sender)) := by
  unfold checkCollision at h
  rw [if_pos rfl, if_pos rfl] at h
  cases hrtp : srcdat.rtpaddr with
  | none =>
    rw [hrtp] at h
    dsimp only at h
    have hset : srcdat' = srcdat.setAddress (some sender) true := by
      cases hrtcp : srcdat.rtcpaddr with
      | none =>
        rw [hrtcp] at h
        exact (Option.some.inj h).symm
      | some otheraddr =>
        rw [hrtcp] at h
        cases otheraddr with
        | none => cases h
        | some otheraddr =>
          dsimp only at h
          split at h
          · cases h
          · exact (Option.some.inj h).symm
    rw [hset]
    exact ⟨rfl, rfl, .inl rfl⟩
  | some addr =>
    rw [hrtp] at h
    cases addr with
    | none => cases h
    | some addr =>
      dsimp only at h
      split at h
      · cases h
      next hsame =>
        rw [Bool.not_eq_true, Bool.not_eq_false', RTPIPv4Address.isSameAddress_some] at hsame
        cases h
        rw [hrtp, hsame]
        exact ⟨rfl, rfl, .inr rfl⟩

theorem checkCollision_of_rtpaddr {a : RTPIPv4Address} (h : srcdat.rtpaddr = some (some a)) :
    srcdat.checkCollision (some sender) true = if sender = a then some srcdat else none := by
  unfold checkCollision
  rw [if_pos rfl, h]
  dsimp only
  by_cases hsame : sender = a
  · rw [if_pos hsame, (RTPIPv4Address.isSameAddress_some a sender).mpr hsame]
    rfl
  · rw [if_neg hsame, Bool.eq_false_iff.mpr fun htrue =>
      hsame ((RTPIPv4Address.isSameAddress_some a sender).mp htrue)]
    rfl

-- The entry with these packets waiting.
def withPackets (srcdat : SourceEntry) (packetlist : List Packet) : SourceEntry :=
  { srcdat with internal := { srcdat.internal with packetlist := packetlist } }

theorem packetLoop_eq (h : srcdat.internal.validated = true) (fuel : Nat) :
    srcdat.packetLoop fuel = (srcdat.internal.packetlist.take fuel,
      srcdat.withPackets (srcdat.internal.packetlist.drop fuel)) := by
  induction fuel generalizing srcdat with
  | zero => rfl
  | succ fuel ih =>
    have hloop : ∀ packetlist, (srcdat.withPackets packetlist).packetLoop fuel = _ :=
      fun _ => ih h
    unfold packetLoop RTPInternalSourceData.getNextPacket
    rw [if_pos h]
    cases hlist : srcdat.internal.packetlist with
    | nil =>
      have hsame : srcdat.withPackets [] = srcdat := by
        rw [← hlist]
        rfl
      rw [List.take_nil, List.drop_nil, hsame]
    | cons p packetlist =>
      show (p :: ((srcdat.withPackets packetlist).packetLoop fuel).1,
        ((srcdat.withPackets packetlist).packetLoop fuel).2) = _
      rw [hloop packetlist]
      rfl

/-- The loop takes out all packets of a validated source. -/
theorem take_eq (srcdat : SourceEntry) : srcdat.take =
    if srcdat.internal.validated then (srcdat.internal.packetlist, srcdat.withPackets [])
    else ([], srcdat) := by
  unfold take hasData
  cases hvalidated : srcdat.internal.validated with
  | false => rfl
  | true =>
    rw [if_pos rfl, packetLoop_eq hvalidated, List.take_length, List.drop_length]
    cases hlist : srcdat.internal.packetlist with
    | nil =>
      have hsame : srcdat.withPackets [] = srcdat := by
        rw [← hlist]
        rfl
      rw [hsame]
      rfl
    | cons p packetlist => rfl

theorem take_snd (srcdat : SourceEntry) : srcdat.take.2.rtpaddr = srcdat.rtpaddr ∧
    ∀ p ∈ srcdat.take.2.internal.packetlist, p ∈ srcdat.internal.packetlist := by
  rw [take_eq]
  split
  · exact ⟨rfl, fun p hp => by cases hp⟩
  · exact ⟨rfl, fun p hp => hp⟩

theorem mem_take {p : Packet} (h : p ∈ srcdat.take.1) : p ∈ srcdat.internal.packetlist := by
  rw [take_eq] at h
  split at h
  · exact h
  · cases h

end SourceEntry

/-! ## What an action does -/

namespace Polled

variable {transmitter : RTPUDPv4Transmitter} {s t : Polled}

theorem next_poll_iff {datagram : List UInt8} {sender : RTPIPv4Address} {randoms : List UInt32} :
    s.next transmitter (.poll datagram sender randoms) = some t ↔
      s.crashed = false ∧ s.processRawPacket transmitter datagram sender randoms = some t := by
  rw [next, Option.ite_none_left_eq_some, Bool.not_eq_true]

theorem next_timeout_iff {ssrc : UInt32} : s.next transmitter (.timeout ssrc) = some t ↔
    s.crashed = false ∧ ssrc ≠ s.sources.owndata ∧
      { s with
        sources := { s.sources with sourcelist := s.sources.sourcelist.erase ssrc } } = t := by
  rw [next, Option.ite_none_left_eq_some, Bool.or_eq_true, not_or, Bool.not_eq_true, beq_iff_eq,
    Option.some_inj, and_assoc]

theorem next_collisionTimeout_iff {addr : RTPIPv4Address} :
    s.next transmitter (.collisionTimeout addr) = some t ↔
      s.crashed = false ∧ { s with collisionlist := s.collisionlist.erase addr } = t := by
  rw [next, Option.ite_none_left_eq_some, Bool.not_eq_true, Option.some_inj]

theorem next_takeOut_iff : s.next transmitter .takeOut = some t ↔
    s.crashed = false ∧
      { s with
        sources := { s.sources with
          sourcelist := (visitAll SourceEntry.take s.sources.sourcelist).2 }
        handed := s.handed ++ (visitAll SourceEntry.take s.sources.sourcelist).1 } = t := by
  rw [next, Option.ite_none_left_eq_some, Bool.not_eq_true, Option.some_inj]

end Polled

end ConnectUdp.Jrtp
