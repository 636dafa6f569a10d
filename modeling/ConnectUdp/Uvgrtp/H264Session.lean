import ConnectUdp.Transition
import ConnectUdp.Uvgrtp.H264Receive
import ConnectUdp.Uvgrtp.H264Send

/-!
# A sender, a receiver and the network between them

The sender pushes NAL units.  The network delivers any datagram that was sent, at any time and as
often as it likes, or never.  Beside the state of the program a session records which datagrams
have arrived, what the receiver returned and for which push, and which pushes it dropped.
-/

namespace ConnectUdp.Uvgrtp

open NetworkOrder RtpHeader SequenceNumber Chunks Transition

structure Push where
  header : Header
  payloadSize : UInt64
  data : List UInt8
  datagrams : List (List UInt8)
  deriving DecidableEq, Repr

structure Session where
  rtp : Rtp
  receiver : H26x
  pushes : List Push
  arrived : Finset (Nat × Nat)
  delivered : List (Nat × Frame)
  abandoned : Finset Nat
  crashed : Bool

inductive SessionAct
  | push (data : List UInt8) (now : Nat) (random : UInt32)
  -- The network delivers datagram `k` of push `p`.
  | deliver (p k now : Nat)
  deriving DecidableEq, Repr

-- The part of `reception_flow::process_packet` for packets of version 2.
def processPacket (cfg : Settings) (now : Nat) (r : H26x) (datagram : List UInt8) :
    Except Fault (H26x × List Frame) :=
  match packetHandler datagram with
  | .error fault => .error fault
  | .ok (.modified frame) =>
    match r.packetHandler cfg now frame with
    | .error fault => .error fault
    | .ok (r, .ready frame) => .ok (r, [frame])
    | .ok (r, .multiple) => .ok ({ r with queued := [] }, r.queued)
    | .ok (r, _) => .ok (r, [])
  | .ok _ => .ok (r, [])

namespace Session

variable (cfg : Settings)

def push (s : Session) (data : List UInt8) (now : Nat) (random : UInt32) : Session :=
  match pushMediaFrame s.rtp now random data with
  | .error _ => { s with crashed := true }
  | .ok (rtp, []) => { s with rtp := rtp }
  | .ok (rtp, datagrams) =>
    { s with
      rtp := rtp
      pushes := s.pushes ++ [⟨pushHeader s.rtp now random, s.rtp.payloadSize, data, datagrams⟩] }

-- The pushes some of whose fragments wait in the receiver.
def waiting (s : Session) (r : H26x) : Finset Nat :=
  (Finset.range s.pushes.length).filter fun p =>
    (s.pushes[p]?.any fun push =>
      1 < push.datagrams.length && (r.frames.lookup push.header.timestamp).isSome) = true

def deliver (s : Session) (p k now : Nat) (datagram : List UInt8) : Session :=
  match processPacket cfg now s.receiver datagram with
  | .error _ => { s with crashed := true }
  | .ok (receiver, frames) =>
    { s with
      receiver := receiver
      arrived := insert (p, k) s.arrived
      delivered := s.delivered ++ frames.map fun frame => (p, frame)
      abandoned := s.abandoned ∪
        ((s.waiting s.receiver \ s.waiting receiver) \ if frames.isEmpty then ∅ else {p}) }

def next (s : Session) : SessionAct → Option Session
  | .push data now random => if s.crashed then none else some (s.push data now random)
  | .deliver p k now =>
    if s.crashed then none
    else (s.pushes[p]?.bind fun push => push.datagrams[k]?).map (s.deliver cfg p k now)

def init (s : Session) : Prop :=
  ∃ rtp now, s = ⟨rtp, H26x.new now, [], ∅, [], ∅, false⟩

def machine : Machine Session SessionAct where
  init := init
  next := next cfg

end Session

/-! ## What the sender and the network must keep to -/

-- A NAL unit that a receiver takes for a single one.
def SingleNal : List UInt8 → Prop
  | nalHeader :: _ :: _ =>
    nalHeader &&& 0x1f ≠ 24 ∧ nalHeader &&& 0x1f ≠ 25 ∧ nalHeader &&& 0x1f ≠ 28
  | _ => False

instance SingleNal.decidable : ∀ data, Decidable (SingleNal data)
  | _ :: _ :: _ => inferInstanceAs (Decidable (_ ∧ _))
  | [] => isFalse id
  | [_] => isFalse id

-- Fragmented pushes have timestamps of their own, and no two packets have the same timestamp and
-- the same number.
def Push.Apart (a b : Push) : Prop :=
  a.header.timestamp = b.header.timestamp →
    a.datagrams.length ≤ 1 ∧ b.datagrams.length ≤ 1 ∧ a.header.seq ≠ b.header.seq

instance Push.Apart.decidable (a b : Push) : Decidable (a.Apart b) :=
  inferInstanceAs (Decidable (_ → _))

def Push.of (r : Rtp) (data : List UInt8) (now : Nat) (random : UInt32) : Push where
  header := pushHeader r now random
  payloadSize := r.payloadSize
  data := data
  datagrams := flushQueue ⟨pushHeader r now random,
    numbered (pushHeader r now random) (payloadsOf r.payloadSize data)⟩

def Session.PushOk (s : Session) (data : List UInt8) (now : Nat) (random : UInt32) : Prop :=
  data ≠ [] → 3 ≤ s.rtp.payloadSize.toNat ∧
    (payloadsOf s.rtp.payloadSize data).length ≤ maxMsgCount ∧
    (data.length ≤ s.rtp.payloadSize.toNat → SingleNal data) ∧
    ∀ a ∈ s.pushes, a.Apart (Push.of s.rtp data now random)

instance Session.PushOk.decidable (s : Session) (data : List UInt8) (now : Nat) (random : UInt32) :
    Decidable (s.PushOk data now random) :=
  inferInstanceAs (Decidable (_ → _))

-- The receiver turns a packet with this timestamp and number away.
def H26x.remembers (r : H26x) (ts : UInt32) (seq : UInt16) : Bool :=
  r.isDuplicate ts seq || (r.droppedTs.lookup ts).isSome || (r.completedTs.lookup ts).isSome ||
    (r.frames.lookup ts).any fun info => decide (seq ∈ info.receivedPacketSeqs)

def Push.seqAt (push : Push) (k : Nat) : UInt16 :=
  after push.header.seq k

-- Datagram `k` comes while the receiver still remembers it, if it has come before, and does not
-- displace a fragment of another frame that has the same number.
def Session.DeliverOk (s : Session) (p k : Nat) : Prop :=
  ∀ push ∈ s.pushes[p]?,
    ((p, k) ∈ s.arrived → s.receiver.remembers push.header.timestamp (push.seqAt k) = true) ∧
    ((p, k) ∉ s.arrived → 1 < push.datagrams.length →
      ∀ f ∈ s.receiver.fragments (push.seqAt k), f.header.timestamp = push.header.timestamp)

instance Session.DeliverOk.decidable (s : Session) (p k : Nat) : Decidable (s.DeliverOk p k) :=
  inferInstanceAs (Decidable (∀ push ∈ s.pushes[p]?, _ ∧ _))

def Session.StepOk (s : Session) : SessionAct → Prop
  | .push data now random => s.PushOk data now random
  | .deliver p k _ => s.DeliverOk p k

instance Session.StepOk.decidable (s : Session) : ∀ a, Decidable (s.StepOk a)
  | .push data now random => inferInstanceAs (Decidable (s.PushOk data now random))
  | .deliver p k _ => inferInstanceAs (Decidable (s.DeliverOk p k))

end ConnectUdp.Uvgrtp
