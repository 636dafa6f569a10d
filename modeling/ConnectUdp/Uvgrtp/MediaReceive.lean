import ConnectUdp.OrderedQueue
import ConnectUdp.Uvgrtp.H264Receive
import ConnectUdp.Uvgrtp.MediaSend
import ConnectUdp.Uvgrtp.ReceptionOrder

/-!
# Receiving a frame of any other format

`media::packet_handler`.  Without `RCE_FRAGMENT_GENERIC` every packet is a frame.  Otherwise the
pieces of a frame wait in a table indexed by their timestamp until their number agrees with the
numbers of the first and of the last one.
-/

namespace ConnectUdp.Uvgrtp.MediaFormat

open RtpHeader OrderedQueue

def invalidSeq : UInt32 := 0xffffffff

structure MediaInfo where
  sSeq : UInt32
  eSeq : UInt32
  npkts : Nat
  size : Nat
  -- in the order of the keys
  fragments : List (UInt32 × Frame)
  deriving DecidableEq, Repr

namespace MediaInfo

def place (a : UInt32 × Frame) : Nat :=
  a.1.toNat

-- The first piece of a frame to arrive.
def new (frame : Frame) : MediaInfo :=
  ⟨frame.header.seq.toUInt32, invalidSeq, 1, frame.payload.length,
    [(frame.header.seq.toUInt32, frame)]⟩

def key (info : MediaInfo) (frame : Frame) : UInt32 :=
  let seq := frame.header.seq.toUInt32
  if seq < info.sSeq then seq + 0x10000 else seq

def add (info : MediaInfo) (frame : Frame) : MediaInfo where
  npkts := info.npkts + 1
  size := info.size + frame.payload.length
  fragments := assign place (info.key frame, frame) info.fragments
  eSeq := if frame.header.marker ≠ 0 then frame.header.seq.toUInt32 else info.eSeq
  -- The start may have been ordered wrong.
  sSeq :=
    if frame.header.marker = 0 ∧ frame.header.seq.toUInt32 = info.sSeq - 1 then
      frame.header.seq.toUInt32
    else info.sSeq

def recv (info : MediaInfo) : UInt32 :=
  if info.sSeq > info.eSeq then 0xffff - info.sSeq + info.eSeq + 2 else info.eSeq - info.sSeq + 1

def Complete (info : MediaInfo) : Prop :=
  (info.eSeq ≠ invalidSeq ∧ info.sSeq ≠ invalidSeq) ∧ info.recv.toNat = info.npkts

instance Complete.decidable (info : MediaInfo) : Decidable info.Complete :=
  inferInstanceAs (Decidable (_ ∧ _))

def payload (info : MediaInfo) : List UInt8 :=
  info.fragments.flatMap fun a => a.2.payload

-- `retframe` has `size` bytes, of which the pieces need not fill all; `memory` is what the block
-- held before.
def merged (info : MediaInfo) (memory : Nat → UInt8) (header : Header) : Frame where
  header := header
  csrc := []
  ext := none
  paddingLen := 0
  payload := info.payload ++
    (List.range' info.payload.length (info.size - info.payload.length)).map memory

theorem toNat_key (info : MediaInfo) (frame : Frame) : (info.key frame).toNat =
    if frame.header.seq.toNat < info.sSeq.toNat then frame.header.seq.toNat + 2 ^ 16
    else frame.header.seq.toNat := by
  have hseq := frame.header.seq.toNat_lt
  have hsame := UInt16.toNat_toUInt32 frame.header.seq
  rw [key]
  split
  next hlt =>
    rw [UInt32.lt_iff_toNat_lt, hsame] at hlt
    rw [if_pos hlt, UInt32.toNat_add, hsame, show UInt32.toNat 0x10000 = 2 ^ 16 from rfl]
    omega
  next hle =>
    rw [UInt32.lt_iff_toNat_lt, hsame] at hle
    rw [if_neg hle, hsame]

/-- How many numbers there are from the first to the last, counting on over the end. -/
theorem toNat_recv {info : MediaInfo} (hs : info.sSeq.toNat < 2 ^ 16)
    (he : info.eSeq.toNat < 2 ^ 16) : info.recv.toNat =
      (info.eSeq.toNat + 2 ^ 16 - info.sSeq.toNat) % 2 ^ 16 + 1 := by
  rw [recv]
  split
  next hlt =>
    rw [gt_iff_lt, UInt32.lt_iff_toNat_lt] at hlt
    rw [UInt32.toNat_add, UInt32.toNat_add, UInt32.toNat_sub,
      show UInt32.toNat 0xffff = 0xffff from rfl, show UInt32.toNat 2 = 2 from rfl]
    omega
  next hle =>
    rw [gt_iff_lt, UInt32.lt_iff_toNat_lt] at hle
    rw [UInt32.toNat_add, UInt32.toNat_sub, UInt32.toNat_one]
    omega

end MediaInfo

def packetHandler (fragmentGeneric : Bool) (memory : Nat → UInt8) (frames : Table MediaInfo)
    (frame : Frame) : Table MediaInfo × Option Frame :=
  let ts := frame.header.timestamp
  if fragmentGeneric then
    match frames.lookup ts with
    | some info =>
      if (info.add frame).Complete then
        (frames.erase ts, some ((info.add frame).merged memory frame.header))
      else (frames.insert ts (info.add frame), none)
    | none =>
      if frame.header.marker = 0 then (frames.insert ts (.new frame), none)
      -- There was only one packet for this frame.
      else (frames, some frame)
  else (frames, some frame)

-- The handlers of a stream in the processing thread; `memory` is what the allocator finds.
def handlers (fragmentGeneric : Bool) (r : Except Fault (Table MediaInfo)) (memory : Nat → UInt8)
    (datagram : List UInt8) : Except Fault (Table MediaInfo) × List Frame :=
  match r with
  | .error fault => (.error fault, [])
  | .ok frames =>
    match Uvgrtp.packetHandler datagram with
    | .error fault => (.error fault, [])
    | .ok (.modified frame) =>
      let (frames, out) := packetHandler fragmentGeneric memory frames frame
      (.ok frames, out.toList)
    | .ok _ => (.ok frames, [])

/-! ## The entries are independent of each other -/

/-- What a packet does to the entry for its timestamp, and the frame that is returned. -/
def handleFragment (memory : Nat → UInt8) (frame : Frame) :
    Option MediaInfo → Option MediaInfo × Option Frame
  | some info =>
    if (info.add frame).Complete then (none, some ((info.add frame).merged memory frame.header))
    else (some (info.add frame), none)
  | none => if frame.header.marker = 0 then (some (.new frame), none) else (none, some frame)

theorem packetHandler_entry (memory : Nat → UInt8) (frames : Table MediaInfo) (frame : Frame) :
    let handled := packetHandler true memory frames frame
    let entry := handleFragment memory frame (frames.lookup frame.header.timestamp)
    handled.2 = entry.2 ∧ handled.1.lookup frame.header.timestamp = entry.1 ∧
      ∀ ts, ts ≠ frame.header.timestamp → handled.1.lookup ts = frames.lookup ts := by
  rw [packetHandler]
  dsimp only
  rw [if_pos rfl]
  cases hentry : frames.lookup frame.header.timestamp with
  | some info =>
    rw [handleFragment]
    dsimp only
    split
    next => exact ⟨rfl, AList.lookup_erase _ frames, fun ts hts => AList.lookup_erase_ne hts⟩
    next => exact ⟨rfl, AList.lookup_insert frames, fun ts hts => AList.lookup_insert_ne hts⟩
  | none =>
    rw [handleFragment]
    dsimp only
    split
    next => exact ⟨rfl, AList.lookup_insert frames, fun ts hts => AList.lookup_insert_ne hts⟩
    next => exact ⟨rfl, hentry, fun ts hts => rfl⟩

end ConnectUdp.Uvgrtp.MediaFormat
