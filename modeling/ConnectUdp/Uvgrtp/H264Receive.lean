import ConnectUdp.SequenceNumber
import ConnectUdp.Uvgrtp.Rtp
import Mathlib.Algebra.Group.Int.Defs
import Mathlib.Data.Finset.Card
import Mathlib.Data.List.AList
import Mathlib.Logic.Function.Basic

/-!
# Receiving NAL units

`h26x::packet_handler` for H.264.  Fragments wait in a table indexed by their sequence number until
all fragments of their frame are there; the frame is then put together.  Frames that are not
completed in time are dropped.
-/

namespace ConnectUdp.Uvgrtp

open NetworkOrder RtpHeader SequenceNumber

abbrev Table (V : Type) := AList fun _ : UInt32 => V

inductive FragType
  | invalid
  | notFrag
  | start
  | middle
  | last
  | aggr
  | stapB
  deriving DecidableEq, Repr

inductive NalKind
  | intra
  | inter
  | other
  deriving DecidableEq, Repr

-- Clock readings are in nanoseconds.
structure H26xInfo where
  sframeTime : Nat
  nalType : NalKind
  startReceived : Bool
  endReceived : Bool
  sSeq : UInt16
  eSeq : UInt16
  totalSize : Nat
  receivedPacketSeqs : Finset UInt16

structure H26x where
  queued : List Frame
  frames : Table H26xInfo
  receivedFrames : List (UInt32 × UInt16)
  receivedInfo : Table (List UInt16)
  fragments : UInt16 → Option Frame
  droppedTs : Table Nat
  completedTs : Table Nat
  lastGarbageCollection : Nat
  discardUntilKeyFrame : Bool

-- The flags of the stream and the delay a frame is waited for, in milliseconds.
structure Settings where
  noPrependSc : Bool
  dependencyEnforcement : Bool
  pktMaxDelay : Nat
  deriving DecidableEq, Repr

inductive Result
  | error
  | ok
  | ready (frame : Frame)
  | multiple
  deriving DecidableEq, Repr

def H26x.new (now : Nat) : H26x where
  queued := []
  frames := ∅
  receivedFrames := []
  receivedInfo := ∅
  fragments := fun _ => none
  droppedTs := ∅
  completedTs := ∅
  lastGarbageCollection := now
  discardUntilKeyFrame := true

-- `clock::hrc::diff_now` in milliseconds, as an unsigned number.
def diffNow (now since : Nat) : Nat :=
  ((((now : Int) - since).tdiv 1000000) % 2 ^ 64).toNat

def startCode (cfg : Settings) : List UInt8 :=
  if cfg.noPrependSc then [] else [0, 0, 1]

/-! ## Duplicates -/

def receivedFramesMax : Nat := 450000

def H26x.isDuplicate (s : H26x) (ts : UInt32) (seq : UInt16) : Bool :=
  ((s.receivedInfo.lookup ts).getD []).contains seq

-- With the oldest entry everything received with its timestamp is forgotten.
def H26x.recordReceived (s : H26x) (ts : UInt32) (seq : UInt16) : H26x :=
  let receivedInfo := s.receivedInfo.insert ts ((s.receivedInfo.lookup ts).getD [] ++ [seq])
  let receivedFrames := s.receivedFrames ++ [(ts, seq)]
  if receivedFrames.length > receivedFramesMax then
    { s with
      receivedInfo := receivedInfo.erase (receivedFrames.headD (ts, seq)).1
      receivedFrames := receivedFrames.tail }
  else { s with receivedInfo := receivedInfo, receivedFrames := receivedFrames }

/-! ## Kinds of packets -/

def getFragmentType : List UInt8 → Except Fault FragType
  | p₀ :: p₁ :: _ =>
    if p₀ &&& 0x1f = 24 then .ok .aggr
    else if p₀ &&& 0x1f = 25 then .ok .stapB
    else if p₀ &&& 0x1f ≠ 28 then .ok .notFrag
    else if p₁ &&& 0x80 ≠ 0 ∧ p₁ &&& 0x40 ≠ 0 then .ok .invalid
    else if p₁ &&& 0x80 ≠ 0 then .ok .start
    else if p₁ &&& 0x40 ≠ 0 then .ok .last
    else .ok .middle
  | _ => .error .readOutside

def getNalType (payload : List UInt8) : NalKind :=
  let type := payload.getD 1 0 &&& 0x1f
  if type = 5 then .intra else if type = 1 then .inter else .other

/-! ## Aggregation packets -/

-- Every NAL unit behind its length; `none` when the lengths add up to more than the packet.
def nalusFrom (payload : List UInt8) : Nat → Nat → Nat → Except Fault (Option (List (Nat × Nat)))
  | 0, _, _ => .ok (some [])
  | turns + 1, i, size =>
    if i < payload.length then
      match read16 payload i with
      | none => .error .readOutside
      | some packetSize =>
        if size + packetSize.toNat ≤ payload.length then
          match nalusFrom payload turns (i + (packetSize.toNat + 2)) (size + packetSize.toNat) with
          | .ok (some nalus) => .ok (some ((packetSize.toNat, i + 2) :: nalus))
          | other => other
        else .ok none
    else .ok (some [])

def retFrame (cfg : Settings) (frame : Frame) (nalu : Nat × Nat) : Except Fault Frame :=
  if frame.payload.length < nalu.2 + nalu.1 then .error .readOutside
  else .ok ⟨frame.header, [], none, 0,
    startCode cfg ++ (frame.payload.drop nalu.2).take nalu.1⟩

def handleAggregationPacket (cfg : Settings) (s : H26x) (frame : Frame) (headerSize : Nat) :
    Except Fault (H26x × Result) :=
  match nalusFrom frame.payload frame.payload.length headerSize 0 with
  | .error fault => .error fault
  | .ok none => .ok (s, .error)
  | .ok (some nalus) =>
    (nalus.mapM (retFrame cfg frame)).map fun frames =>
      ({ s with queued := s.queued ++ frames }, .multiple)

/-! ## Dropping frames -/

def H26x.dropFrame (s : H26x) (ts : UInt32) : Except Fault H26x :=
  match s.frames.lookup ts with
  | none => .ok s
  | some info =>
    if (info.receivedPacketSeqs.filter fun seq => (s.fragments seq).isNone) = ∅ then
      .ok { s with
        fragments := fun seq => if seq ∈ info.receivedPacketSeqs then none else s.fragments seq
        droppedTs := s.droppedTs.insert ts info.sframeTime
        frames := s.frames.erase ts
        discardUntilKeyFrame := true }
    else .error .nullPointer

def eraseOld (now : Nat) (table : Table Nat) : Table Nat :=
  ((table.entries.filter fun e => 5000 < diffNow now e.2).map Sigma.fst).foldl
    (fun table ts => table.erase ts) table

def lateFrames (timeout now : Nat) (s : H26x) : List UInt32 :=
  (s.frames.entries.filter fun e => timeout < diffNow now e.2.sframeTime).map Sigma.fst

def garbageCollectLostFrames (timeout now : Nat) (s : H26x) : Except Fault H26x :=
  if 100 ≤ diffNow now s.lastGarbageCollection then
    ((lateFrames timeout now s).foldlM H26x.dropFrame s).map fun s =>
      { s with
        completedTs := eraseOld now s.completedTs
        droppedTs := eraseOld now s.droppedTs
        lastGarbageCollection := now }
  else .ok s

/-! ## Putting a frame together -/

-- Copies and frees; `none` when a fragment is missing.  `room` is what is left of the frame.
def copyFragments : (UInt16 → Option Frame) → Nat → List UInt16 →
    Except Fault ((UInt16 → Option Frame) × Option (List UInt8))
  | fragments, _, [] => .ok (fragments, some [])
  | fragments, room, i :: is =>
    match fragments i with
    | none => .ok (fragments, none)
    | some fragment =>
      let piece := fragment.payload.drop 2
      if room < piece.length then .error .heapOverflow
      else
        (copyFragments (Function.update fragments i none) (room - piece.length) is).map
          fun (fragments, copied) => (fragments, copied.map (piece ++ ·))

def nalHeaderFromFuHeaders (payload : List UInt8) : UInt8 :=
  (payload.getD 0 0 &&& 0xe0) ||| (payload.getD 1 0 &&& 0x1f)

-- What is not copied over stays as it was allocated; zeros stand for it.
def completeFrame (cfg : Settings) (frame : Frame) (totalSize : Nat) (copied : List UInt8) :
    Frame :=
  ⟨frame.header, [], none, 0, startCode cfg ++ nalHeaderFromFuHeaders frame.payload ::
    (copied ++ List.replicate (totalSize - copied.length) 0)⟩

def H26x.reconstruction (cfg : Settings) (s : H26x) (frame : Frame) (ts : UInt32)
    (info : H26xInfo) : Except Fault (H26x × Result) :=
  match copyFragments s.fragments info.totalSize (upTo info.sSeq (info.eSeq + 1)) with
  | .error fault => .error fault
  | .ok (fragments, none) => .ok ({ s with fragments := fragments }, .error)
  | .ok (fragments, some copied) =>
    .ok ({ s with
      fragments := fragments
      completedTs := s.completedTs.insert ts info.sframeTime
      frames := s.frames.erase ts }, .ready (completeFrame cfg frame info.totalSize copied))

/-! ## The handler -/

def newInfo (nalType : NalKind) (now : Nat) : H26xInfo where
  sframeTime := now
  nalType := nalType
  startReceived := false
  endReceived := false
  sSeq := 0
  eSeq := 0
  totalSize := 0
  receivedPacketSeqs := ∅

def H26xInfo.received (info : H26xInfo) (type : FragType) (seq : UInt16) (size : Nat) : H26xInfo :=
  let info :=
    { info with
      receivedPacketSeqs := insert seq info.receivedPacketSeqs
      totalSize := info.totalSize + size }
  match type with
  | .start => { info with sSeq := seq, startReceived := true }
  | .last => { info with eSeq := seq, endReceived := true }
  | _ => info

def H26xInfo.expectedFus (info : H26xInfo) : Nat :=
  if info.sSeq.toNat > info.eSeq.toNat then (65535 - info.sSeq.toNat) + info.eSeq.toNat + 2
  else info.eSeq.toNat - info.sSeq.toNat + 1

-- Every fragment of the frame is there.
def H26x.completed (cfg : Settings) (s : H26x) (frame : Frame) (ts : UInt32) (info : H26xInfo) :
    Except Fault (H26x × Result) :=
  if s.discardUntilKeyFrame ∧ cfg.dependencyEnforcement then
    match info.nalType with
    | .inter => (s.dropFrame ts).map fun s => (s, .error)
    | .intra => { s with discardUntilKeyFrame := false }.reconstruction cfg frame ts info
    | .other => s.reconstruction cfg frame ts info
  else s.reconstruction cfg frame ts info

-- A fragment already in the place of this one is freed.
def H26x.store (s : H26x) (frame : Frame) (info : H26xInfo) : H26x :=
  { s with
    frames := s.frames.insert frame.header.timestamp info
    fragments := Function.update s.fragments frame.header.seq (some frame) }

def H26x.handleFragment (cfg : Settings) (now : Nat) (s : H26x) (frame : Frame) (type : FragType) :
    Except Fault (H26x × Result) :=
  let ts := frame.header.timestamp
  let seq := frame.header.seq
  let nalType := getNalType frame.payload
  let info := (s.frames.lookup ts).getD (newInfo nalType now)
  if seq ∈ info.receivedPacketSeqs then .ok (s, .error)
  else if info.nalType ≠ nalType then .ok (s, .error)
  else
    let info := info.received type seq (frame.payload.length - 2)
    let s := s.store frame info
    if info.startReceived ∧ info.endReceived ∧ info.expectedFus = info.receivedPacketSeqs.card then
      s.completed cfg frame ts info
    else (garbageCollectLostFrames cfg.pktMaxDelay now s).map fun s => (s, .ok)

def prependStartCode (cfg : Settings) (frame : Frame) : Frame :=
  { frame with payload := startCode cfg ++ frame.payload }

def H26x.dispatch (cfg : Settings) (now : Nat) (s : H26x) (frame : Frame) :
    FragType → Except Fault (H26x × Result)
  | .aggr => handleAggregationPacket cfg s frame 1
  | .stapB => handleAggregationPacket cfg s frame 3
  | .notFrag => .ok (s, .ready (prependStartCode cfg frame))
  | .invalid => .ok (s, .error)
  | type => s.handleFragment cfg now frame type

def H26x.packetHandler (cfg : Settings) (now : Nat) (s : H26x) (frame : Frame) :
    Except Fault (H26x × Result) :=
  let ts := frame.header.timestamp
  if s.isDuplicate ts frame.header.seq then .ok (s, .error)
  else
    let s := s.recordReceived ts frame.header.seq
    match getFragmentType frame.payload with
    | .error fault => .error fault
    | .ok type =>
      if (s.droppedTs.lookup ts).isSome ∨ (s.completedTs.lookup ts).isSome then .ok (s, .error)
      else s.dispatch cfg now frame type

/-! ## What is remembered of a packet -/

section

variable (s : H26x) (ts : UInt32) (seq : UInt16)

@[simp] theorem recordReceived_frames : (s.recordReceived ts seq).frames = s.frames := by
  rw [H26x.recordReceived]
  split <;> rfl

@[simp] theorem recordReceived_fragments : (s.recordReceived ts seq).fragments = s.fragments := by
  rw [H26x.recordReceived]
  split <;> rfl

@[simp] theorem recordReceived_droppedTs : (s.recordReceived ts seq).droppedTs = s.droppedTs := by
  rw [H26x.recordReceived]
  split <;> rfl

@[simp] theorem recordReceived_completedTs :
    (s.recordReceived ts seq).completedTs = s.completedTs := by
  rw [H26x.recordReceived]
  split <;> rfl

@[simp] theorem recordReceived_queued : (s.recordReceived ts seq).queued = s.queued := by
  rw [H26x.recordReceived]
  split <;> rfl

end

theorem contains_lookup_insert {table : Table (List UInt16)} {ts ts' : UInt32} {seq seq' : UInt16}
    (h : (((table.insert ts ((table.lookup ts).getD [] ++ [seq])).lookup ts').getD []).contains
      seq' = true) :
    ((table.lookup ts').getD []).contains seq' = true ∨ ts' = ts ∧ seq' = seq := by
  by_cases hne : ts' = ts
  · subst hne
    rw [AList.lookup_insert, Option.getD_some, List.contains_iff_mem, List.mem_append,
      List.mem_singleton] at h
    rw [List.contains_iff_mem]
    exact h.imp_right fun hseq => ⟨rfl, hseq⟩
  · rw [AList.lookup_insert_ne hne] at h
    exact .inl h

theorem contains_lookup_erase {table : Table (List UInt16)} {ts ts' : UInt32} {seq : UInt16}
    (h : (((table.erase ts).lookup ts').getD []).contains seq = true) :
    ((table.lookup ts').getD []).contains seq = true := by
  by_cases hne : ts' = ts
  · subst hne
    rw [AList.lookup_erase] at h
    cases h
  · rwa [AList.lookup_erase_ne hne] at h

/-- Nothing but the packet itself becomes known with it. -/
theorem isDuplicate_recordReceived {s : H26x} {ts ts' : UInt32} {seq seq' : UInt16}
    (h : (s.recordReceived ts seq).isDuplicate ts' seq' = true) :
    s.isDuplicate ts' seq' = true ∨ ts' = ts ∧ seq' = seq := by
  rw [H26x.recordReceived] at h
  split at h
  · exact contains_lookup_insert (contains_lookup_erase h)
  · exact contains_lookup_insert h

/-! ## The fragments that frames wait with -/

/-- Every fragment a pending frame has counted is in the table, under the timestamp of the frame. -/
def H26x.Held (s : H26x) : Prop :=
  ∀ ts info, s.frames.lookup ts = some info → ∀ seq ∈ info.receivedPacketSeqs,
    ∃ f, s.fragments seq = some f ∧ f.header.timestamp = ts

theorem H26x.Held.disjoint {s : H26x} (h : s.Held) {ts ts' : UInt32} {info info' : H26xInfo}
    (hts : s.frames.lookup ts = some info) (hts' : s.frames.lookup ts' = some info')
    (hne : ts' ≠ ts) {seq : UInt16} (hseq : seq ∈ info.receivedPacketSeqs) :
    seq ∉ info'.receivedPacketSeqs := by
  intro hseq'
  obtain ⟨f, hf, htime⟩ := h ts info hts seq hseq
  obtain ⟨f', hf', htime'⟩ := h ts' info' hts' seq hseq'
  rw [hf] at hf'
  cases hf'
  exact hne (htime'.symm.trans htime)

/-- `t` is `s` without some of the frames of `gone`. -/
structure Shrinks (gone : List UInt32) (s t : H26x) : Prop where
  kept : ∀ ts, ts ∉ gone → t.frames.lookup ts = s.frames.lookup ts
  frames : ∀ ts info, t.frames.lookup ts = some info → s.frames.lookup ts = some info
  fragments : ∀ ts info, t.frames.lookup ts = some info → ∀ seq ∈ info.receivedPacketSeqs,
    t.fragments seq = s.fragments seq
  dropped : ∀ ts, (t.droppedTs.lookup ts).isSome → (s.droppedTs.lookup ts).isSome ∨
    (s.frames.lookup ts).isSome ∧ t.frames.lookup ts = none
  completed : ∀ ts, (t.completedTs.lookup ts).isSome → (s.completedTs.lookup ts).isSome
  receivedInfo : t.receivedInfo = s.receivedInfo
  queued : t.queued = s.queued

theorem Shrinks.refl (gone : List UInt32) (s : H26x) : Shrinks gone s s :=
  ⟨fun _ _ => rfl, fun _ _ h => h, fun _ _ _ _ _ => rfl, fun _ h => .inl h, fun _ h => h, rfl, rfl⟩

theorem Shrinks.trans {gone gone' : List UInt32} {s t u : H26x} (h : Shrinks gone s t)
    (h' : Shrinks gone' t u) : Shrinks (gone ++ gone') s u := by
  refine ⟨?_, ?_, ?_, ?_, ?_, ?_, ?_⟩
  · intro ts hts
    rw [List.mem_append, not_or] at hts
    rw [h'.kept ts hts.2, h.kept ts hts.1]
  · exact fun ts info hu => h.frames ts info (h'.frames ts info hu)
  · intro ts info hu seq hseq
    rw [h'.fragments ts info hu seq hseq, h.fragments ts info (h'.frames ts info hu) seq hseq]
  · intro ts hdropped
    rcases h'.dropped ts hdropped with ht | ⟨ht, hu⟩
    · rcases h.dropped ts ht with hs | ⟨hs, hnone⟩
      · exact .inl hs
      · refine .inr ⟨hs, Option.eq_none_iff_forall_ne_some.mpr fun info hinfo => ?_⟩
        rw [h'.frames ts info hinfo] at hnone
        cases hnone
    · obtain ⟨info, hinfo⟩ := Option.isSome_iff_exists.mp ht
      exact .inr ⟨Option.isSome_iff_exists.mpr ⟨info, h.frames ts info hinfo⟩, hu⟩
  · exact fun ts hu => h.completed ts (h'.completed ts hu)
  · rw [h'.receivedInfo, h.receivedInfo]
  · rw [h'.queued, h.queued]

theorem H26x.Held.dropFrame {s : H26x} (h : s.Held) (ts : UInt32) :
    ∃ t, s.dropFrame ts = .ok t ∧ t.Held ∧ Shrinks [ts] s t ∧ t.frames.lookup ts = none := by
  rw [H26x.dropFrame]
  match hts : s.frames.lookup ts with
  | none => exact ⟨s, rfl, h, Shrinks.refl _ s, hts⟩
  | some info =>
    have hnone : (info.receivedPacketSeqs.filter fun seq => (s.fragments seq).isNone) = ∅ := by
      apply Finset.filter_eq_empty_iff.mpr
      intro seq hseq
      obtain ⟨f, hf, -⟩ := h ts info hts seq hseq
      rw [hf]
      exact Bool.false_ne_true
    dsimp only
    rw [if_pos hnone]
    have hothers : ∀ ts' info', (s.frames.erase ts).lookup ts' = some info' →
        ts' ≠ ts ∧ s.frames.lookup ts' = some info' := by
      intro ts' info' hlookup
      have hne : ts' ≠ ts := by
        rintro rfl
        rw [AList.lookup_erase] at hlookup
        cases hlookup
      rw [AList.lookup_erase_ne hne] at hlookup
      exact ⟨hne, hlookup⟩
    have hslots : ∀ ts' info', (s.frames.erase ts).lookup ts' = some info' →
        ∀ seq ∈ info'.receivedPacketSeqs,
          (if seq ∈ info.receivedPacketSeqs then none else s.fragments seq) = s.fragments seq := by
      intro ts' info' hlookup seq hseq
      obtain ⟨hne, hlookup⟩ := hothers ts' info' hlookup
      exact if_neg fun hin => h.disjoint hts hlookup hne hin hseq
    refine ⟨_, rfl, ?_, ⟨?_, ?_, hslots, ?_, fun _ h => h, rfl, rfl⟩, AList.lookup_erase _ _⟩
    · intro ts' info' hlookup seq hseq
      obtain ⟨f, hf, htime⟩ := h ts' info' (hothers ts' info' hlookup).2 seq hseq
      exact ⟨f, (hslots ts' info' hlookup seq hseq).trans hf, htime⟩
    · intro ts' hts'
      exact AList.lookup_erase_ne (by simpa using hts')
    · exact fun ts' info' hlookup => (hothers ts' info' hlookup).2
    · intro ts' hdropped
      by_cases hne : ts' = ts
      · subst hne
        exact .inr ⟨Option.isSome_iff_exists.mpr ⟨info, hts⟩, AList.lookup_erase _ _⟩
      · rw [AList.lookup_insert_ne hne] at hdropped
        exact .inl hdropped

theorem H26x.Held.dropFrames {s : H26x} (h : s.Held) (gone : List UInt32) :
    ∃ t, gone.foldlM H26x.dropFrame s = .ok t ∧ t.Held ∧ Shrinks gone s t := by
  induction gone generalizing s with
  | nil => exact ⟨s, rfl, h, Shrinks.refl _ s⟩
  | cons ts gone ih =>
    obtain ⟨t, ht, hheld, hshrinks, -⟩ := h.dropFrame ts
    obtain ⟨u, hu, hheld', hshrinks'⟩ := ih hheld
    refine ⟨u, ?_, hheld', hshrinks.trans hshrinks'⟩
    rw [List.foldlM_cons, ht]
    exact hu

theorem lookup_foldl_erase {V : Type} (gone : List UInt32) (table : Table V) (ts : UInt32)
    (h : ((gone.foldl (fun table ts => table.erase ts) table).lookup ts).isSome) :
    (table.lookup ts).isSome := by
  induction gone generalizing table with
  | nil => exact h
  | cons old gone ih =>
    have herase := ih (table.erase old) h
    by_cases hne : ts = old
    · rw [hne, AList.lookup_erase] at herase
      cases herase
    · rwa [AList.lookup_erase_ne hne] at herase

theorem lookup_eraseOld {now : Nat} {table : Table Nat} {ts : UInt32}
    (h : ((eraseOld now table).lookup ts).isSome) : (table.lookup ts).isSome :=
  lookup_foldl_erase _ table ts h

theorem diffNow_self (now : Nat) : diffNow now now = 0 := by
  rw [diffNow, Int.sub_self]
  rfl

theorem mem_lateFrames {timeout now : Nat} {s : H26x} {ts : UInt32}
    (h : ts ∈ lateFrames timeout now s) :
    ∃ info, s.frames.lookup ts = some info ∧ timeout < diffNow now info.sframeTime := by
  obtain ⟨⟨ts', info⟩, hmem, rfl⟩ := List.mem_map.mp h
  obtain ⟨hentry, hlate⟩ := List.mem_filter.mp hmem
  exact ⟨info, AList.mem_lookup_iff.mpr hentry, of_decide_eq_true hlate⟩

theorem H26x.Held.garbageCollect {s : H26x} (h : s.Held) (timeout now : Nat) :
    ∃ t, garbageCollectLostFrames timeout now s = .ok t ∧ t.Held ∧
      Shrinks (lateFrames timeout now s) s t := by
  rw [garbageCollectLostFrames]
  split
  swap
  · exact ⟨s, rfl, h, Shrinks.refl _ s⟩
  obtain ⟨t, ht, hheld, hshrinks⟩ := h.dropFrames (lateFrames timeout now s)
  rw [ht]
  refine ⟨_, rfl, hheld, ⟨hshrinks.kept, hshrinks.frames, hshrinks.fragments, ?_, ?_,
    hshrinks.receivedInfo, hshrinks.queued⟩⟩
  · exact fun ts hdropped => hshrinks.dropped ts (lookup_eraseOld hdropped)
  · exact fun ts hcompleted => hshrinks.completed ts (lookup_eraseOld hcompleted)

/-- When all fragments are there and fit, they are copied one behind the other and freed. -/
theorem copyFragments_eq {is : List UInt16} (hnodup : is.Nodup) (piece : UInt16 → List UInt8)
    {fragments : UInt16 → Option Frame} {room : Nat}
    (hthere : ∀ i ∈ is, ∃ f, fragments i = some f ∧ f.payload.drop 2 = piece i)
    (hroom : (is.flatMap piece).length ≤ room) :
    copyFragments fragments room is =
      .ok (fun i => if i ∈ is then none else fragments i, some (is.flatMap piece)) := by
  induction is generalizing fragments room with
  | nil =>
    rw [copyFragments]
    rfl
  | cons i is ih =>
    obtain ⟨hi, hnodup⟩ := List.nodup_cons.mp hnodup
    obtain ⟨f, hf, hpiece⟩ := hthere i List.mem_cons_self
    rw [List.flatMap_cons, List.length_append] at hroom
    have hrest : ∀ j ∈ is, ∃ g, Function.update fragments i none j = some g ∧
        g.payload.drop 2 = piece j := by
      intro j hj
      obtain ⟨g, hg, hpiece⟩ := hthere j (List.mem_cons_of_mem _ hj)
      refine ⟨g, ?_, hpiece⟩
      rw [Function.update_of_ne (by rintro rfl; exact hi hj), hg]
    rw [copyFragments, hf]
    dsimp only
    rw [hpiece, if_neg (by omega), ih hnodup hrest (by omega)]
    refine congrArg Except.ok (Prod.ext (funext fun j => ?_) rfl)
    by_cases hj : j = i
    · subst hj
      simp only [List.mem_cons, true_or, if_true, hi, if_false, Function.update_self]
    · simp only [List.mem_cons, hj, false_or, Function.update_of_ne hj]

end ConnectUdp.Uvgrtp
