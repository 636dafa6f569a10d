import ConnectUdp.Uvgrtp.H264Pending

/-!
# What one packet does to the receiver

A new fragment is stored, may complete its frame and may have late frames dropped; a packet that
the receiver remembers is turned away.
-/

namespace ConnectUdp.Uvgrtp

open NetworkOrder RtpHeader SequenceNumber Chunks

variable {cfg : Settings} {push : Push} {k now : Nat} {K : Finset Nat} {r t : H26x}
  {info : H26xInfo}

/-! ## Storing a fragment -/

theorem lookup_store_self (r : H26x) (frame : Frame) (info : H26xInfo) :
    (r.store frame info).frames.lookup frame.header.timestamp = some info :=
  AList.lookup_insert _

theorem lookup_store_of_ne (r : H26x) (frame : Frame) (info : H26xInfo) {ts : UInt32}
    (hne : ts ≠ frame.header.timestamp) :
    (r.store frame info).frames.lookup ts = r.frames.lookup ts :=
  AList.lookup_insert_ne hne

/-- The place a fragment is stored in is not one of another frame's. -/
theorem seq_ne_of_held (hheld : r.Held) {frame : Frame}
    (hfree : ∀ f ∈ r.fragments frame.header.seq, f.header.timestamp = frame.header.timestamp)
    {ts : UInt32} (hne : ts ≠ frame.header.timestamp) {info : H26xInfo}
    (hlookup : r.frames.lookup ts = some info) {seq : UInt16}
    (hseq : seq ∈ info.receivedPacketSeqs) : seq ≠ frame.header.seq := by
  rintro rfl
  obtain ⟨f, hf, htime⟩ := hheld ts info hlookup _ hseq
  exact hne (htime.symm.trans (hfree f hf))

theorem H26x.Held.store (hheld : r.Held) (frame : Frame)
    (hfree : ∀ f ∈ r.fragments frame.header.seq, f.header.timestamp = frame.header.timestamp)
    {info : H26xInfo} (hinfo : ∀ seq ∈ info.receivedPacketSeqs, ∃ f,
      (r.store frame info).fragments seq = some f ∧
        f.header.timestamp = frame.header.timestamp) : (r.store frame info).Held := by
  intro ts info' hlookup seq hseq
  by_cases hne : ts = frame.header.timestamp
  · subst hne
    rw [lookup_store_self] at hlookup
    cases hlookup
    exact hinfo seq hseq
  · rw [lookup_store_of_ne r frame info hne] at hlookup
    obtain ⟨f, hf, htime⟩ := hheld ts info' hlookup seq hseq
    refine ⟨f, ?_, htime⟩
    rw [← hf]
    exact Function.update_of_ne (seq_ne_of_held hheld hfree hne hlookup hseq) _ _

theorem Pending.slot_timestamp {fragments : UInt16 → Option Frame}
    (h : Pending push K fragments info) {seq : UInt16} (hseq : seq ∈ info.receivedPacketSeqs) :
    ∃ f, fragments seq = some f ∧ f.header.timestamp = push.header.timestamp := by
  rw [h.seqs] at hseq
  obtain ⟨k, hk, rfl⟩ := Finset.mem_image.mp hseq
  exact ⟨push.fragment k, h.slots k hk, rfl⟩

/-! ## A new fragment -/

/-- The frame is put together and returned. -/
structure Finishes (ts : UInt32) (s t : H26x) : Prop where
  frames : t.frames = s.frames.erase ts
  fragments : ∀ ts' info, ts' ≠ ts → s.frames.lookup ts' = some info →
    ∀ seq ∈ info.receivedPacketSeqs, t.fragments seq = s.fragments seq
  dropped : t.droppedTs = s.droppedTs
  completed : ∀ ts', (t.completedTs.lookup ts').isSome →
    ts' = ts ∨ (s.completedTs.lookup ts').isSome
  receivedInfo : t.receivedInfo = s.receivedInfo
  queued : t.queued = s.queued

theorem Finishes.held {ts : UInt32} (h : Finishes ts r t) (hheld : r.Held) : t.Held := by
  intro ts' info hlookup seq hseq
  rw [h.frames] at hlookup
  have hne : ts' ≠ ts := by
    rintro rfl
    rw [AList.lookup_erase] at hlookup
    cases hlookup
  rw [AList.lookup_erase_ne hne] at hlookup
  rw [h.fragments ts' info hne hlookup seq hseq]
  exact hheld ts' info hlookup seq hseq

/-- Everything is there, and the receiver does not wait for a key frame. -/
theorem reconstruction_eq (cfg : Settings) (hsent : Sent push) (hfew : push.count ≤ maxMsgCount)
    (hcount : 1 < push.count) (hheld : r.Held)
    (hlookup : r.frames.lookup push.header.timestamp = some info)
    (h : Pending push (Finset.range push.count) r.fragments info) (k : Nat) :
    ∃ t f, r.reconstruction cfg (push.fragment k) push.header.timestamp info = .ok (t, .ready f) ∧
      f.payload = startCode cfg ++ push.data ∧ Finishes push.header.timestamp r t := by
  rw [H26x.reconstruction, h.copyFragments_eq hsent hfew hcount]
  refine ⟨_, _, rfl, h.completeFrame_eq hsent cfg k, ⟨rfl, ?_, rfl, ?_, rfl, rfl⟩⟩
  · intro ts' info' hne hlookup' seq hseq
    exact if_neg fun hin => hheld.disjoint hlookup hlookup' hne hin hseq
  · intro ts' hts'
    by_cases hne : ts' = push.header.timestamp
    · exact .inl hne
    · rw [AList.lookup_insert_ne hne] at hts'
      exact .inr hts'

theorem completed_eq (cfg : Settings) (hsent : Sent push) (hfew : push.count ≤ maxMsgCount)
    (hcount : 1 < push.count) (hheld : r.Held)
    (hlookup : r.frames.lookup push.header.timestamp = some info)
    (h : Pending push (Finset.range push.count) r.fragments info) (k : Nat) :
    (∃ t f, r.completed cfg (push.fragment k) push.header.timestamp info = .ok (t, .ready f) ∧
      f.payload = startCode cfg ++ push.data ∧ Finishes push.header.timestamp r t) ∨
    (∃ t, r.completed cfg (push.fragment k) push.header.timestamp info = .ok (t, .error) ∧
      t.Held ∧ Shrinks [push.header.timestamp] r t ∧
        t.frames.lookup push.header.timestamp = none) := by
  rw [H26x.completed]
  split
  swap
  · exact .inl (reconstruction_eq cfg hsent hfew hcount hheld hlookup h k)
  split
  · obtain ⟨t, ht, hheld', hshrinks, hnone⟩ := hheld.dropFrame push.header.timestamp
    rw [ht]
    exact .inr ⟨t, rfl, hheld', hshrinks, hnone⟩
  · -- A key frame: only the flag differs, which nothing here depends on.
    obtain ⟨t, f, ht, hpayload, hfinishes⟩ := reconstruction_eq (r :=
      { r with discardUntilKeyFrame := false }) cfg hsent hfew hcount hheld hlookup h k
    exact .inl ⟨t, f, ht, hpayload, hfinishes.frames, hfinishes.fragments, hfinishes.dropped,
      hfinishes.completed, hfinishes.receivedInfo, hfinishes.queued⟩
  · exact .inl (reconstruction_eq cfg hsent hfew hcount hheld hlookup h k)

def entryOf (r : H26x) (push : Push) (now : Nat) : H26xInfo :=
  (r.frames.lookup push.header.timestamp).getD (newInfo push.kind now)

def storedInfo (r : H26x) (push : Push) (k now : Nat) : H26xInfo :=
  (entryOf r push now).received (fragType push.count k) (push.seqAt k)
    ((push.fragment k).payload.length - 2)

def stored (r : H26x) (push : Push) (k now : Nat) : H26x :=
  r.store (push.fragment k) (storedInfo r push k now)

theorem lookup_stored (r : H26x) (push : Push) (k now : Nat) :
    (stored r push k now).frames.lookup push.header.timestamp = some (storedInfo r push k now) :=
  lookup_store_self r (push.fragment k) _

/-- A fragment that is new to the receiver and finds its place free. -/
structure Arrives (r : H26x) (push : Push) (K : Finset Nat) (k now : Nat) : Prop where
  sent : Sent push
  few : push.count ≤ maxMsgCount
  many : 1 < push.count
  lt : k < push.count
  held : r.Held
  entry : Pending push K r.fragments (entryOf r push now)
  new : k ∉ K
  free : ∀ f ∈ r.fragments (push.seqAt k), f.header.timestamp = push.header.timestamp

theorem Arrives.pending (h : Arrives r push K k now) :
    Pending push (insert k K) (stored r push k now).fragments (storedInfo r push k now) :=
  h.entry.receive h.few h.many h.lt h.new

theorem Arrives.held_stored (h : Arrives r push K k now) : (stored r push k now).Held :=
  h.held.store (push.fragment k) h.free fun _ hseq => h.pending.slot_timestamp hseq

-- What the receiver does with the fragment.
inductive Outcome (cfg : Settings) (r : H26x) (push : Push) (K : Finset Nat) (k now : Nat)
    (t : H26x) : Result → Prop
  | ready (f : Frame) (payload : f.payload = startCode cfg ++ push.data)
      (complete : insert k K = Finset.range push.count)
      (finishes : Finishes push.header.timestamp (stored r push k now) t) :
      Outcome cfg r push K k now t (.ready f)
  -- The frame was complete but depends on one that was lost.
  | refused (held : t.Held) (complete : insert k K = Finset.range push.count)
      (shrinks : Shrinks [push.header.timestamp] (stored r push k now) t)
      (gone : t.frames.lookup push.header.timestamp = none) : Outcome cfg r push K k now t .error
  -- A frame that has just begun is not late.
  | waits (held : t.Held) (incomplete : insert k K ≠ Finset.range push.count)
      (gone : List UInt32) (shrinks : Shrinks gone (stored r push k now) t)
      (late : push.header.timestamp ∈ gone → (r.frames.lookup push.header.timestamp).isSome) :
      Outcome cfg r push K k now t .ok

theorem sframeTime_received (info : H26xInfo) (type : FragType) (seq : UInt16) (size : Nat) :
    (info.received type seq size).sframeTime = info.sframeTime := by
  cases type <;> rfl

theorem Arrives.handleFragment (h : Arrives r push K k now) (cfg : Settings) :
    ∃ t result, r.handleFragment cfg now (push.fragment k) (fragType push.count k) =
      .ok (t, result) ∧ Outcome cfg r push K k now t result := by
  have hkind : getNalType (push.fragment k).payload = push.kind := getNalType_fragment push k
  have hnotin : push.seqAt k ∉ (entryOf r push now).receivedPacketSeqs :=
    mt (h.entry.mem_iff h.few h.lt).mp h.new
  have hcomplete := h.pending.complete_iff h.few h.many
  have hunfold : r.handleFragment cfg now (push.fragment k) (fragType push.count k) =
      if (storedInfo r push k now).startReceived ∧ (storedInfo r push k now).endReceived ∧
          (storedInfo r push k now).expectedFus =
            (storedInfo r push k now).receivedPacketSeqs.card then
        (stored r push k now).completed cfg (push.fragment k) push.header.timestamp
          (storedInfo r push k now)
      else (garbageCollectLostFrames cfg.pktMaxDelay now (stored r push k now)).map
        fun s => (s, .ok) := by
    rw [H26x.handleFragment]
    simp only [hkind]
    exact (if_neg hnotin).trans (if_neg (not_not.mpr h.entry.nalType))
  rw [hunfold]
  by_cases hall : insert k K = Finset.range push.count
  · rw [if_pos (hcomplete.mpr hall)]
    rcases completed_eq cfg h.sent h.few h.many h.held_stored (lookup_stored r push k now)
      (hall ▸ h.pending) k with ⟨t, f, ht, hpayload, hfinishes⟩ | ⟨t, ht, hheld, hshrinks, hnone⟩
    · exact ⟨t, _, ht, .ready f hpayload hall hfinishes⟩
    · exact ⟨t, _, ht, .refused hheld hall hshrinks hnone⟩
  · rw [if_neg (mt hcomplete.mp hall)]
    obtain ⟨t, ht, hheld, hshrinks⟩ := h.held_stored.garbageCollect cfg.pktMaxDelay now
    rw [ht]
    refine ⟨t, _, rfl, .waits hheld hall _ hshrinks fun hin => ?_⟩
    obtain ⟨info, hlookup, hlate⟩ := mem_lateFrames hin
    rw [lookup_stored, Option.some.injEq] at hlookup
    rw [← hlookup, storedInfo, sframeTime_received, entryOf] at hlate
    match hentry : r.frames.lookup push.header.timestamp with
    | some _ => rfl
    | none =>
      rw [hentry, Option.getD_none, newInfo, diffNow_self] at hlate
      exact absurd hlate (Nat.not_lt_zero _)

/-! ## Packets the receiver turns away, and the others -/

theorem packetHandler_duplicate (cfg : Settings) (now : Nat) (frame : Frame)
    (h : r.isDuplicate frame.header.timestamp frame.header.seq = true) :
    r.packetHandler cfg now frame = .ok (r, .error) :=
  if_pos h

theorem packetHandler_gone (cfg : Settings) (now : Nat) (frame : Frame) {type : FragType}
    (hnew : r.isDuplicate frame.header.timestamp frame.header.seq = false)
    (htype : getFragmentType frame.payload = .ok type)
    (hgone : (r.droppedTs.lookup frame.header.timestamp).isSome ∨
      (r.completedTs.lookup frame.header.timestamp).isSome) :
    r.packetHandler cfg now frame =
      .ok (r.recordReceived frame.header.timestamp frame.header.seq, .error) := by
  simp only [H26x.packetHandler, hnew, Bool.false_eq_true, if_false, htype,
    recordReceived_droppedTs, recordReceived_completedTs, if_pos hgone]

theorem packetHandler_dispatch (cfg : Settings) (now : Nat) (frame : Frame) {type : FragType}
    (hnew : r.isDuplicate frame.header.timestamp frame.header.seq = false)
    (htype : getFragmentType frame.payload = .ok type)
    (hgone : ¬ ((r.droppedTs.lookup frame.header.timestamp).isSome ∨
      (r.completedTs.lookup frame.header.timestamp).isSome)) :
    r.packetHandler cfg now frame =
      (r.recordReceived frame.header.timestamp frame.header.seq).dispatch cfg now frame type := by
  simp only [H26x.packetHandler, hnew, Bool.false_eq_true, if_false, htype,
    recordReceived_droppedTs, recordReceived_completedTs, if_neg hgone]

theorem dispatch_fragType (cfg : Settings) (now : Nat) (r : H26x) (frame : Frame) (count k : Nat) :
    r.dispatch cfg now frame (fragType count k) =
      r.handleFragment cfg now frame (fragType count k) := by
  rw [fragType]
  split
  · rfl
  · split <;> rfl

-- `t` is `r` that has seen one more packet, and no more.
structure Learns (ts : UInt32) (seq : UInt16) (r t : H26x) : Prop where
  frames : t.frames = r.frames
  fragments : t.fragments = r.fragments
  droppedTs : t.droppedTs = r.droppedTs
  completedTs : t.completedTs = r.completedTs
  known : ∀ ts' seq', t.isDuplicate ts' seq' = true →
    r.isDuplicate ts' seq' = true ∨ ts' = ts ∧ seq' = seq

theorem Learns.refl (ts : UInt32) (seq : UInt16) (r : H26x) : Learns ts seq r r :=
  ⟨rfl, rfl, rfl, rfl, fun _ _ h => .inl h⟩

theorem learns_recordReceived (ts : UInt32) (seq : UInt16) (r : H26x) :
    Learns ts seq r (r.recordReceived ts seq) :=
  ⟨by simp, by simp, by simp, by simp, fun _ _ h => isDuplicate_recordReceived h⟩

theorem Learns.held {ts : UInt32} {seq : UInt16} (h : Learns ts seq r t) (hheld : r.Held) :
    t.Held := by
  rw [H26x.Held, h.frames, h.fragments]
  exact hheld

theorem getFragmentType_single {data : List UInt8} (h : SingleNal data) :
    getFragmentType data = .ok .notFrag := by
  match data, h with
  | nalHeader :: next :: rest, h =>
    rw [getFragmentType, if_neg h.1, if_neg h.2.1, if_pos h.2.2]

end ConnectUdp.Uvgrtp
