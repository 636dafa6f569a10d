import ConnectUdp.Uvgrtp.H264Safety

/-!
# The first cycle of sequence numbers

As long as no more than `2 ^ 16` datagrams are sent their numbers are all different.  No fragment
then takes the place of another one and the receiver forgets nothing it has seen, so the session is
safe whatever the network does.
-/

namespace ConnectUdp.Uvgrtp

open NetworkOrder RtpHeader SequenceNumber Transition

variable {cfg : Settings} {s : Session} {p q j k now : Nat} {push : Push} {r t u : H26x}
  {frame : Frame} {type : FragType} {ts : UInt32} {seq : UInt16}

/-! ## What the receiver stores of a packet -/

/-- Nothing is stored and nothing is learnt of packets. -/
structure Frees (r t : H26x) : Prop where
  fragments : ∀ seq f, t.fragments seq = some f → r.fragments seq = some f
  receivedInfo : t.receivedInfo = r.receivedInfo
  receivedFrames : t.receivedFrames = r.receivedFrames

/-- Nothing is stored but the packet itself. -/
structure Stores (frame : Frame) (r t : H26x) : Prop where
  fragments : ∀ seq f, t.fragments seq = some f →
    r.fragments seq = some f ∨ seq = frame.header.seq ∧ f = frame
  receivedInfo : t.receivedInfo = r.receivedInfo
  receivedFrames : t.receivedFrames = r.receivedFrames

theorem Frees.refl (r : H26x) : Frees r r :=
  ⟨fun _ _ h => h, rfl, rfl⟩

theorem Frees.trans (h : Frees r t) (h' : Frees t u) : Frees r u :=
  ⟨fun seq f hf => h.fragments seq f (h'.fragments seq f hf), h'.receivedInfo.trans h.receivedInfo,
    h'.receivedFrames.trans h.receivedFrames⟩

theorem Frees.stores (h : Frees r t) (frame : Frame) : Stores frame r t :=
  ⟨fun seq f hf => .inl (h.fragments seq f hf), h.receivedInfo, h.receivedFrames⟩

theorem Stores.frees (h : Stores frame r t) (h' : Frees t u) : Stores frame r u :=
  ⟨fun seq f hf => h.fragments seq f (h'.fragments seq f hf), h'.receivedInfo.trans h.receivedInfo,
    h'.receivedFrames.trans h.receivedFrames⟩

theorem dropFrame_frees (h : r.dropFrame ts = .ok t) : Frees r t := by
  rw [H26x.dropFrame] at h
  split at h
  · cases h
    exact Frees.refl r
  split at h
  · cases h
    refine ⟨fun seq f hf => ?_, rfl, rfl⟩
    dsimp only at hf
    split at hf
    · cases hf
    · exact hf
  · cases h

theorem dropFrames_frees {gone : List UInt32} (h : gone.foldlM H26x.dropFrame r = .ok t) :
    Frees r t := by
  induction gone generalizing r with
  | nil =>
    cases h
    exact Frees.refl t
  | cons ts gone ih =>
    rw [List.foldlM_cons] at h
    obtain ⟨u, hu, hrest⟩ := bind_eq_ok h
    exact (dropFrame_frees hu).trans (ih hrest)

theorem garbageCollect_frees {timeout : Nat}
    (h : garbageCollectLostFrames timeout now r = .ok t) : Frees r t := by
  rw [garbageCollectLostFrames] at h
  split at h
  · obtain ⟨u, hu, rfl⟩ := map_eq_ok h
    have hfrees := dropFrames_frees hu
    exact ⟨hfrees.fragments, hfrees.receivedInfo, hfrees.receivedFrames⟩
  · cases h
    exact Frees.refl r

theorem copyFragments_frees {is : List UInt16} {fragments fragments' : UInt16 → Option Frame}
    {room : Nat} {copied : Option (List UInt8)}
    (h : copyFragments fragments room is = .ok (fragments', copied)) (seq : UInt16) (f : Frame)
    (hf : fragments' seq = some f) : fragments seq = some f := by
  induction is generalizing fragments room copied with
  | nil =>
    cases h
    exact hf
  | cons i is ih =>
    rw [copyFragments] at h
    split at h
    · cases h
      exact hf
    dsimp only at h
    split at h
    · cases h
    obtain ⟨⟨fragments'', copied'⟩, hrest, heq⟩ := map_eq_ok h
    cases heq
    have hbefore := ih hrest
    by_cases hseq : seq = i
    · rw [hseq, Function.update_self] at hbefore
      cases hbefore
    · rwa [Function.update_of_ne hseq] at hbefore

theorem reconstruction_frees {info : H26xInfo} {result : Result}
    (h : r.reconstruction cfg frame ts info = .ok (t, result)) : Frees r t := by
  rw [H26x.reconstruction] at h
  split at h
  · cases h
  next hcopy =>
    cases h
    exact ⟨copyFragments_frees hcopy, rfl, rfl⟩
  next hcopy =>
    cases h
    exact ⟨copyFragments_frees hcopy, rfl, rfl⟩

theorem completed_frees {info : H26xInfo} {result : Result}
    (h : r.completed cfg frame ts info = .ok (t, result)) : Frees r t := by
  rw [H26x.completed] at h
  split at h
  swap
  · exact reconstruction_frees h
  split at h
  · obtain ⟨u, hu, heq⟩ := map_eq_ok h
    cases heq
    exact dropFrame_frees hu
  · have hfrees := reconstruction_frees h
    exact ⟨hfrees.fragments, hfrees.receivedInfo, hfrees.receivedFrames⟩
  · exact reconstruction_frees h

theorem store_stores (r : H26x) (frame : Frame) (info : H26xInfo) :
    Stores frame r (r.store frame info) := by
  refine ⟨fun seq f hf => ?_, rfl, rfl⟩
  change Function.update r.fragments frame.header.seq (some frame) seq = some f at hf
  by_cases hseq : seq = frame.header.seq
  · rw [hseq, Function.update_self, Option.some.injEq] at hf
    exact .inr ⟨hseq, hf.symm⟩
  · rw [Function.update_of_ne hseq] at hf
    exact .inl hf

theorem handleFragment_stores {result : Result}
    (h : r.handleFragment cfg now frame type = .ok (t, result)) : Stores frame r t := by
  rw [H26x.handleFragment] at h
  dsimp only at h
  split at h
  · cases h
    exact (Frees.refl r).stores frame
  split at h
  · cases h
    exact (Frees.refl r).stores frame
  split at h
  · exact (store_stores r frame _).frees (completed_frees h)
  · obtain ⟨u, hu, heq⟩ := map_eq_ok h
    cases heq
    exact (store_stores r frame _).frees (garbageCollect_frees hu)

theorem handleAggregationPacket_frees {headerSize : Nat} {result : Result}
    (h : handleAggregationPacket cfg r frame headerSize = .ok (t, result)) : Frees r t := by
  rw [handleAggregationPacket] at h
  split at h
  · cases h
  · cases h
    exact Frees.refl r
  · obtain ⟨frames, -, heq⟩ := map_eq_ok h
    cases heq
    exact ⟨fun _ _ hf => hf, rfl, rfl⟩

theorem dispatch_stores {result : Result} (h : r.dispatch cfg now frame type = .ok (t, result)) :
    Stores frame r t := by
  cases type with
  | aggr => exact (handleAggregationPacket_frees h).stores frame
  | stapB => exact (handleAggregationPacket_frees h).stores frame
  | notFrag =>
    cases h
    exact (Frees.refl r).stores frame
  | invalid =>
    cases h
    exact (Frees.refl r).stores frame
  | start => exact handleFragment_stores h
  | middle => exact handleFragment_stores h
  | last => exact handleFragment_stores h

theorem packetHandler_stores {result : Result}
    (hnew : r.isDuplicate frame.header.timestamp frame.header.seq = false)
    (h : r.packetHandler cfg now frame = .ok (t, result)) :
    Stores frame (r.recordReceived frame.header.timestamp frame.header.seq) t := by
  rw [H26x.packetHandler, hnew] at h
  dsimp only at h
  rw [if_neg Bool.false_ne_true] at h
  split at h
  · cases h
  split at h
  · cases h
    exact (Frees.refl _).stores frame
  · exact dispatch_stores h

/-- As long as there is room, everything that was received is remembered. -/
theorem isDuplicate_recordReceived_of_lt (hroom : r.receivedFrames.length < receivedFramesMax)
    (ts ts' : UInt32) (seq seq' : UInt16)
    (h : r.isDuplicate ts' seq' = true ∨ ts' = ts ∧ seq' = seq) :
    (r.recordReceived ts seq).isDuplicate ts' seq' = true := by
  have hlength : ¬ (r.receivedFrames ++ [(ts, seq)]).length > receivedFramesMax := by
    rw [List.length_append, List.length_singleton]
    omega
  rw [H26x.recordReceived, if_neg hlength, H26x.isDuplicate]
  by_cases hts : ts' = ts
  · subst hts
    rw [AList.lookup_insert, Option.getD_some, List.contains_iff_mem, List.mem_append,
      List.mem_singleton]
    exact h.imp List.contains_iff_mem.mp And.right
  · rw [AList.lookup_insert_ne hts]
    exact h.resolve_right fun heq => hts heq.1

theorem length_recordReceived (r : H26x) (ts : UInt32) (seq : UInt16) :
    (r.recordReceived ts seq).receivedFrames.length ≤ r.receivedFrames.length + 1 := by
  rw [H26x.recordReceived]
  split
  · rw [List.length_tail, List.length_append, List.length_singleton]
    exact Nat.sub_le _ _
  · rw [List.length_append, List.length_singleton]

theorem processPacket_stores {d : List UInt8} {frames : List Frame}
    (hd : packetHandler d = .ok (.modified frame))
    (hnew : r.isDuplicate frame.header.timestamp frame.header.seq = false)
    (h : processPacket cfg now r d = .ok (t, frames)) :
    Stores frame (r.recordReceived frame.header.timestamp frame.header.seq) t := by
  rw [processPacket, hd] at h
  dsimp only at h
  split at h
  · cases h
  next hr =>
    cases h
    exact packetHandler_stores hnew hr
  next hr =>
    cases h
    exact (packetHandler_stores hnew hr).frees ⟨fun _ _ hf => hf, rfl, rfl⟩
  next hr =>
    cases h
    exact packetHandler_stores hnew hr

theorem processPacket_duplicate {d : List UInt8} (hd : packetHandler d = .ok (.modified frame))
    (hdup : r.isDuplicate frame.header.timestamp frame.header.seq = true) :
    processPacket cfg now r d = .ok (r, []) := by
  rw [processPacket, hd]
  dsimp only
  rw [packetHandler_duplicate cfg now frame hdup]

/-! ## The places of the datagrams -/

def datagramsBefore (pushes : List Push) (p : Nat) : Nat :=
  ((pushes.take p).map fun push => push.datagrams.length).sum

theorem datagramsBefore_succ {pushes : List Push} (hp : pushes[p]? = some push) :
    datagramsBefore pushes (p + 1) = datagramsBefore pushes p + push.datagrams.length := by
  rw [datagramsBefore, List.take_add_one, hp, List.map_append, List.sum_append]
  rfl

theorem datagramsBefore_mono (pushes : List Push) : Monotone (datagramsBefore pushes) := by
  apply monotone_nat_of_le_succ
  intro p
  match hp : pushes[p]? with
  | some push =>
    rw [datagramsBefore_succ hp]
    exact Nat.le_add_right _ _
  | none =>
    rw [datagramsBefore, datagramsBefore, List.take_add_one, hp, Option.toList_none,
      List.append_nil]

theorem datagramsBefore_concat (pushes : List Push) (push : Push) (hp : p ≤ pushes.length) :
    datagramsBefore (pushes ++ [push]) p = datagramsBefore pushes p := by
  rw [datagramsBefore, List.take_append_of_le_length hp]
  rfl

theorem place_lt {pushes : List Push} (hp : pushes[p]? = some push)
    (hk : k < push.datagrams.length) (hpq : p < q) :
    datagramsBefore pushes p + k < datagramsBefore pushes q := by
  have hsucc := datagramsBefore_succ hp
  have hmono := datagramsBefore_mono pushes (show p + 1 ≤ q from hpq)
  omega

/-- No two datagrams have the same place. -/
theorem place_inj {pushes : List Push} {a b : Push} (ha : pushes[p]? = some a)
    (hb : pushes[q]? = some b) (hj : j < a.datagrams.length) (hk : k < b.datagrams.length)
    (heq : datagramsBefore pushes p + j = datagramsBefore pushes q + k) : p = q ∧ j = k := by
  rcases Nat.lt_trichotomy p q with hpq | rfl | hpq
  · have := place_lt ha hj hpq
    omega
  · omega
  · have := place_lt hb hk hpq
    omega

/-! ## What the sender must keep to -/

def Session.total (s : Session) : Nat :=
  datagramsBefore s.pushes s.pushes.length

-- Nothing is asked of the network.
def Session.SendOk (s : Session) : SessionAct → Prop
  | .push data now random =>
    data ≠ [] → 3 ≤ s.rtp.payloadSize.toNat ∧
      (payloadsOf s.rtp.payloadSize data).length ≤ maxMsgCount ∧
      s.total + (payloadsOf s.rtp.payloadSize data).length ≤ 2 ^ 16 ∧
      (data.length ≤ s.rtp.payloadSize.toNat → SingleNal data) ∧
      ∀ a ∈ s.pushes, a.header.timestamp = (pushHeader s.rtp now random).timestamp →
        a.datagrams.length ≤ 1 ∧ (payloadsOf s.rtp.payloadSize data).length ≤ 1
  | .deliver .. => True

instance Session.SendOk.decidable (s : Session) : ∀ a, Decidable (s.SendOk a)
  | .push .. => inferInstanceAs (Decidable (_ → _))
  | .deliver .. => isTrue trivial

/-- The numbers of the datagrams follow one another from `first` on, the fragments that wait keep
their own places, and everything that has arrived is remembered. -/
structure Cycle (first : UInt16) (s : Session) : Prop where
  total : s.total ≤ 2 ^ 16
  following : s.rtp.seq = after first s.total
  numbers : ∀ (p : Nat) (push : Push), s.pushes[p]? = some push →
    push.header.seq = after first (datagramsBefore s.pushes p)
  places : ∀ seq f, s.receiver.fragments seq = some f → ∃ (p : Nat) (push : Push) (k : Nat),
    s.pushes[p]? = some push ∧ k < push.datagrams.length ∧ push.seqAt k = seq ∧
      f.header.timestamp = push.header.timestamp
  known : ∀ (p : Nat) (push : Push) (k : Nat), s.pushes[p]? = some push → (p, k) ∈ s.arrived →
    s.receiver.isDuplicate push.header.timestamp (push.seqAt k) = true
  few : s.receiver.receivedFrames.length ≤ s.arrived.card

variable {first : UInt16}

theorem Cycle.seqAt_eq (h : Cycle first s) (hp : s.pushes[p]? = some push) (k : Nat) :
    push.seqAt k = after first (datagramsBefore s.pushes p + k) := by
  rw [Push.seqAt, h.numbers p push hp, after_add]

theorem Cycle.place_lt_total (h : Cycle first s) (hp : s.pushes[p]? = some push)
    (hk : k < push.datagrams.length) : datagramsBefore s.pushes p + k < 2 ^ 16 :=
  Nat.lt_of_lt_of_le (place_lt hp hk (List.getElem?_eq_some_iff.mp hp).1) h.total

/-- No two datagrams have the same number. -/
theorem Cycle.eq_of_seq (h : Cycle first s) {a b : Push} (ha : s.pushes[p]? = some a)
    (hb : s.pushes[q]? = some b) (hj : j < a.datagrams.length) (hk : k < b.datagrams.length)
    (hseq : a.seqAt j = b.seqAt k) : p = q ∧ j = k := by
  rw [h.seqAt_eq ha, h.seqAt_eq hb,
    after_inj (h.place_lt_total ha hj) (h.place_lt_total hb hk)] at hseq
  exact place_inj ha hb hj hk hseq

theorem Cycle.card_arrived (h : Cycle first s) (hi : Inv cfg s) : s.arrived.card ≤ 2 ^ 16 := by
  have hpush : ∀ pk ∈ s.arrived, ∃ push, s.pushes[pk.1]? = some push ∧
      pk.2 < push.datagrams.length := by
    rintro ⟨p, k⟩ hpk
    obtain ⟨ps, hps, -⟩ := hi.consistent.arrived p k hpk
    obtain ⟨push, hp, -⟩ := Option.map_eq_some_iff.mp hps
    exact ⟨push, hp, hi.lt_of_arrived hp hpk⟩
  rw [← Finset.card_range (2 ^ 16)]
  refine Finset.card_le_card_of_injOn (fun pk => datagramsBefore s.pushes pk.1 + pk.2) ?_ ?_
  · intro pk hpk
    obtain ⟨push, hp, hk⟩ := hpush pk hpk
    exact Finset.mem_coe.mpr (Finset.mem_range.mpr (h.place_lt_total hp hk))
  · intro pj hpj qk hqk heq
    obtain ⟨a, ha, hj⟩ := hpush pj hpj
    obtain ⟨b, hb, hk⟩ := hpush qk hqk
    exact Prod.ext_iff.mpr (place_inj ha hb hj hk heq)

/-! ## The steps -/

theorem Cycle.pushOk (h : Cycle first s) (hi : Inv cfg s) {data : List UInt8} {random : UInt32}
    (hok : s.SendOk (.push data now random)) : s.PushOk data now random := by
  intro hdata
  obtain ⟨hsize, hfew, htotal, hsingle, hapart⟩ := hok hdata
  refine ⟨hsize, hfew, hsingle, fun a ha hts => ?_⟩
  obtain ⟨hone, hone'⟩ := hapart a ha hts
  obtain ⟨p, hp, rfl⟩ := List.getElem_of_mem ha
  have hp' : s.pushes[p]? = some s.pushes[p] := List.getElem?_eq_getElem hp
  refine ⟨hone, (length_flushQueue _ _).trans_le hone', ?_⟩
  -- The new packet is behind all the others.
  have hplace := place_lt hp' (hi.sent p _ hp').length_pos hp
  have hpos := (sent_of now random hdata hsize hfew hsingle).length_pos
  rw [Push.of, length_flushQueue] at hpos
  change datagramsBefore s.pushes p + 0 < s.total at hplace
  rw [h.numbers p _ hp', show (Push.of s.rtp data now random).header.seq = s.rtp.seq from
    s.rtp.started_seq now random, h.following, Ne, after_inj (by omega) (by omega)]
  omega

theorem Cycle.step_push (h : Cycle first s) (hi : Inv cfg s) {data : List UInt8} {random : UInt32}
    (hok : s.SendOk (.push data now random)) (hpush : s.PushOk data now random) :
    Cycle first (s.push data now random) := by
  by_cases hdata : data = []
  · subst hdata
    exact h
  obtain ⟨-, -, htotal, -⟩ := hok hdata
  obtain ⟨rtp, hseq, hstep⟩ := Session.push_eq hdata hpush
  have hsame : ∀ p ≤ s.pushes.length, datagramsBefore (s.pushes ++ [Push.of s.rtp data now random])
      p = datagramsBefore s.pushes p := fun p hp => datagramsBefore_concat s.pushes _ hp
  have hnext : (s.pushed rtp (Push.of s.rtp data now random)).total =
      s.total + (payloadsOf s.rtp.payloadSize data).length := by
    rw [Session.total, Session.pushed, List.length_append, List.length_singleton,
      datagramsBefore_succ (getElem?_concat_eq_some.mpr (.inr ⟨rfl, rfl⟩)), hsame _ (le_refl _),
      Push.of, length_flushQueue]
    rfl
  rw [hstep]
  refine ⟨hnext ▸ htotal, ?_, ?_, ?_, ?_, h.few⟩
  · rw [hnext, ← after_add, ← h.following]
    exact hseq
  · intro p push hp
    rcases getElem?_concat_eq_some.mp hp with hp | ⟨rfl, rfl⟩
    · rw [h.numbers p push hp]
      exact congrArg (after first) (hsame p (List.getElem?_eq_some_iff.mp hp).1.le).symm
    · rw [show (Push.of s.rtp data now random).header.seq = s.rtp.seq from
        s.rtp.started_seq now random, h.following]
      exact congrArg (after first) (hsame _ (le_refl _)).symm
  · intro seq f hf
    obtain ⟨p, push, k, hp, hrest⟩ := h.places seq f hf
    exact ⟨p, push, k, getElem?_concat_eq_some.mpr (.inl hp), hrest⟩
  · intro p push k hp hk
    rcases getElem?_concat_eq_some.mp hp with hp | ⟨rfl, rfl⟩
    · exact h.known p push k hp hk
    · exact absurd hk (hi.not_arrived k)

theorem Cycle.deliverOk (h : Cycle first s) (hp : s.pushes[p]? = some push)
    (hk : k < push.datagrams.length) : s.DeliverOk p k := by
  intro a ha
  cases hp.symm.trans ha
  refine ⟨fun harrived => ?_, fun _ _ f hf => ?_⟩
  · rw [H26x.remembers, h.known p push k hp harrived]
    rfl
  · obtain ⟨q, b, j, hb, hj, hseq, hts⟩ := h.places _ f hf
    obtain ⟨rfl, -⟩ := h.eq_of_seq hb hp hj hk hseq
    cases hb.symm.trans hp
    exact hts

theorem Sent.packetHandler (h : Sent push) {d : List UInt8} (hd : push.datagrams[k]? = some d) :
    ∃ frame, packetHandler d = .ok (.modified frame) ∧
      frame.header.timestamp = push.header.timestamp ∧ frame.header.seq = push.seqAt k := by
  by_cases hmany : 1 < push.datagrams.length
  · exact ⟨_, h.packetHandler_fragment hmany hd, rfl, rfl⟩
  · obtain ⟨rfl, -, hparse⟩ := h.packetHandler_single hmany hd
    exact ⟨_, hparse, rfl, rfl⟩

theorem Cycle.step_deliver (h : Cycle first s) (hi : Inv cfg s)
    (hp : s.pushes[p]? = some push) {d : List UInt8} (hd : push.datagrams[k]? = some d)
    (now : Nat) : Cycle first (s.deliver cfg p k now d) := by
  have hk := (List.getElem?_eq_some_iff.mp hd).1
  obtain ⟨frame, hparse, hts, hseq⟩ := (hi.sent p push hp).packetHandler hd
  by_cases harrived : (p, k) ∈ s.arrived
  · have hdup : s.receiver.isDuplicate frame.header.timestamp frame.header.seq = true := by
      rw [hts, hseq]
      exact h.known p push k hp harrived
    rw [deliver_eq (processPacket_duplicate hparse hdup), advanced_of_same_frames rfl,
      Finset.insert_eq_of_mem harrived]
    exact ⟨h.total, h.following, h.numbers, h.places, h.known, h.few⟩
  have hnew : s.receiver.isDuplicate frame.header.timestamp frame.header.seq = false := by
    rw [hts, hseq]
    exact hi.not_duplicate hp hk harrived
  have hroom : s.receiver.receivedFrames.length < receivedFramesMax :=
    Nat.lt_of_le_of_lt (h.few.trans (h.card_arrived hi)) (by decide)
  match hprocess : processPacket cfg now s.receiver d with
  | .error fault =>
    rw [Session.deliver, hprocess]
    exact ⟨h.total, h.following, h.numbers, h.places, h.known, h.few⟩
  | .ok (t, frames) =>
    have hstores := processPacket_stores hparse hnew hprocess
    rw [deliver_eq hprocess]
    refine ⟨h.total, h.following, h.numbers, ?_, ?_, ?_⟩
    · intro seq f hf
      rcases hstores.fragments seq f hf with hf | ⟨rfl, rfl⟩
      · rw [recordReceived_fragments] at hf
        exact h.places seq f hf
      · exact ⟨p, push, k, hp, hk, hseq.symm, hts⟩
    · intro q b j hb hj
      change t.isDuplicate b.header.timestamp (b.seqAt j) = true
      rw [H26x.isDuplicate, hstores.receivedInfo]
      apply isDuplicate_recordReceived_of_lt hroom
      rcases Finset.mem_insert.mp hj with heq | hj
      · obtain ⟨rfl, rfl⟩ := Prod.mk.inj heq
        cases hp.symm.trans hb
        exact .inr ⟨hts.symm, hseq.symm⟩
      · exact .inl (h.known q b j hb hj)
    · change t.receivedFrames.length ≤ (insert (p, k) s.arrived).card
      rw [hstores.receivedFrames, Finset.card_insert_of_notMem harrived]
      exact (length_recordReceived _ _ _).trans (Nat.succ_le_succ h.few)

/-! ## Runs -/

theorem cycle_init (h : s.init) : Cycle s.rtp.seq s := by
  obtain ⟨rtp, now, rfl⟩ := h
  refine ⟨Nat.zero_le _, (after_zero _).symm, ?_, ?_, ?_, Nat.zero_le _⟩
  · intro p push hp
    cases hp
  · intro seq f hf
    cases hf
  · intro p push k hp
    cases hp

theorem Inv.deliver_of_next (hi : Inv cfg s) {u : Session}
    (hn : s.next cfg (.deliver p k now) = some u) : ∃ push d, s.pushes[p]? = some push ∧
      push.datagrams[k]? = some d ∧ u = s.deliver cfg p k now d := by
  rw [Session.next, hi.running, if_neg Bool.false_ne_true, Option.map_eq_some_iff] at hn
  obtain ⟨d, hd, rfl⟩ := hn
  obtain ⟨push, hp, hd⟩ := Option.bind_eq_some_iff.mp hd
  exact ⟨push, d, hp, hd, rfl⟩

theorem Cycle.stepOk (h : Cycle first s) (hi : Inv cfg s) {a : SessionAct} (hok : s.SendOk a)
    {u : Session} (hn : s.next cfg a = some u) : s.StepOk a := by
  cases a with
  | push data now random => exact h.pushOk hi hok
  | deliver p k now =>
    obtain ⟨push, d, hp, hd, -⟩ := hi.deliver_of_next hn
    exact h.deliverOk hp (List.getElem?_eq_some_iff.mp hd).1

theorem Cycle.step (h : Cycle first s) (hi : Inv cfg s) {a : SessionAct} (hok : s.SendOk a)
    {u : Session} (hn : s.next cfg a = some u) : Cycle first u := by
  cases a with
  | push data now random =>
    rw [Session.next, hi.running, if_neg Bool.false_ne_true, Option.some.injEq] at hn
    subst hn
    exact h.step_push hi hok (h.pushOk hi hok)
  | deliver p k now =>
    obtain ⟨push, d, hp, hd, rfl⟩ := hi.deliver_of_next hn
    exact h.step_deliver hi hp hd now

/-- Whatever the network does, the sessions keep to what is asked of every step. -/
theorem stepsOk (h : (Session.machine cfg).ReachableBy Session.SendOk s) :
    (Session.machine cfg).ReachableBy Session.StepOk s := by
  refine (h.strengthen (I := fun s => Inv cfg s ∧ ∃ first, Cycle first s) ?_ ?_ ?_).1
  · exact fun s hs => ⟨inv_init cfg hs, _, cycle_init hs⟩
  · rintro s a t - ⟨hi, first, hcycle⟩ hok hn
    exact ⟨(hi.step (hcycle.stepOk hi hok hn) hn).1, first, hcycle.step hi hok hn⟩
  · rintro s a t ⟨hi, first, hcycle⟩ hok hn
    exact hcycle.stepOk hi hok hn

/-- In the first cycle of sequence numbers, when the pushes meet `SendOk`, no network can make the
receiver fail, return a NAL unit twice or changed, or fail to return one that arrived completely and
was not dropped. -/
theorem firstCycle_safe (h : (Session.machine cfg).ReachableBy Session.SendOk s) :
    s.crashed = false ∧ (s.delivered.map Prod.fst).Nodup ∧
      (∀ p f, (p, f) ∈ s.delivered → ∃ push, s.pushes[p]? = some push ∧
        f.payload = startCode cfg ++ push.data) ∧
      ∀ p push, s.pushes[p]? = some push → (∀ k < push.datagrams.length, (p, k) ∈ s.arrived) →
        p ∉ s.abandoned → p ∈ s.delivered.map Prod.fst := by
  have hsteps := stepsOk h
  have hi := inv_of_reachable hsteps
  have hnodup := (Reassembly.consistent_of_reachable (reassembles hsteps)).nodup
  refine ⟨hi.running, hnodup, hi.frames, fun p push hp hall hnot => ?_⟩
  exact (mem_delivered_iff hsteps hp).mpr ⟨hall, hnot⟩

theorem firstCycle_safe_reordered :
    ∃ s, (Session.machine ⟨false, false, 500⟩).exec idle reordered = some s ∧ s.crashed = false ∧
      (s.delivered.map Prod.fst).Nodup ∧
      (∀ p f, (p, f) ∈ s.delivered → ∃ push, s.pushes[p]? = some push ∧
        f.payload = [0, 0, 1] ++ push.data) ∧
      ∀ p push, s.pushes[p]? = some push → (∀ k < push.datagrams.length, (p, k) ∈ s.arrived) →
        p ∉ s.abandoned → p ∈ s.delivered.map Prod.fst := by
  have hsteps : (Session.machine ⟨false, false, 500⟩).StepsMeet Session.SendOk idle reordered := by
    decide +kernel
  obtain ⟨s, hrun, -⟩ := reordered_exec
  exact ⟨s, hrun, firstCycle_safe
    ((Machine.ReachableBy.start idle_init).of_exec hsteps hrun)⟩

end ConnectUdp.Uvgrtp
