import ConnectUdp.Uvgrtp.H264Delivery

/-!
# Whole sessions

Every step of a session is a step of the reassembly of messages or invisible to it, and keeps the
invariant.  From this follow the properties of all runs.
-/

namespace ConnectUdp.Uvgrtp

open NetworkOrder RtpHeader SequenceNumber Transition

variable {cfg : Settings} {s : Session} {p k now : Nat} {push : Push} {K : Finset Nat}
  {r t : H26x}

/-! ## A new fragment, seen from the session -/

def Result.frames : Result → List Frame
  | .ready frame => [frame]
  | _ => []

section

variable (hl : Learns push.header.timestamp (push.seqAt k) s.receiver r)
  (h : Arrives r push K k now)

include hl

theorem lookup_stored_of_ne {ts : UInt32} (hne : ts ≠ push.header.timestamp) (now : Nat) :
    (stored r push k now).frames.lookup ts = s.receiver.frames.lookup ts := by
  rw [← hl.frames]
  exact lookup_store_of_ne r (push.fragment k) _ hne

include h

theorem Arrives.fragments_stored {ts : UInt32} (hne : ts ≠ push.header.timestamp)
    {info : H26xInfo} (hlookup : s.receiver.frames.lookup ts = some info) {seq : UInt16}
    (hseq : seq ∈ info.receivedPacketSeqs) :
    (stored r push k now).fragments seq = s.receiver.fragments seq := by
  rw [← hl.frames] at hlookup
  rw [← hl.fragments]
  exact Function.update_of_ne (seq_ne_of_held h.held h.free hne hlookup hseq) _ _

/-- The frame waits on, or is dropped with others. -/
theorem Arrives.advances_of_shrinks {gone : List UInt32} (hheld : t.Held)
    (hshrinks : Shrinks gone (stored r push k now) t)
    (hown : (t.frames.lookup push.header.timestamp).isSome →
      insert k K ≠ Finset.range push.count)
    (hlost : t.frames.lookup push.header.timestamp = none →
      (s.receiver.frames.lookup push.header.timestamp).isSome) :
    Advances s push K k t false where
  held := hheld
  known ts seq hdup := by
    rw [H26x.isDuplicate, hshrinks.receivedInfo] at hdup
    exact hl.known ts seq hdup
  others ts info hne hlookup := by
    have hbefore := hshrinks.frames ts info hlookup
    rw [lookup_stored_of_ne hl hne] at hbefore
    refine ⟨hbefore, fun seq hseq => ?_⟩
    rw [hshrinks.fragments ts info hlookup seq hseq]
    exact h.fragments_stored hl hne hbefore hseq
  own info hlookup := by
    have hinfo := hshrinks.frames _ info hlookup
    rw [lookup_stored, Option.some.injEq] at hinfo
    subst hinfo
    refine ⟨h.pending.congr fun seq hseq => ?_, hown (Option.isSome_iff_exists.mpr ⟨_, hlookup⟩)⟩
    exact hshrinks.fragments _ _ hlookup seq hseq
  dropped ts hsome := by
    rcases hshrinks.dropped ts hsome with hbefore | ⟨hin, hnone⟩
    · exact .inl (hl.droppedTs ▸ hbefore)
    · refine .inr ⟨fun _ => rfl, ?_, hnone⟩
      by_cases hts : ts = push.header.timestamp
      · subst hts
        exact hlost hnone
      · rwa [lookup_stored_of_ne hl hts] at hin
  completed ts hsome := .inl (hl.completedTs ▸ hshrinks.completed ts hsome)
  lost _ hnone := hlost hnone
  complete htrue := absurd htrue Bool.false_ne_true

theorem Arrives.advances_of_finishes (hcomplete : insert k K = Finset.range push.count)
    (hfinishes : Finishes push.header.timestamp (stored r push k now) t) :
    Advances s push K k t true where
  held := hfinishes.held h.held_stored
  known ts seq hdup := by
    rw [H26x.isDuplicate, hfinishes.receivedInfo] at hdup
    exact hl.known ts seq hdup
  others ts info hne hlookup := by
    rw [hfinishes.frames, AList.lookup_erase_ne hne] at hlookup
    have hbefore := hlookup
    rw [lookup_stored_of_ne hl hne] at hbefore
    refine ⟨hbefore, fun seq hseq => ?_⟩
    rw [hfinishes.fragments ts info hne hlookup seq hseq]
    exact h.fragments_stored hl hne hbefore hseq
  own info hlookup := by
    rw [hfinishes.frames, AList.lookup_erase] at hlookup
    cases hlookup
  dropped ts hsome := by
    rw [hfinishes.dropped] at hsome
    exact .inl (hl.droppedTs ▸ hsome)
  completed ts hsome := by
    rcases hfinishes.completed ts hsome with hts | hbefore
    · exact .inr ⟨hts, rfl⟩
    · exact .inl (hl.completedTs ▸ hbefore)
  lost hfalse := absurd hfalse Bool.true_eq_false.mp
  complete _ := hcomplete

theorem Arrives.advances
    (hentry : K.Nonempty → (s.receiver.frames.lookup push.header.timestamp).isSome)
    {result : Result} (ho : Outcome cfg r push K k now t result) :
    Advances s push K k t (!result.frames.isEmpty) := by
  cases ho with
  | ready f _ hcomplete hfinishes => exact h.advances_of_finishes hl hcomplete hfinishes
  | refused hheld hcomplete hshrinks hnone =>
    refine h.advances_of_shrinks hl hheld hshrinks ?_ fun _ => hentry ?_
    · intro hsome
      rw [hnone] at hsome
      cases hsome
    · -- One fragment is not all of them.
      apply Finset.nonempty_iff_ne_empty.mpr
      rintro rfl
      have hcard := congrArg Finset.card hcomplete
      rw [Finset.card_insert_of_notMem (Finset.notMem_empty k), Finset.card_range] at hcard
      have hmany := h.many
      rw [← hcard] at hmany
      exact absurd hmany (lt_irrefl 1)
  | waits hheld hincomplete gone hshrinks hlate =>
    refine h.advances_of_shrinks hl hheld hshrinks (fun _ => hincomplete) fun hnone => ?_
    rw [← hl.frames]
    apply hlate
    by_contra hout
    rw [hshrinks.kept _ hout, lookup_stored] at hnone
    cases hnone

end

variable {frames : List Frame}

/-- When the last fragment of a frame that was not dropped arrives, the receiver has them all. -/
theorem Tracks.insert_eq_range (htracks : Tracks s p K) (h : Inv cfg s)
    (hp : s.pushes[p]? = some push) (hmany : 1 < push.datagrams.length)
    (hk : k < push.datagrams.length) (hnot : p ∉ s.abandoned)
    (hall : ∀ j ∈ Finset.range push.datagrams.length, (p, j) ∈ insert (p, k) s.arrived) :
    insert k K = Finset.range push.count := by
  rw [← (h.sent p push hp).count_eq hmany]
  apply Finset.Subset.antisymm
  · intro j hj
    rw [Finset.mem_range]
    rcases Finset.mem_insert.mp hj with rfl | hj
    · exact hk
    · exact h.lt_of_arrived hp (htracks.arrived j hj)
  · intro j hj
    rcases Finset.mem_insert.mp (hall j hj) with heq | hj
    · rw [(Prod.mk.inj heq).2]
      exact Finset.mem_insert_self _ _
    · exact Finset.mem_insert_of_mem (htracks.all hnot j hj)

/-- A frame that was dropped before has lost a fragment for good. -/
theorem Tracks.not_abandoned (htracks : Tracks s p K) (h : Inv cfg s)
    (hp : s.pushes[p]? = some push) (hmany : 1 < push.datagrams.length)
    (hnew : (p, k) ∉ s.arrived) (hcomplete : insert k K = Finset.range push.count) :
    p ∉ s.abandoned := by
  intro habandoned
  obtain ⟨j, hj, hout⟩ := htracks.missed habandoned
  have hjin := Finset.mem_range.mpr (h.lt_of_arrived hp hj)
  rw [(h.sent p push hp).count_eq hmany, ← hcomplete] at hjin
  rcases Finset.mem_insert.mp hjin with rfl | hjin
  · exact hnew hj
  · exact hout hjin

/-- The session is matched by the arrival of the piece, which is a delivery when the frame is
returned. -/
theorem Inv.matched_advance (h : Inv cfg s) (hp : s.pushes[p]? = some push)
    (hmany : 1 < push.datagrams.length) (hk : k < push.datagrams.length)
    (hnew : (p, k) ∉ s.arrived) (htracks : Tracks s p K)
    (ha : Advances s push K k t (!frames.isEmpty)) (hone : frames.length ≤ 1) :
    Matched s (s.advanced p k t frames) := by
  have hcan := canArrive hp hk hnew
    ((s.waiting s.receiver \ s.waiting t) \ if frames.isEmpty then ∅ else {p}) fun q hq => by
      obtain ⟨_, _, _, he⟩ := h.waiting_entry (Finset.mem_sdiff.mp (Finset.mem_sdiff.mp hq).1).1
      exact he.not_delivered h
  match frames, hone, ha, hcan with
  | [], _, ha, hcan =>
    refine .inr ⟨_, (Reassembly.next_arrive hcan ?_).trans ?_⟩
    · rintro ⟨⟨ps, hps, hall⟩, hnot⟩
      rw [show (s.abs.arriveAt p k _).pieces p = _ from abs_pieces hp] at hps
      cases hps
      obtain ⟨hbefore, hnow⟩ := not_or.mp (mt Finset.mem_union.mpr hnot)
      have hcomplete := htracks.insert_eq_range h hp hmany hk hbefore hall
      -- A complete frame does not wait, so it has been dropped.
      have hnone : t.frames.lookup push.header.timestamp = none := by
        apply Option.eq_none_iff_forall_ne_some.mpr
        exact fun info hlookup => (ha.own info hlookup).2 hcomplete
      have hout : p ∉ s.waiting t := by
        intro hin
        obtain ⟨b, hb, -, hsome⟩ := mem_waiting.mp hin
        rw [hp] at hb
        cases hb
        rw [hnone] at hsome
        cases hsome
      have hin := mem_waiting.mpr ⟨push, hp, hmany, ha.lost rfl hnone⟩
      exact hnow (Finset.mem_sdiff.mpr
        ⟨Finset.mem_sdiff.mpr ⟨hin, hout⟩, Finset.notMem_empty p⟩)
    · simp only [Session.advanced, Session.abs, List.map_nil, List.append_nil]
      rfl
  | [f], _, ha, hcan =>
    have hcomplete := ha.complete rfl
    refine .inr ⟨_, (Reassembly.next_arrive_deliver hcan ⟨⟨_, abs_pieces hp, ?_⟩, ?_⟩).trans ?_⟩
    · intro j hj
      rw [(h.sent p push hp).count_eq hmany, ← hcomplete] at hj
      rcases Finset.mem_insert.mp hj with rfl | hj
      · exact Finset.mem_insert_self _ _
      · exact Finset.mem_insert_of_mem (htracks.arrived j hj)
    · intro hin
      rcases Finset.mem_union.mp hin with hbefore | hnow
      · exact htracks.not_abandoned h hp hmany hnew hcomplete hbefore
      · exact (Finset.mem_sdiff.mp hnow).2 (Finset.mem_singleton_self p)
    · simp only [Session.advanced, Session.abs, Reassembly.deliver, List.map_append,
        List.map_cons, List.map_nil]
      rfl

/-! ## The step of the network -/

/-- A packet that the receiver remembers is turned away. -/
theorem packetHandler_of_remembers (cfg : Settings) (now : Nat) {frame : Frame} {count : Nat}
    (htype : getFragmentType frame.payload = .ok (fragType count k))
    (hknown : r.remembers frame.header.timestamp frame.header.seq = true) :
    ∃ t, r.packetHandler cfg now frame = .ok (t, .error) ∧
      Learns frame.header.timestamp frame.header.seq r t := by
  by_cases hdup : r.isDuplicate frame.header.timestamp frame.header.seq = true
  · exact ⟨r, packetHandler_duplicate cfg now _ hdup, Learns.refl _ _ r⟩
  have hnew := Bool.eq_false_iff.mpr hdup
  have hlearns := learns_recordReceived frame.header.timestamp frame.header.seq r
  by_cases hgone : (r.droppedTs.lookup frame.header.timestamp).isSome ∨
      (r.completedTs.lookup frame.header.timestamp).isSome
  · exact ⟨_, packetHandler_gone cfg now _ hnew htype hgone, hlearns⟩
  obtain ⟨hdropped, hcompleted⟩ := not_or.mp hgone
  rw [H26x.remembers, hnew, Bool.eq_false_iff.mpr hdropped, Bool.eq_false_iff.mpr hcompleted,
    Bool.false_or, Bool.false_or, Bool.false_or] at hknown
  match hlookup : r.frames.lookup frame.header.timestamp with
  | none =>
    rw [hlookup] at hknown
    cases hknown
  | some info =>
    rw [hlookup] at hknown
    refine ⟨_, ?_, hlearns⟩
    rw [packetHandler_dispatch cfg now _ hnew htype hgone, dispatch_fragType, H26x.handleFragment]
    simp only [recordReceived_frames, hlookup, Option.getD_some]
    exact if_pos (of_decide_eq_true hknown)

theorem Inv.turned_away (h : Inv cfg s) (hp : s.pushes[p]? = some push)
    (hk : k < push.datagrams.length) {d : List UInt8} {frame : Frame}
    (hd : packetHandler d = .ok (.modified frame))
    (hr : s.receiver.packetHandler cfg now frame = .ok (r, .error))
    (hl : Learns push.header.timestamp (push.seqAt k) s.receiver r)
    (hno : (p, k) ∈ s.arrived ∨ p ∈ s.abandoned) :
    Inv cfg (s.deliver cfg p k now d) ∧ Matched s (s.deliver cfg p k now d) := by
  have hstep : s.deliver cfg p k now d =
      { s with receiver := r, arrived := insert (p, k) s.arrived } := by
    have hprocess : processPacket cfg now s.receiver d = .ok (r, []) := by
      rw [processPacket, hd]
      dsimp only
      rw [hr]
    rw [deliver_eq hprocess, advanced_of_same_frames hl.frames, List.map_nil, List.append_nil]
  have hmatched := matched_rejected hp hk r hno
  rw [hstep]
  exact ⟨h.rejected hp hk hl hno (hmatched.consistent h.consistent), hmatched⟩

theorem processPacket_outcome {d : List UInt8} {frame : Frame} {r₀ : H26x} {result : Result}
    (hd : packetHandler d = .ok (.modified frame))
    (hr : r₀.packetHandler cfg now frame = .ok (t, result))
    (ho : Outcome cfg r push K k now t result) :
    processPacket cfg now r₀ d = .ok (t, result.frames) := by
  rw [processPacket, hd]
  dsimp only
  rw [hr]
  cases ho <;> rfl

theorem Outcome.payload {result : Result} (ho : Outcome cfg r push K k now t result) :
    ∀ f ∈ result.frames, f.payload = startCode cfg ++ push.data := by
  intro f hf
  cases ho with
  | ready f' hpayload =>
    rw [List.mem_singleton.mp hf]
    exact hpayload
  | refused => cases hf
  | waits => cases hf

theorem Result.length_frames_le (result : Result) : result.frames.length ≤ 1 := by
  cases result with
  | ready f => exact le_refl 1
  | error => exact Nat.zero_le 1
  | ok => exact Nat.zero_le 1
  | multiple => exact Nat.zero_le 1

theorem Inv.deliver_fragment (h : Inv cfg s) (hok : s.DeliverOk p k)
    (hp : s.pushes[p]? = some push) (hmany : 1 < push.datagrams.length) {d : List UInt8}
    (hd : push.datagrams[k]? = some d) (now : Nat) :
    Inv cfg (s.deliver cfg p k now d) ∧ Matched s (s.deliver cfg p k now d) := by
  obtain ⟨hremembers, hfree⟩ := hok push hp
  have hsent := h.sent p push hp
  have hcount := hsent.count_eq hmany
  have hk := (List.getElem?_eq_some_iff.mp hd).1
  have hparse := hsent.packetHandler_fragment hmany hd
  have htype := getFragmentType_fragment (hcount ▸ hmany) k
  by_cases harrived : (p, k) ∈ s.arrived
  · obtain ⟨r, hr, hl⟩ := packetHandler_of_remembers cfg now htype (hremembers harrived)
    exact h.turned_away hp hk hparse hr hl (.inl harrived)
  have hnew := h.not_duplicate hp hk harrived
  have hl := learns_recordReceived push.header.timestamp (push.seqAt k) s.receiver
  have hcompleted := h.not_completed hp hk harrived
  by_cases hdropped : (s.receiver.droppedTs.lookup push.header.timestamp).isSome
  · have hr := packetHandler_gone cfg now (push.fragment k) hnew htype (.inl hdropped)
    exact h.turned_away hp hk hparse hr hl (.inr (h.dropped_iff_abandoned hp hdropped))
  obtain ⟨K, hpending, htracks, hentry⟩ := h.entryOf hp hmany (h.not_delivered hp hk harrived) now
  have harrives : Arrives (s.receiver.recordReceived push.header.timestamp (push.seqAt k))
      push K k now := by
    refine ⟨hsent, h.few hp hmany, hcount ▸ hmany, hcount ▸ hk, hl.held h.held, ?_, ?_, ?_⟩
    · rw [Uvgrtp.entryOf, hl.frames, hl.fragments]
      exact hpending
    · exact fun hin => harrived (htracks.arrived k hin)
    · rw [hl.fragments]
      exact hfree harrived hmany
  obtain ⟨t, result, ht, ho⟩ := harrives.handleFragment cfg
  have hprocess := processPacket_outcome hparse
    ((packetHandler_dispatch cfg now (push.fragment k) hnew htype
      (not_or.mpr ⟨hdropped, hcompleted⟩)).trans ((dispatch_fragType ..).trans ht)) ho
  have hadvances := harrives.advances hl hentry ho
  have hmatched := h.matched_advance hp hmany hk harrived htracks hadvances result.length_frames_le
  rw [deliver_eq hprocess]
  exact ⟨h.advance hp hmany harrived htracks hadvances rfl ho.payload
    (hmatched.consistent h.consistent), hmatched⟩

theorem Inv.deliver_single (h : Inv cfg s) (hok : s.DeliverOk p k)
    (hp : s.pushes[p]? = some push) (hone : ¬ 1 < push.datagrams.length) {d : List UInt8}
    (hd : push.datagrams[k]? = some d) (now : Nat) :
    Inv cfg (s.deliver cfg p k now d) ∧ Matched s (s.deliver cfg p k now d) := by
  have hremembers := (hok push hp).1
  have hk := (List.getElem?_eq_some_iff.mp hd).1
  obtain ⟨rfl, hnal, hparse⟩ := (h.sent p push hp).packetHandler_single hone hd
  have htype := getFragmentType_single hnal
  have hl := learns_recordReceived push.header.timestamp (push.seqAt 0) s.receiver
  by_cases hdup : s.receiver.isDuplicate push.header.timestamp (push.seqAt 0) = true
  · have hr := packetHandler_duplicate cfg now (sentFrame push.header 1 0 push.data) hdup
    refine h.turned_away hp hk hparse hr (Learns.refl _ _ _) (.inl ?_)
    by_contra harrived
    exact Bool.eq_false_iff.mp (h.not_duplicate hp hk harrived) hdup
  have hnew := Bool.eq_false_iff.mpr hdup
  by_cases hgone : (s.receiver.droppedTs.lookup push.header.timestamp).isSome ∨
      (s.receiver.completedTs.lookup push.header.timestamp).isSome
  · have hr := packetHandler_gone cfg now (sentFrame push.header 1 0 push.data) hnew htype
      hgone
    refine h.turned_away hp hk hparse hr hl ?_
    by_cases harrived : (p, 0) ∈ s.arrived
    · exact .inl harrived
    · exact .inr (h.dropped_iff_abandoned hp
        (hgone.resolve_right (h.not_completed hp hk harrived)))
  -- It is returned, so it must not have come before.
  have harrived : (p, 0) ∉ s.arrived := by
    intro harrived
    have hknown := hremembers harrived
    rw [H26x.remembers, hnew, Bool.false_or, Bool.or_eq_true, Bool.or_eq_true] at hknown
    rcases hknown with hknown | hknown
    · exact hgone hknown
    · obtain ⟨info, hlookup, -⟩ := (Option.any_eq_true _ _).mp hknown
      obtain ⟨q, b, K, hts, he⟩ := h.pending _ _ hlookup
      obtain rfl := h.eq_of_timestamp he.found hp he.many hts
      exact hone (Option.some.inj (he.found.symm.trans hp) ▸ he.many)
  have hprocess : processPacket cfg now s.receiver d =
      .ok (s.receiver.recordReceived push.header.timestamp (push.seqAt 0),
        [prependStartCode cfg (sentFrame push.header 1 0 push.data)]) := by
    rw [processPacket, hparse]
    dsimp only
    rw [packetHandler_dispatch cfg now (sentFrame push.header 1 0 push.data) hnew htype
      hgone]
    rfl
  have hstep : s.deliver cfg p 0 now d = s.returned p 0
      (s.receiver.recordReceived push.header.timestamp (push.seqAt 0))
      (prependStartCode cfg (sentFrame push.header 1 0 push.data)) := by
    rw [deliver_eq hprocess, advanced_of_same_frames hl.frames]
    rfl
  have hmatched := h.matched_single hp hone harrived
    (s.receiver.recordReceived push.header.timestamp (push.seqAt 0))
    (prependStartCode cfg (sentFrame push.header 1 0 push.data))
  rw [hstep]
  exact ⟨h.single hp hone harrived hl rfl (hmatched.consistent h.consistent), hmatched⟩

/-! ## The step of the sender -/

def Session.pushed (s : Session) (rtp : Rtp) (push : Push) : Session :=
  { s with rtp := rtp, pushes := s.pushes ++ [push] }

theorem getElem?_concat_eq_some {pushes : List Push} {a b : Push} :
    (pushes ++ [b])[p]? = some a ↔ pushes[p]? = some a ∨ p = pushes.length ∧ a = b := by
  rw [List.getElem?_append]
  split
  next hlt => exact (or_iff_left fun h => by omega).symm
  next hle =>
    rw [List.getElem?_eq_none (l := pushes) (by omega), List.getElem?_singleton]
    by_cases hp : p = pushes.length
    · rw [if_pos (by omega), Option.some.injEq]
      simp [hp, eq_comm]
    · rw [if_neg (by omega)]
      simp [hp]

theorem Push.Apart.symm {a b : Push} (h : a.Apart b) : b.Apart a := by
  intro hts
  obtain ⟨ha, hb, hne⟩ := h hts.symm
  exact ⟨hb, ha, hne.symm⟩

theorem abs_pieces_length (s : Session) : s.abs.pieces s.pushes.length = none :=
  congrArg (Option.map fun push : Push => Finset.range push.datagrams.length)
    (List.getElem?_eq_none (le_refl s.pushes.length))

/-- Nothing arrives before it is sent. -/
theorem Inv.not_arrived (h : Inv cfg s) (k : Nat) : (s.pushes.length, k) ∉ s.arrived := by
  intro harrived
  obtain ⟨ps, hps, -⟩ := h.consistent.arrived _ k harrived
  cases (abs_pieces_length s).symm.trans hps

theorem Inv.pushed (h : Inv cfg s) (rtp : Rtp) (hsent : Sent push)
    (hapart : ∀ a ∈ s.pushes, a.Apart push) (hconsistent : (s.pushed rtp push).abs.Consistent) :
    Inv cfg (s.pushed rtp push) := by
  have hmono : ∀ (p : Nat) (a : Push), s.pushes[p]? = some a →
      (s.pushed rtp push).pushes[p]? = some a :=
    fun p a ha => getElem?_concat_eq_some.mpr (.inl ha)
  refine ⟨h.running, ?_, ?_, h.held, ?_, ?_, ?_, ?_, ?_, ?_, ?_, hconsistent⟩
  · intro p a ha
    rcases getElem?_concat_eq_some.mp ha with ha | ⟨-, rfl⟩
    · exact h.sent p a ha
    · exact hsent
  · intro p q a b ha hb hne
    rcases getElem?_concat_eq_some.mp ha with hold | ⟨hp, rfl⟩
    · rcases getElem?_concat_eq_some.mp hb with hold' | ⟨-, rfl⟩
      · exact h.apart p q a b hold hold' hne
      · exact hapart a (List.mem_of_getElem? hold)
    · rcases getElem?_concat_eq_some.mp hb with hold | ⟨hq, -⟩
      · exact (hapart b (List.mem_of_getElem? hold)).symm
      · exact absurd (hp.trans hq.symm) hne
  · intro ts seq hdup
    obtain ⟨q, j, b, harrived, hb, hrest⟩ := h.known ts seq hdup
    exact ⟨q, j, b, harrived, hmono q b hb, hrest⟩
  · intro ts info hlookup
    obtain ⟨q, b, K, hts, he⟩ := h.pending ts info hlookup
    exact ⟨q, b, K, hts, hmono q b he.found, he.many, he.pending,
      ⟨he.tracks.arrived, he.tracks.all, he.tracks.missed⟩, he.nonempty, he.incomplete⟩
  · intro q b j hb hmany harrived hnot hdelivered
    rcases getElem?_concat_eq_some.mp hb with hb | ⟨rfl, -⟩
    · exact h.waiting q b j hb hmany harrived hnot hdelivered
    · exact absurd harrived (h.not_arrived j)
  · intro ts hsome
    obtain ⟨q, hq, b, hb, hts⟩ := h.dropped ts hsome
    exact ⟨q, hq, b, hmono q b hb, hts⟩
  · intro ts hsome
    obtain ⟨q, hq, b, hb, hrest⟩ := h.completed ts hsome
    exact ⟨q, hq, b, hmono q b hb, hrest⟩
  · intro q hq
    obtain ⟨b, hb, hrest⟩ := h.abandoned q hq
    exact ⟨b, hmono q b hb, hrest⟩
  · intro q f hf
    obtain ⟨b, hb, hpayload⟩ := h.frames q f hf
    exact ⟨b, hmono q b hb, hpayload⟩

theorem matched_pushed (s : Session) (rtp : Rtp) (hsent : Sent push) :
    Matched s (s.pushed rtp push) := by
  have hpieces : (Finset.range push.datagrams.length).Nonempty :=
    ⟨0, Finset.mem_range.mpr hsent.length_pos⟩
  refine .inr ⟨.send s.pushes.length (Finset.range push.datagrams.length),
    (Reassembly.next_send (abs_pieces_length s) hpieces).trans (congrArg some ?_)⟩
  have hsame : Function.update s.abs.pieces s.pushes.length
      (some (Finset.range push.datagrams.length)) = (s.pushed rtp push).abs.pieces := by
    funext p
    by_cases hp : p = s.pushes.length
    · subst hp
      rw [Function.update_self, abs_pieces (getElem?_concat_eq_some.mpr (.inr ⟨rfl, rfl⟩))]
    · rw [Function.update_of_ne hp]
      refine congrArg (Option.map _) (Option.ext fun a => ?_)
      rw [Session.pushed, getElem?_concat_eq_some]
      exact (or_iff_left fun h => hp h.1).symm
  rw [Reassembly.sendOff, hsame]
  rfl

theorem sent_of {rtp : Rtp} {data : List UInt8} (now : Nat) (random : UInt32) (hdata : data ≠ [])
    (hsize : 3 ≤ rtp.payloadSize.toNat)
    (hfew : (payloadsOf rtp.payloadSize data).length ≤ maxMsgCount)
    (hsingle : data.length ≤ rtp.payloadSize.toNat → SingleNal data) :
    Sent (Push.of rtp data now random) :=
  ⟨plain_pushHeader rtp now random, hsize, hdata, rfl,
    (length_flushQueue _ _).trans_le hfew, hsingle⟩

theorem Session.PushOk.sent {data : List UInt8} {random : UInt32}
    (hok : s.PushOk data now random) (hdata : data ≠ []) : Sent (Push.of s.rtp data now random) :=
  sent_of now random hdata (hok hdata).1 (hok hdata).2.1 (hok hdata).2.2.1

theorem Session.push_eq {data : List UInt8} {random : UInt32} (hdata : data ≠ [])
    (hok : s.PushOk data now random) :
    ∃ rtp, rtp.seq = after s.rtp.seq (payloadsOf s.rtp.payloadSize data).length ∧
      s.push data now random = s.pushed rtp (Push.of s.rtp data now random) := by
  obtain ⟨hsize, hfew, -⟩ := hok hdata
  have htwo : s.rtp.payloadSize = 2 → data.length ≤ 2 := by
    intro h
    rw [h] at hsize
    exact absurd hsize (by decide)
  have hpos := (hok.sent hdata).length_pos
  rw [Session.push, pushMediaFrame_eq s.rtp now random hdata (by omega) htwo]
  dsimp only
  rw [if_pos hfew]
  refine ⟨{ s.rtp.started now random with
    seq := after s.rtp.seq (payloadsOf s.rtp.payloadSize data).length }, rfl, ?_⟩
  rw [Push.of] at hpos ⊢
  match hq : flushQueue _, hpos with
  | d :: ds, _ => rfl

theorem Inv.step_push (h : Inv cfg s) {data : List UInt8} {random : UInt32}
    (hok : s.PushOk data now random) :
    Inv cfg (s.push data now random) ∧ Matched s (s.push data now random) := by
  by_cases hdata : data = []
  · subst hdata
    exact ⟨⟨h.running, h.sent, h.apart, h.held, h.known, h.pending, h.waiting, h.dropped,
      h.completed, h.abandoned, h.frames, h.consistent⟩, .inl rfl⟩
  · have hsent := hok.sent hdata
    obtain ⟨rtp, -, hstep⟩ := Session.push_eq hdata hok
    have hmatched := matched_pushed s rtp hsent
    rw [hstep]
    exact ⟨h.pushed rtp hsent (hok hdata).2.2.2 (hmatched.consistent h.consistent), hmatched⟩

/-! ## Runs -/

theorem abs_init (h : s.init) : s.abs = Reassembly.empty := by
  obtain ⟨rtp, now, rfl⟩ := h
  rfl

theorem inv_init (cfg : Settings) (h : s.init) : Inv cfg s := by
  have habs := abs_init h
  obtain ⟨rtp, now, rfl⟩ := h
  have hnone : ∀ {p : Nat} {push : Push}, ([] : List Push)[p]? ≠ some push := by
    intro p push hp
    cases hp
  refine ⟨rfl, ?_, ?_, ?_, ?_, ?_, ?_, ?_, ?_, ?_, ?_, ?_⟩
  · exact fun p push hp => absurd hp hnone
  · exact fun p q a b hp => absurd hp hnone
  · intro ts info hlookup
    cases hlookup
  · intro ts seq hdup
    cases hdup
  · intro ts info hlookup
    cases hlookup
  · exact fun p push k hp => absurd hp hnone
  · intro ts hsome
    cases hsome
  · intro ts hsome
    cases hsome
  · exact fun p hp => absurd hp (Finset.notMem_empty p)
  · intro p f hf
    cases hf
  · rw [habs]
    exact Reassembly.consistent_empty

theorem Inv.step (h : Inv cfg s) {a : SessionAct} (hok : s.StepOk a) {u : Session}
    (hn : s.next cfg a = some u) : Inv cfg u ∧ Matched s u := by
  cases a with
  | push data now random =>
    rw [Session.next, h.running, if_neg Bool.false_ne_true, Option.some.injEq] at hn
    subst hn
    exact h.step_push hok
  | deliver p k now =>
    rw [Session.next, h.running, if_neg Bool.false_ne_true, Option.map_eq_some_iff] at hn
    obtain ⟨d, hd, rfl⟩ := hn
    obtain ⟨push, hp, hd⟩ := Option.bind_eq_some_iff.mp hd
    by_cases hmany : 1 < push.datagrams.length
    · exact h.deliver_fragment hok hp hmany hd now
    · exact h.deliver_single hok hp hmany hd now

theorem inv_of_reachable (h : (Session.machine cfg).ReachableBy Session.StepOk s) : Inv cfg s :=
  h.invariant (fun _ hs => inv_init cfg hs) fun _ _ _ hi hok hn => (hi.step hok hn).1

/-- A session refines the reassembly of messages. -/
theorem reassembles (h : (Session.machine cfg).ReachableBy Session.StepOk s) :
    Reassembly.machine.Reachable s.abs := by
  have hinit : ∀ s : Session, (Session.machine cfg).init s → Reassembly.machine.init s.abs :=
    fun _ hs => abs_init hs
  exact h.refines hinit fun _ _ _ hreach hok hn => ((inv_of_reachable hreach).step hok hn).2

theorem mem_delivered_iff (h : (Session.machine cfg).ReachableBy Session.StepOk s)
    (hp : s.pushes[p]? = some push) : p ∈ s.delivered.map Prod.fst ↔
      (∀ k < push.datagrams.length, (p, k) ∈ s.arrived) ∧ p ∉ s.abandoned := by
  rw [← complete_abs_iff hp]
  exact (Reassembly.consistent_of_reachable (reassembles h)).delivered p

-- Packets of four bytes, with numbers that start again at zero within the first push.
def idle : Session :=
  ⟨⟨7, 1000, 65534, 96, 90000, 0, invalidTs, 4⟩, H26x.new 0, [], ∅, [], ∅, false⟩

-- A key frame in three fragments and a NAL unit that fits in a packet; the fragments come out of
-- order, one of them twice.
def reordered : List SessionAct :=
  [.push [0x65, 1, 2, 3, 4, 5, 6] 100 9, .push [0x67, 8, 9] 200 9, .deliver 1 0 1000,
    .deliver 0 1 2000, .deliver 0 0 3000, .deliver 0 1 4000, .deliver 0 2 5000, .deliver 1 0 6000]

theorem idle_init : idle.init :=
  ⟨_, _, rfl⟩

theorem reordered_exec : ∃ s, (Session.machine ⟨false, false, 500⟩).exec idle reordered = some s ∧
    s.delivered.map (fun pf => (pf.1, pf.2.payload)) =
      [(1, [0, 0, 1, 0x67, 8, 9]), (0, [0, 0, 1, 0x65, 1, 2, 3, 4, 5, 6])] := by
  have hrun : ((Session.machine ⟨false, false, 500⟩).exec idle reordered).map
      (fun s => s.delivered.map fun pf => (pf.1, pf.2.payload)) =
        some [(1, [0, 0, 1, 0x67, 8, 9]), (0, [0, 0, 1, 0x65, 1, 2, 3, 4, 5, 6])] := by
    decide +kernel
  exact Option.map_eq_some_iff.mp hrun

theorem reordered_steps :
    (Session.machine ⟨false, false, 500⟩).StepsMeet Session.StepOk idle reordered := by
  decide +kernel

/-- Nothing goes wrong in a session, and a NAL unit is returned as it was pushed. -/
theorem returned_as_pushed (h : (Session.machine cfg).ReachableBy Session.StepOk s) :
    s.crashed = false ∧ ∀ p f, (p, f) ∈ s.delivered → ∃ push, s.pushes[p]? = some push ∧
      f.payload = startCode cfg ++ push.data :=
  ⟨(inv_of_reachable h).running, (inv_of_reachable h).frames⟩

theorem returned_as_pushed_reordered :
    ∃ s, (Session.machine ⟨false, false, 500⟩).exec idle reordered = some s ∧
      s.delivered.length = 2 ∧ s.crashed = false ∧
      ∀ p f, (p, f) ∈ s.delivered → ∃ push, s.pushes[p]? = some push ∧
        f.payload = [0, 0, 1] ++ push.data := by
  obtain ⟨s, hrun, hdelivered⟩ := reordered_exec
  have hlength := congrArg List.length hdelivered
  rw [List.length_map] at hlength
  exact ⟨s, hrun, hlength, returned_as_pushed
    ((Machine.ReachableBy.start idle_init).of_exec reordered_steps hrun)⟩

/-- A NAL unit is returned at most once, and it is returned when all its datagrams have arrived,
unless the receiver has dropped it before. -/
theorem returned_once (h : (Session.machine cfg).ReachableBy Session.StepOk s) :
    (s.delivered.map Prod.fst).Nodup ∧ ∀ p push, s.pushes[p]? = some push →
      (p ∈ s.delivered.map Prod.fst ↔
        (∀ k < push.datagrams.length, (p, k) ∈ s.arrived) ∧ p ∉ s.abandoned) :=
  ⟨(Reassembly.consistent_of_reachable (reassembles h)).nodup, fun _ _ hp => mem_delivered_iff h hp⟩

theorem returned_once_reordered :
    ∃ s, (Session.machine ⟨false, false, 500⟩).exec idle reordered = some s ∧
      s.delivered.length = 2 ∧ (s.delivered.map Prod.fst).Nodup ∧
      ∀ p push, s.pushes[p]? = some push →
        (p ∈ s.delivered.map Prod.fst ↔
          (∀ k < push.datagrams.length, (p, k) ∈ s.arrived) ∧ p ∉ s.abandoned) := by
  obtain ⟨s, hrun, hdelivered⟩ := reordered_exec
  have hlength := congrArg List.length hdelivered
  rw [List.length_map] at hlength
  exact ⟨s, hrun, hlength, returned_once
    ((Machine.ReachableBy.start idle_init).of_exec reordered_steps hrun)⟩

end ConnectUdp.Uvgrtp
