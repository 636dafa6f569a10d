import ConnectUdp.Reassembly
import ConnectUdp.Uvgrtp.H264Fragment

/-!
# What the receiver returns

In runs whose steps keep to `Session.StepOk` the receiver returns every NAL unit at most once and
as it was pushed, and a session refines the reassembly of messages: what it returns is exactly what
arrived completely and was not dropped before.
-/

namespace ConnectUdp.Uvgrtp

open NetworkOrder RtpHeader SequenceNumber Transition

variable {cfg : Settings} {s : Session} {p q k now : Nat} {push : Push} {K : Finset Nat}
  {info : H26xInfo}

/-! ## Sessions as reassemblies -/

def Session.abs (s : Session) : Reassembly Nat Nat where
  pieces p := s.pushes[p]?.map fun push => Finset.range push.datagrams.length
  arrived := s.arrived
  abandoned := s.abandoned
  delivered := s.delivered.map Prod.fst

theorem abs_pieces (hp : s.pushes[p]? = some push) :
    s.abs.pieces p = some (Finset.range push.datagrams.length) :=
  congrArg (Option.map fun push : Push => Finset.range push.datagrams.length) hp

theorem complete_abs_iff (hp : s.pushes[p]? = some push) :
    s.abs.Complete p ↔ ∀ k < push.datagrams.length, (p, k) ∈ s.arrived := by
  simp only [Reassembly.Complete, abs_pieces hp, Option.some.injEq, exists_eq_left',
    Finset.mem_range]
  exact Iff.rfl

/-- Of a waiting frame, `K` is what the receiver has kept.  That is everything that has arrived,
unless the frame was dropped before and something got lost with it. -/
structure Tracks (s : Session) (p : Nat) (K : Finset Nat) : Prop where
  arrived : ∀ k ∈ K, (p, k) ∈ s.arrived
  all : p ∉ s.abandoned → ∀ k, (p, k) ∈ s.arrived → k ∈ K
  missed : p ∈ s.abandoned → ∃ k, (p, k) ∈ s.arrived ∧ k ∉ K

structure Entry (s : Session) (p : Nat) (push : Push) (K : Finset Nat) (info : H26xInfo) :
    Prop where
  found : s.pushes[p]? = some push
  many : 1 < push.datagrams.length
  pending : Pending push K s.receiver.fragments info
  tracks : Tracks s p K
  nonempty : K.Nonempty
  incomplete : K ≠ Finset.range push.count

structure Inv (cfg : Settings) (s : Session) : Prop where
  running : s.crashed = false
  sent : ∀ (p : Nat) (push : Push), s.pushes[p]? = some push → Sent push
  apart : ∀ (p q : Nat) (a b : Push), s.pushes[p]? = some a → s.pushes[q]? = some b → p ≠ q →
    a.Apart b
  held : s.receiver.Held
  known : ∀ ts seq, s.receiver.isDuplicate ts seq = true → ∃ p k push, (p, k) ∈ s.arrived ∧
    s.pushes[p]? = some push ∧ push.header.timestamp = ts ∧ push.seqAt k = seq
  pending : ∀ ts info, s.receiver.frames.lookup ts = some info →
    ∃ p push K, push.header.timestamp = ts ∧ Entry s p push K info
  waiting : ∀ (p : Nat) (push : Push) (k : Nat), s.pushes[p]? = some push →
    1 < push.datagrams.length → (p, k) ∈ s.arrived → p ∉ s.abandoned →
      p ∉ s.delivered.map Prod.fst → (s.receiver.frames.lookup push.header.timestamp).isSome
  dropped : ∀ ts, (s.receiver.droppedTs.lookup ts).isSome → ∃ p ∈ s.abandoned, ∃ push,
    s.pushes[p]? = some push ∧ push.header.timestamp = ts
  completed : ∀ ts, (s.receiver.completedTs.lookup ts).isSome →
    ∃ p ∈ s.delivered.map Prod.fst, ∃ push, s.pushes[p]? = some push ∧
      1 < push.datagrams.length ∧ push.header.timestamp = ts
  abandoned : ∀ p ∈ s.abandoned, ∃ push, s.pushes[p]? = some push ∧ 1 < push.datagrams.length ∧
    ∃ k, (p, k) ∈ s.arrived
  frames : ∀ p f, (p, f) ∈ s.delivered → ∃ push, s.pushes[p]? = some push ∧
    f.payload = startCode cfg ++ push.data
  consistent : s.abs.Consistent

/-! ## Which push a packet belongs to -/

theorem Inv.eq_of_timestamp (h : Inv cfg s) {a b : Push} (ha : s.pushes[p]? = some a)
    (hb : s.pushes[q]? = some b) (hmany : 1 < a.datagrams.length)
    (hts : a.header.timestamp = b.header.timestamp) : p = q := by
  by_contra hne
  have := (h.apart p q a b ha hb hne hts).1
  omega

theorem Inv.few (h : Inv cfg s) (hp : s.pushes[p]? = some push)
    (hmany : 1 < push.datagrams.length) : push.count ≤ maxMsgCount := by
  rw [← (h.sent p push hp).count_eq hmany]
  exact (h.sent p push hp).few

/-- The timestamp and the number tell the packets apart. -/
theorem Inv.eq_of_packet (h : Inv cfg s) {a b : Push} {j : Nat} (ha : s.pushes[p]? = some a)
    (hb : s.pushes[q]? = some b) (hj : j < a.datagrams.length) (hk : k < b.datagrams.length)
    (hts : a.header.timestamp = b.header.timestamp) (hseq : a.seqAt j = b.seqAt k) :
    p = q ∧ j = k := by
  by_cases hpq : p = q
  · subst hpq
    rw [ha] at hb
    cases hb
    have hfew := (h.sent p a ha).few
    rw [maxMsgCount] at hfew
    exact ⟨rfl, (after_inj (by omega) (by omega)).mp hseq⟩
  · obtain ⟨hone, hone', hne⟩ := h.apart p q a b ha hb hpq hts
    obtain rfl : j = 0 := by omega
    obtain rfl : k = 0 := by omega
    rw [Push.seqAt, Push.seqAt, after_zero, after_zero] at hseq
    exact absurd hseq hne

theorem Inv.lt_of_arrived (h : Inv cfg s) (hp : s.pushes[p]? = some push)
    (harrived : (p, k) ∈ s.arrived) : k < push.datagrams.length := by
  obtain ⟨ps, hps, hk⟩ := h.consistent.arrived p k harrived
  rw [abs_pieces hp] at hps
  cases hps
  exact Finset.mem_range.mp hk

theorem Inv.not_duplicate (h : Inv cfg s) (hp : s.pushes[p]? = some push)
    (hk : k < push.datagrams.length) (hnew : (p, k) ∉ s.arrived) :
    s.receiver.isDuplicate push.header.timestamp (push.seqAt k) = false := by
  apply Bool.eq_false_iff.mpr
  intro hdup
  obtain ⟨q, j, b, harrived, hb, hts, hseq⟩ := h.known _ _ hdup
  obtain ⟨rfl, rfl⟩ := h.eq_of_packet hb hp (h.lt_of_arrived hb harrived) hk hts hseq
  exact hnew harrived

theorem Inv.not_delivered (h : Inv cfg s) (hp : s.pushes[p]? = some push)
    (hk : k < push.datagrams.length) (hnew : (p, k) ∉ s.arrived) :
    p ∉ s.delivered.map Prod.fst := by
  intro hdelivered
  have hcomplete := ((h.consistent.delivered p).mp hdelivered).1
  exact hnew ((complete_abs_iff hp).mp hcomplete k hk)

theorem Inv.not_completed (h : Inv cfg s) (hp : s.pushes[p]? = some push)
    (hk : k < push.datagrams.length) (hnew : (p, k) ∉ s.arrived) :
    ¬ (s.receiver.completedTs.lookup push.header.timestamp).isSome := by
  intro hsome
  obtain ⟨q, hq, b, hb, hmany, hts⟩ := h.completed _ hsome
  obtain rfl := h.eq_of_timestamp hb hp hmany hts
  exact h.not_delivered hp hk hnew hq

/-- Only packets of an abandoned push are dropped for their timestamp. -/
theorem Inv.dropped_iff_abandoned (h : Inv cfg s) (hp : s.pushes[p]? = some push)
    (hsome : (s.receiver.droppedTs.lookup push.header.timestamp).isSome) : p ∈ s.abandoned := by
  obtain ⟨q, hq, b, hb, hts⟩ := h.dropped _ hsome
  obtain ⟨b', hb', hmany, -⟩ := h.abandoned q hq
  rw [hb] at hb'
  cases hb'
  obtain rfl := h.eq_of_timestamp hb hp hmany hts
  exact hq

/-! ## What is there of the frame when a new fragment arrives -/

theorem Entry.not_delivered (h : Inv cfg s) (he : Entry s p push K info) :
    p ∉ s.delivered.map Prod.fst := by
  intro hdelivered
  obtain ⟨hcomplete, hnot⟩ := (h.consistent.delivered p).mp hdelivered
  have hall := (complete_abs_iff he.found).mp hcomplete
  apply he.incomplete
  apply Finset.Subset.antisymm
  · exact fun k hk => Finset.mem_range.mpr (he.pending.lt k hk)
  · intro k hk
    rw [Finset.mem_range, ← (h.sent p push he.found).count_eq he.many] at hk
    exact he.tracks.all hnot k (hall k hk)

theorem Inv.entryOf (h : Inv cfg s) (hp : s.pushes[p]? = some push)
    (hmany : 1 < push.datagrams.length) (hdelivered : p ∉ s.delivered.map Prod.fst) (now : Nat) :
    ∃ K, Pending push K s.receiver.fragments (entryOf s.receiver push now) ∧ Tracks s p K ∧
      (K.Nonempty → (s.receiver.frames.lookup push.header.timestamp).isSome) := by
  rw [Uvgrtp.entryOf]
  rcases hlookup : s.receiver.frames.lookup push.header.timestamp with _ | info
  swap
  · obtain ⟨q, b, K, hts, he⟩ := h.pending _ _ hlookup
    obtain rfl := h.eq_of_timestamp he.found hp he.many hts
    have hb := he.found
    rw [hp] at hb
    cases hb
    exact ⟨K, he.pending, he.tracks, fun _ => rfl⟩
  · refine ⟨∅, pending_newInfo push _ now, ⟨?_, ?_, ?_⟩, ?_⟩
    · exact fun k hk => absurd hk (Finset.notMem_empty k)
    · intro hnot k harrived
      have hsome := h.waiting p push k hp hmany harrived hnot hdelivered
      rw [hlookup] at hsome
      cases hsome
    · intro habandoned
      obtain ⟨-, -, -, k, hk⟩ := h.abandoned p habandoned
      exact ⟨k, hk, Finset.notMem_empty k⟩
    · exact fun hne => absurd hne Finset.not_nonempty_empty

/-! ## Packets that are turned away -/

theorem mem_waiting {r : H26x} : p ∈ s.waiting r ↔ ∃ push, s.pushes[p]? = some push ∧
    1 < push.datagrams.length ∧ (r.frames.lookup push.header.timestamp).isSome := by
  simp only [Session.waiting, Finset.mem_filter, Finset.mem_range, Option.any_eq_true,
    Bool.and_eq_true, decide_eq_true_eq]
  refine ⟨And.right, fun h => ⟨?_, h⟩⟩
  obtain ⟨push, hp, -⟩ := h
  exact (List.getElem?_eq_some_iff.mp hp).1

def Session.advanced (s : Session) (p k : Nat) (r : H26x) (frames : List Frame) : Session :=
  { s with
    receiver := r
    arrived := insert (p, k) s.arrived
    delivered := s.delivered ++ frames.map fun frame => (p, frame)
    abandoned := s.abandoned ∪
      ((s.waiting s.receiver \ s.waiting r) \ if frames.isEmpty then ∅ else {p}) }

theorem deliver_eq {r : H26x} {datagram : List UInt8} {frames : List Frame}
    (h : processPacket cfg now s.receiver datagram = .ok (r, frames)) :
    s.deliver cfg p k now datagram = s.advanced p k r frames := by
  rw [Session.deliver, h]
  rfl

theorem advanced_of_same_frames {r : H26x} (h : r.frames = s.receiver.frames)
    (frames : List Frame) : s.advanced p k r frames =
      { s with
        receiver := r
        arrived := insert (p, k) s.arrived
        delivered := s.delivered ++ frames.map fun frame => (p, frame) } := by
  have hsame : s.waiting r = s.waiting s.receiver := by
    rw [Session.waiting, Session.waiting, h]
  rw [Session.advanced, hsame, Finset.sdiff_self, Finset.empty_sdiff, Finset.union_empty]

theorem Inv.rejected (h : Inv cfg s) (hp : s.pushes[p]? = some push)
    (hk : k < push.datagrams.length) {r : H26x}
    (hr : Learns push.header.timestamp (push.seqAt k) s.receiver r)
    (hno : (p, k) ∈ s.arrived ∨ p ∈ s.abandoned)
    (hconsistent :
      ({ s with receiver := r, arrived := insert (p, k) s.arrived } : Session).abs.Consistent) :
    Inv cfg { s with receiver := r, arrived := insert (p, k) s.arrived } where
  running := h.running
  sent := h.sent
  apart := h.apart
  held := hr.held h.held
  known ts seq hdup := by
    rcases hr.known ts seq hdup with hdup | ⟨rfl, rfl⟩
    · obtain ⟨q, j, b, harrived, hb⟩ := h.known ts seq hdup
      exact ⟨q, j, b, Finset.mem_insert_of_mem harrived, hb⟩
    · exact ⟨p, k, push, Finset.mem_insert_self _ _, hp, rfl, rfl⟩
  pending ts info hlookup := by
    rw [hr.frames] at hlookup
    obtain ⟨q, b, K, hts, he⟩ := h.pending ts info hlookup
    refine ⟨q, b, K, hts, he.found, he.many, ?_, ⟨?_, ?_, ?_⟩, he.nonempty, he.incomplete⟩
    · exact he.pending.congr fun seq _ => congrFun hr.fragments seq
    · exact fun j hj => Finset.mem_insert_of_mem (he.tracks.arrived j hj)
    · intro hnot j hj
      apply he.tracks.all hnot
      rcases Finset.mem_insert.mp hj with heq | hj
      · obtain ⟨rfl, rfl⟩ := Prod.mk.inj heq
        exact hno.resolve_right hnot
      · exact hj
    · intro habandoned
      obtain ⟨j, hj, hout⟩ := he.tracks.missed habandoned
      exact ⟨j, Finset.mem_insert_of_mem hj, hout⟩
  waiting q b j hb hmany hj hnot hdelivered := by
    rw [hr.frames]
    refine h.waiting q b j hb hmany ?_ hnot hdelivered
    rcases Finset.mem_insert.mp hj with heq | hj
    · obtain ⟨rfl, rfl⟩ := Prod.mk.inj heq
      exact hno.resolve_right hnot
    · exact hj
  dropped ts hsome := h.dropped ts (hr.droppedTs ▸ hsome)
  completed ts hsome := h.completed ts (hr.completedTs ▸ hsome)
  abandoned q hq := by
    obtain ⟨b, hb, hmany, j, hj⟩ := h.abandoned q hq
    exact ⟨b, hb, hmany, j, Finset.mem_insert_of_mem hj⟩
  frames := h.frames
  consistent := hconsistent

-- What a step of a session shows of itself.
def Matched (s t : Session) : Prop :=
  t.abs = s.abs ∨ ∃ b, s.abs.next b = some t.abs

theorem Matched.consistent {t : Session} (h : Matched s t) (hs : s.abs.Consistent) :
    t.abs.Consistent := by
  rcases h with hsame | ⟨b, hb⟩
  · rwa [hsame]
  · exact hs.next hb

theorem canArrive (hp : s.pushes[p]? = some push) (hk : k < push.datagrams.length)
    (hnew : (p, k) ∉ s.arrived) (gone : Finset Nat)
    (hgone : ∀ q ∈ gone, q ∉ s.delivered.map Prod.fst) : s.abs.CanArrive p k gone :=
  ⟨⟨_, abs_pieces hp, Finset.mem_range.mpr hk⟩, hnew, hgone⟩

theorem matched_rejected (hp : s.pushes[p]? = some push) (hk : k < push.datagrams.length)
    (r : H26x) (hno : (p, k) ∈ s.arrived ∨ p ∈ s.abandoned) :
    Matched s { s with receiver := r, arrived := insert (p, k) s.arrived } := by
  by_cases harrived : (p, k) ∈ s.arrived
  · rw [Finset.insert_eq_of_mem harrived]
    exact .inl rfl
  · have habandoned := hno.resolve_left harrived
    have hcan := canArrive hp hk harrived ∅ fun q hq => absurd hq (Finset.notMem_empty q)
    refine .inr ⟨.arrive p k ∅, (Reassembly.next_arrive hcan ?_).trans ?_⟩
    · exact fun hready => hready.2 (Finset.mem_union_left _ habandoned)
    · rw [Reassembly.arriveAt, Finset.union_empty]
      rfl

/-! ## A single NAL unit -/

def Session.returned (s : Session) (p k : Nat) (r : H26x) (f : Frame) : Session :=
  { s with
    receiver := r
    arrived := insert (p, k) s.arrived
    delivered := s.delivered ++ [(p, f)] }

theorem mem_returned {r : H26x} {f : Frame} {q : Nat} :
    q ∈ (s.returned p k r f).delivered.map Prod.fst ↔ q ∈ s.delivered.map Prod.fst ∨ q = p := by
  rw [Session.returned, List.map_append, List.mem_append, List.map_singleton, List.mem_singleton]

theorem abs_returned (r : H26x) (f : Frame) :
    (s.returned p k r f).abs = (s.abs.arriveAt p k ∅).deliver p := by
  rw [Reassembly.arriveAt, Finset.union_empty, Session.abs, Session.returned, Reassembly.deliver]
  simp only [List.map_append, List.map_singleton]
  rfl

/-- A single NAL unit is returned when it arrives. -/
theorem Inv.single (h : Inv cfg s) (hp : s.pushes[p]? = some push)
    (hone : ¬ 1 < push.datagrams.length) (hnew : (p, 0) ∉ s.arrived) {r : H26x}
    (hr : Learns push.header.timestamp (push.seqAt 0) s.receiver r) {f : Frame}
    (hpayload : f.payload = startCode cfg ++ push.data)
    (hconsistent : (s.returned p 0 r f).abs.Consistent) : Inv cfg (s.returned p 0 r f) where
  running := h.running
  sent := h.sent
  apart := h.apart
  held := hr.held h.held
  known ts seq hdup := by
    rcases hr.known ts seq hdup with hdup | ⟨rfl, rfl⟩
    · obtain ⟨q, j, b, harrived, hb⟩ := h.known ts seq hdup
      exact ⟨q, j, b, Finset.mem_insert_of_mem harrived, hb⟩
    · exact ⟨p, 0, push, Finset.mem_insert_self _ _, hp, rfl, rfl⟩
  pending ts info hlookup := by
    change r.frames.lookup ts = some info at hlookup
    rw [hr.frames] at hlookup
    obtain ⟨q, b, K, hts, he⟩ := h.pending ts info hlookup
    have hqp : q ≠ p := by
      rintro rfl
      exact hone (Option.some.inj (he.found.symm.trans hp) ▸ he.many)
    refine ⟨q, b, K, hts, he.found, he.many, ?_, ⟨?_, ?_, ?_⟩, he.nonempty, he.incomplete⟩
    · exact he.pending.congr fun seq _ => congrFun hr.fragments seq
    · exact fun j hj => Finset.mem_insert_of_mem (he.tracks.arrived j hj)
    · intro hnot j hj
      exact he.tracks.all hnot j (Finset.mem_of_mem_insert_of_ne hj (by simp [hqp]))
    · intro habandoned
      obtain ⟨j, hj, hout⟩ := he.tracks.missed habandoned
      exact ⟨j, Finset.mem_insert_of_mem hj, hout⟩
  waiting q b j hb hmany hj hnot hdelivered := by
    have hqp : q ≠ p := by
      rintro rfl
      exact hone (Option.some.inj (hb.symm.trans hp) ▸ hmany)
    change (r.frames.lookup b.header.timestamp).isSome
    rw [hr.frames]
    rw [mem_returned, not_or] at hdelivered
    exact h.waiting q b j hb hmany (Finset.mem_of_mem_insert_of_ne hj (by simp [hqp])) hnot
      hdelivered.1
  dropped ts hsome := h.dropped ts (hr.droppedTs ▸ hsome)
  completed ts hsome := by
    obtain ⟨q, hq, hb⟩ := h.completed ts (hr.completedTs ▸ hsome)
    exact ⟨q, mem_returned.mpr (.inl hq), hb⟩
  abandoned q hq := by
    obtain ⟨b, hb, hmany, j, hj⟩ := h.abandoned q hq
    exact ⟨b, hb, hmany, j, Finset.mem_insert_of_mem hj⟩
  frames q g hg := by
    rcases List.mem_append.mp hg with hg | hg
    · exact h.frames q g hg
    · cases List.mem_singleton.mp hg
      exact ⟨push, hp, hpayload⟩
  consistent := hconsistent

theorem Inv.matched_single (h : Inv cfg s) (hp : s.pushes[p]? = some push)
    (hone : ¬ 1 < push.datagrams.length) (hnew : (p, 0) ∉ s.arrived) (r : H26x) (f : Frame) :
    Matched s (s.returned p 0 r f) := by
  have hpos := (h.sent p push hp).length_pos
  have hcan := canArrive hp hpos hnew ∅ fun q hq => absurd hq (Finset.notMem_empty q)
  refine .inr ⟨.arrive p 0 ∅, ?_⟩
  rw [abs_returned]
  refine Reassembly.next_arrive_deliver hcan ⟨⟨_, abs_pieces hp, ?_⟩, ?_⟩
  · intro j hj
    rw [Finset.mem_range] at hj
    obtain rfl : j = 0 := by omega
    exact Finset.mem_insert_self _ _
  · intro habandoned
    rw [Reassembly.arriveAt, Finset.union_empty] at habandoned
    obtain ⟨b, hb, hmany, -⟩ := h.abandoned p habandoned
    rw [hp] at hb
    cases hb
    exact hone hmany

/-! ## A new fragment -/

/-- What a new fragment of a frame makes of the receiver; `ready` when the frame is returned. -/
structure Advances (s : Session) (push : Push) (K : Finset Nat) (k : Nat) (t : H26x)
    (ready : Bool) : Prop where
  held : t.Held
  known : ∀ ts seq, t.isDuplicate ts seq = true → s.receiver.isDuplicate ts seq = true ∨
    ts = push.header.timestamp ∧ seq = push.seqAt k
  others : ∀ ts info, ts ≠ push.header.timestamp → t.frames.lookup ts = some info →
    s.receiver.frames.lookup ts = some info ∧
      ∀ seq ∈ info.receivedPacketSeqs, t.fragments seq = s.receiver.fragments seq
  own : ∀ info, t.frames.lookup push.header.timestamp = some info →
    Pending push (insert k K) t.fragments info ∧ insert k K ≠ Finset.range push.count
  dropped : ∀ ts, (t.droppedTs.lookup ts).isSome → (s.receiver.droppedTs.lookup ts).isSome ∨
    (ts = push.header.timestamp → ready = false) ∧ (s.receiver.frames.lookup ts).isSome ∧
      t.frames.lookup ts = none
  completed : ∀ ts, (t.completedTs.lookup ts).isSome →
    (s.receiver.completedTs.lookup ts).isSome ∨ ts = push.header.timestamp ∧ ready = true
  lost : ready = false → t.frames.lookup push.header.timestamp = none →
    (s.receiver.frames.lookup push.header.timestamp).isSome
  complete : ready = true → insert k K = Finset.range push.count

variable {t : H26x} {frames : List Frame}

theorem mem_abandoned_advanced : q ∈ (s.advanced p k t frames).abandoned ↔ q ∈ s.abandoned ∨
    q ∈ s.waiting s.receiver ∧ q ∉ s.waiting t ∧ (q = p → frames.isEmpty = true) := by
  rw [Session.advanced, Finset.mem_union, Finset.mem_sdiff, Finset.mem_sdiff, and_assoc]
  refine or_congr_right (and_congr_right fun _ => and_congr_right fun _ => ?_)
  cases frames.isEmpty with
  | true => simp
  | false => simp

theorem mem_delivered_advanced : q ∈ (s.advanced p k t frames).delivered.map Prod.fst ↔
    q ∈ s.delivered.map Prod.fst ∨ q = p ∧ frames ≠ [] := by
  rw [Session.advanced, List.map_append, List.mem_append, List.map_map]
  refine or_congr_right ?_
  cases frames with
  | nil => simp
  | cons f frames =>
    simp only [List.mem_map, Function.comp_apply]
    constructor
    · rintro ⟨g, -, rfl⟩
      exact ⟨rfl, List.cons_ne_nil _ _⟩
    · rintro ⟨rfl, -⟩
      exact ⟨f, List.mem_cons_self, rfl⟩

theorem Inv.waiting_entry (h : Inv cfg s) (hq : q ∈ s.waiting s.receiver) :
    ∃ push K info, Entry s q push K info := by
  obtain ⟨push, hp, hmany, hsome⟩ := mem_waiting.mp hq
  obtain ⟨info, hlookup⟩ := Option.isSome_iff_exists.mp hsome
  obtain ⟨q', b, K, hts, he⟩ := h.pending _ _ hlookup
  obtain rfl := h.eq_of_timestamp he.found hp he.many hts
  exact ⟨b, K, info, he⟩

theorem Tracks.advanced_self (h : Tracks s p K) (hnew : (p, k) ∉ s.arrived)
    (hwaits : p ∈ s.waiting t) : Tracks (s.advanced p k t frames) p (insert k K) where
  arrived j hj := by
    rcases Finset.mem_insert.mp hj with rfl | hj
    · exact Finset.mem_insert_self _ _
    · exact Finset.mem_insert_of_mem (h.arrived j hj)
  all hnot j hj := by
    rw [mem_abandoned_advanced, not_or] at hnot
    rcases Finset.mem_insert.mp hj with heq | hj
    · rw [(Prod.mk.inj heq).2]
      exact Finset.mem_insert_self _ _
    · exact Finset.mem_insert_of_mem (h.all hnot.1 j hj)
  missed habandoned := by
    rcases mem_abandoned_advanced.mp habandoned with habandoned | ⟨-, hout, -⟩
    · obtain ⟨j, hj, hout⟩ := h.missed habandoned
      refine ⟨j, Finset.mem_insert_of_mem hj, fun hin => ?_⟩
      rcases Finset.mem_insert.mp hin with rfl | hin
      · exact hnew hj
      · exact hout hin
    · exact absurd hwaits hout

theorem Tracks.advanced_of_ne (h : Tracks s q K) (hne : q ≠ p) (hwaits : q ∈ s.waiting t) :
    Tracks (s.advanced p k t frames) q K where
  arrived j hj := Finset.mem_insert_of_mem (h.arrived j hj)
  all hnot j hj := by
    rw [mem_abandoned_advanced, not_or] at hnot
    exact h.all hnot.1 j (Finset.mem_of_mem_insert_of_ne hj (by simp [hne]))
  missed habandoned := by
    rcases mem_abandoned_advanced.mp habandoned with habandoned | ⟨-, hout, -⟩
    · obtain ⟨j, hj, hout⟩ := h.missed habandoned
      exact ⟨j, Finset.mem_insert_of_mem hj, hout⟩
    · exact absurd hwaits hout

theorem Inv.advance (h : Inv cfg s) (hp : s.pushes[p]? = some push)
    (hmany : 1 < push.datagrams.length) (hnew : (p, k) ∉ s.arrived) (htracks : Tracks s p K)
    {ready : Bool} (ha : Advances s push K k t ready) (hready : ready = !frames.isEmpty)
    (hpayload : ∀ f ∈ frames, f.payload = startCode cfg ++ push.data)
    (hconsistent : (s.advanced p k t frames).abs.Consistent) :
    Inv cfg (s.advanced p k t frames) where
  running := h.running
  sent := h.sent
  apart := h.apart
  held := ha.held
  known ts seq hdup := by
    rcases ha.known ts seq hdup with hdup | ⟨rfl, rfl⟩
    · obtain ⟨q, j, b, harrived, hb⟩ := h.known ts seq hdup
      exact ⟨q, j, b, Finset.mem_insert_of_mem harrived, hb⟩
    · exact ⟨p, k, push, Finset.mem_insert_self _ _, hp, rfl, rfl⟩
  pending ts info hlookup := by
    by_cases hts : ts = push.header.timestamp
    · subst hts
      obtain ⟨hpending, hincomplete⟩ := ha.own info hlookup
      have hwaits : p ∈ s.waiting t :=
        mem_waiting.mpr ⟨push, hp, hmany, Option.isSome_iff_exists.mpr ⟨info, hlookup⟩⟩
      exact ⟨p, push, insert k K, rfl, hp, hmany, hpending, htracks.advanced_self hnew hwaits,
        Finset.insert_nonempty _ _, hincomplete⟩
    · obtain ⟨hbefore, hslots⟩ := ha.others ts info hts hlookup
      obtain ⟨q, b, L, hb, he⟩ := h.pending ts info hbefore
      have hne : q ≠ p := by
        rintro rfl
        exact hts (hb ▸ congrArg (·.header.timestamp) (Option.some.inj (he.found.symm.trans hp)))
      have hwaits : q ∈ s.waiting t := by
        refine mem_waiting.mpr ⟨b, he.found, he.many, Option.isSome_iff_exists.mpr ⟨info, ?_⟩⟩
        rw [hb]
        exact hlookup
      exact ⟨q, b, L, hb, he.found, he.many, he.pending.congr hslots,
        he.tracks.advanced_of_ne hne hwaits, he.nonempty, he.incomplete⟩
  waiting q b j hb hmany' hj hnot hdelivered := by
    change s.pushes[q]? = some b at hb
    rw [mem_abandoned_advanced, not_or] at hnot
    rw [mem_delivered_advanced, not_or] at hdelivered
    by_contra hnone
    change ¬ (t.frames.lookup b.header.timestamp).isSome at hnone
    -- The frame is not in the receiver any more: it has just been dropped.
    have hout : q ∉ s.waiting t := by
      intro hin
      obtain ⟨b', hb', -, hsome⟩ := mem_waiting.mp hin
      rw [hb] at hb'
      cases hb'
      exact hnone hsome
    have hgone : ∀ hin : (s.receiver.frames.lookup b.header.timestamp).isSome,
        ¬ (q = p → frames.isEmpty = true) := fun hin hempty =>
      hnot.2 ⟨mem_waiting.mpr ⟨b, hb, hmany', hin⟩, hout, hempty⟩
    by_cases hqp : q = p
    · subst hqp
      rw [hp] at hb
      cases hb
      have hempty : frames = [] := by
        by_contra hne
        exact hdelivered.2 ⟨rfl, hne⟩
      rw [hempty] at hready
      exact hgone (ha.lost hready (Option.not_isSome_iff_eq_none.mp hnone)) fun _ => by
        rw [hempty]
        rfl
    · refine hgone ?_ fun heq => absurd heq hqp
      exact h.waiting q b j hb hmany' (Finset.mem_of_mem_insert_of_ne hj (by simp [hqp])) hnot.1
        hdelivered.1
  dropped ts hsome := by
    rcases ha.dropped ts hsome with hbefore | ⟨hnot, hin, hnone⟩
    · obtain ⟨q, hq, hb⟩ := h.dropped ts hbefore
      exact ⟨q, mem_abandoned_advanced.mpr (.inl hq), hb⟩
    · obtain ⟨info, hlookup⟩ := Option.isSome_iff_exists.mp hin
      obtain ⟨q, b, L, rfl, he⟩ := h.pending ts info hlookup
      refine ⟨q, mem_abandoned_advanced.mpr (.inr ⟨?_, ?_, ?_⟩), b, he.found, rfl⟩
      · exact mem_waiting.mpr ⟨b, he.found, he.many, hin⟩
      · intro hwaits
        obtain ⟨b', hb', -, hsome'⟩ := mem_waiting.mp hwaits
        rw [he.found] at hb'
        cases hb'
        rw [hnone] at hsome'
        cases hsome'
      · rintro rfl
        have hfound := he.found
        rw [hp] at hfound
        cases hfound
        have hfalse := hnot rfl
        rw [hready, Bool.not_eq_false'] at hfalse
        exact hfalse
  completed ts hsome := by
    rcases ha.completed ts hsome with hbefore | ⟨rfl, htrue⟩
    · obtain ⟨q, hq, hb⟩ := h.completed ts hbefore
      exact ⟨q, mem_delivered_advanced.mpr (.inl hq), hb⟩
    · refine ⟨p, mem_delivered_advanced.mpr (.inr ⟨rfl, ?_⟩), push, hp, hmany, rfl⟩
      rintro rfl
      rw [hready] at htrue
      cases htrue
  abandoned q hq := by
    rcases mem_abandoned_advanced.mp hq with hq | ⟨hq, -, -⟩
    · obtain ⟨b, hb, hmany', j, hj⟩ := h.abandoned q hq
      exact ⟨b, hb, hmany', j, Finset.mem_insert_of_mem hj⟩
    · obtain ⟨b, L, info, he⟩ := h.waiting_entry hq
      obtain ⟨j, hj⟩ := he.nonempty
      exact ⟨b, he.found, he.many, j, Finset.mem_insert_of_mem (he.tracks.arrived j hj)⟩
  frames q g hg := by
    rcases List.mem_append.mp hg with hg | hg
    · exact h.frames q g hg
    · obtain ⟨f, hf, heq⟩ := List.mem_map.mp hg
      cases heq
      exact ⟨push, hp, hpayload g hf⟩
  consistent := hconsistent

end ConnectUdp.Uvgrtp
