import ConnectUdp.Jrtp.Sources

/-!
# Where the packets of a source come from

The first address that packets of an SSRC come from keeps the SSRC: whatever datagrams arrive from
whatever senders, what is taken out under one SSRC has come from one address.
-/

namespace ConnectUdp.Jrtp

open InsertionTable Transition

/-- The packet belongs to the source, and it has come from the address of the source. -/
structure Origin (received : List (RTPIPv4Address × Packet)) (ssrc : UInt32)
    (srcdat : SourceEntry) (p : Packet) : Prop where
  ssrc_eq : p.ssrc = ssrc
  address : ∃ addr, srcdat.rtpaddr = some (some addr) ∧
    ∃ q, (addr, q) ∈ received ∧ p = { q with extseqnr := p.extseqnr }

theorem Origin.mono {received received' : List (RTPIPv4Address × Packet)} {ssrc : UInt32}
    {srcdat srcdat' : SourceEntry} {p : Packet} (h : Origin received ssrc srcdat p)
    (hsubset : received ⊆ received')
    (haddr : ∀ a, srcdat.rtpaddr = some a → srcdat'.rtpaddr = some a) :
    Origin received' ssrc srcdat' p := by
  obtain ⟨hssrc, addr, hset, q, hq, heq⟩ := h
  exact ⟨hssrc, addr, haddr _ hset, q, hsubset hq, heq⟩

namespace RTPSources

/-! ## What processing may do to the table -/

/-- Addresses stay, and what is new in a list has its origin among the packets received. -/
structure Grows (received : List (RTPIPv4Address × Packet)) (s t : RTPSources) : Prop where
  owndata : t.owndata = s.owndata
  address : ∀ ssrc srcdat a, s.sourcelist.lookup ssrc = some srcdat → srcdat.rtpaddr = some a →
    ∃ srcdat', t.sourcelist.lookup ssrc = some srcdat' ∧ srcdat'.rtpaddr = some a
  packets : ∀ ssrc srcdat', t.sourcelist.lookup ssrc = some srcdat' →
    ∀ p ∈ srcdat'.internal.packetlist,
      (∃ srcdat, s.sourcelist.lookup ssrc = some srcdat ∧ p ∈ srcdat.internal.packetlist) ∨
      Origin received ssrc srcdat' p

variable {received : List (RTPIPv4Address × Packet)} {s t u : RTPSources} {ssrc : UInt32}
  {srcdat : SourceEntry} {sender : RTPIPv4Address}

theorem Grows.of_eq (hlist : t.sourcelist = s.sourcelist) (hown : t.owndata = s.owndata) :
    Grows received s t := by
  refine ⟨hown, fun ssrc srcdat a hget haddr => ?_, fun ssrc srcdat' hget p hp => .inl ?_⟩
  · exact ⟨srcdat, hlist ▸ hget, haddr⟩
  · exact ⟨srcdat', hlist ▸ hget, hp⟩

theorem Grows.rtpaddr_eq {srcdat' : SourceEntry} {a : Option RTPIPv4Address}
    (h : Grows received s t) (hs : s.sourcelist.lookup ssrc = some srcdat)
    (ht : t.sourcelist.lookup ssrc = some srcdat') (haddr : srcdat.rtpaddr = some a) :
    srcdat'.rtpaddr = some a := by
  obtain ⟨new, hnew, haddr'⟩ := h.address ssrc srcdat a hs haddr
  rw [ht] at hnew
  cases hnew
  exact haddr'

theorem Grows.trans (h₁ : Grows received s t) (h₂ : Grows received t u) : Grows received s u := by
  refine ⟨h₂.owndata.trans h₁.owndata, fun ssrc srcdat a hget haddr => ?_,
    fun ssrc srcdat'' hget p hp => ?_⟩
  · obtain ⟨srcdat', hget', haddr'⟩ := h₁.address ssrc srcdat a hget haddr
    exact h₂.address ssrc srcdat' a hget' haddr'
  · rcases h₂.packets ssrc srcdat'' hget p hp with ⟨srcdat', hget', hp'⟩ | horigin
    · rcases h₁.packets ssrc srcdat' hget' p hp' with hold | horigin
      · exact .inl hold
      · apply Or.inr
        exact horigin.mono (List.Subset.refl _) fun _ ha => h₂.rtpaddr_eq hget' hget ha
    · exact .inr horigin

theorem Grows.put (haddr : ∀ old a, s.sourcelist.lookup ssrc = some old → old.rtpaddr = some a →
      srcdat.rtpaddr = some a)
    (hpackets : ∀ p ∈ srcdat.internal.packetlist,
      (∃ old, s.sourcelist.lookup ssrc = some old ∧ p ∈ old.internal.packetlist) ∨
      Origin received ssrc srcdat p) : Grows received s (s.put ssrc srcdat) := by
  constructor
  · rfl
  · intro k old a hget ha
    show ∃ srcdat', (InsertionTable.put ssrc srcdat s.sourcelist).lookup k = some srcdat' ∧ _
    by_cases hk : k = ssrc
    · subst hk
      exact ⟨srcdat, lookup_put_self _ _ _, haddr old a hget ha⟩
    · exact ⟨old, (lookup_put_of_ne hk).trans hget, ha⟩
  · intro k srcdat' hget p hp
    have hget' : (InsertionTable.put ssrc srcdat s.sourcelist).lookup k = some srcdat' := hget
    by_cases hk : k = ssrc
    · subst hk
      rw [lookup_put_self] at hget'
      cases hget'
      exact hpackets p hp
    · rw [lookup_put_of_ne hk] at hget'
      exact .inl ⟨srcdat', hget', hp⟩

theorem onSSRCCollision_eq (s : RTPSources) (ssrc : UInt32) :
    (s.onSSRCCollision ssrc).sourcelist = s.sourcelist ∧
      (s.onSSRCCollision ssrc).owndata = s.owndata := by
  unfold onSSRCCollision
  split
  · exact ⟨rfl, rfl⟩
  · split <;> exact ⟨rfl, rfl⟩

theorem grows_onSSRCCollision (s : RTPSources) (ssrc : UInt32) :
    Grows received s (s.onSSRCCollision ssrc) :=
  .of_eq (s.onSSRCCollision_eq ssrc).1 (s.onSSRCCollision_eq ssrc).2

-- A new SSRC for the session leaves the entries of the others alone.
theorem lookup_createOwnSSRC {newssrc k : UInt32} (hnew : k ≠ newssrc) (hown : k ≠ s.owndata) :
    (s.deleteOwnSSRC.createOwnSSRC newssrc).sourcelist.lookup k = s.sourcelist.lookup k := by
  show (InsertionTable.put newssrc _ (s.sourcelist.erase s.owndata)).lookup k = _
  rw [lookup_put_of_ne hnew, AList.lookup_erase_ne hown]

/-- The entry is new, or it is the old one with the address of the sender. -/
theorem obtain_eq_some {create : SourceEntry → SourceEntry}
    (h : s.obtain ssrc (some sender) create = some srcdat) :
    (s.sourcelist.lookup ssrc = none ∧ srcdat = create .new) ∨
    ∃ old, s.sourcelist.lookup ssrc = some old ∧ srcdat.internal = old.internal ∧
      srcdat.rtpaddr = some (some sender) ∧
      (old.rtpaddr = none ∨ old.rtpaddr = some (some sender)) := by
  unfold obtain at h
  cases hget : s.sourcelist.lookup ssrc with
  | none =>
    rw [hget] at h
    exact .inl ⟨rfl, (Option.some.inj h).symm⟩
  | some old =>
    rw [hget] at h
    obtain ⟨hinternal, haddr, hold⟩ := SourceEntry.checkCollision_eq_some h
    exact .inr ⟨old, rfl, hinternal, haddr, hold⟩

theorem obtain_address {create : SourceEntry → SourceEntry} {old : SourceEntry}
    {a : Option RTPIPv4Address} (h : s.obtain ssrc (some sender) create = some srcdat)
    (hget : s.sourcelist.lookup ssrc = some old) (ha : old.rtpaddr = some a) :
    srcdat.rtpaddr = some a := by
  rcases obtain_eq_some h with ⟨hnone, -⟩ | ⟨old', hget', -, haddr, hold⟩
  · rw [hget] at hnone
    cases hnone
  · rw [hget] at hget'
    cases hget'
    rcases hold with hnone | hsame
    · rw [hnone] at ha
      cases ha
    · rw [← ha, hsame]
      exact haddr

theorem obtain_packets {create : SourceEntry → SourceEntry}
    (hcreate : (create .new).internal.packetlist = [])
    (h : s.obtain ssrc (some sender) create = some srcdat) {p : Packet}
    (hp : p ∈ srcdat.internal.packetlist) :
    ∃ old, s.sourcelist.lookup ssrc = some old ∧ p ∈ old.internal.packetlist := by
  rcases obtain_eq_some h with ⟨-, heq⟩ | ⟨old, hget, hinternal, -⟩
  · rw [heq, hcreate] at hp
    cases hp
  · rw [hinternal] at hp
    exact ⟨old, hget, hp⟩

theorem grows_processCSRC (s : RTPSources) (csrc : UInt32) :
    Grows received s (processCSRC (some sender) s csrc) := by
  unfold processCSRC
  split
  · exact s.grows_onSSRCCollision csrc
  next csrcdat hobtain =>
    apply Grows.put
    · intro old a hget ha
      show csrcdat.rtpaddr = some a
      exact obtain_address hobtain hget ha
    · intro p hp
      exact .inl (obtain_packets rfl hobtain hp)

theorem grows_processCSRCs (csrcs : List UInt32) (s : RTPSources) :
    Grows received s (csrcs.foldl (processCSRC (some sender)) s) := by
  induction csrcs generalizing s with
  | nil => exact .of_eq rfl rfl
  | cons csrc csrcs ih => exact (s.grows_processCSRC csrc).trans (ih _)

theorem grows_processRTPPacket {rtppack : Packet} (s : RTPSources)
    (hreceived : (sender, rtppack) ∈ received) :
    Grows received s (s.processRTPPacket rtppack (some sender)) := by
  unfold processRTPPacket
  split
  · exact s.grows_onSSRCCollision rtppack.ssrc
  next srcdat hobtain =>
    have haddr : srcdat.rtpaddr = some (some sender) := by
      rcases obtain_eq_some hobtain with ⟨-, heq⟩ | ⟨_, -, -, haddr, -⟩
      · rw [heq]
        rfl
      · exact haddr
    have hput : Grows received s (s.put rtppack.ssrc
        { srcdat with internal := (srcdat.internal.processRTPPacket rtppack).1 }) := by
      apply Grows.put
      · intro old a hget ha
        show srcdat.rtpaddr = some a
        exact obtain_address hobtain hget ha
      · intro p hp
        rcases RTPInternalSourceData.mem_processRTPPacket hp with heq | hold
        · apply Or.inr
          constructor
          · rw [heq]
          · exact ⟨sender, haddr, rtppack, hreceived, heq⟩
        · exact .inl (obtain_packets rfl hobtain hold)
    dsimp only
    split
    · exact hput.trans (grows_processCSRCs _ _)
    · exact hput

end RTPSources

/-! ## Whole runs -/

namespace Polled

open RTPSources

/-- What holds of the packets of `x`, taken out or not, as long as `x` does not time out. -/
structure OriginInv (x : UInt32) (s : Polled) : Prop where
  own : ∃ srcdat, s.sources.sourcelist.lookup s.sources.owndata = some srcdat ∧
    srcdat.rtpaddr = some none
  waiting : ∀ ssrc srcdat, s.sources.sourcelist.lookup ssrc = some srcdat →
    ∀ p ∈ srcdat.internal.packetlist, Origin s.received ssrc srcdat p
  handed : ∀ p ∈ s.handed, p.ssrc = x → ∃ srcdat,
    s.sources.sourcelist.lookup x = some srcdat ∧ Origin s.received x srcdat p

variable {transmitter : RTPUDPv4Transmitter} {x own : UInt32} {s t : Polled}

theorem originInv_start (x own : UInt32) : OriginInv x (start own) := by
  have hget : ∀ ssrc srcdat, (start own).sources.sourcelist.lookup ssrc = some srcdat →
      ssrc = own ∧ srcdat = (SourceEntry.new.setOwnSSRC.setRTPDataAddress none).setRTCPDataAddress
        none := by
    intro ssrc srcdat hget
    have hput : (InsertionTable.put own _ ∅).lookup ssrc = some srcdat := hget
    by_cases hown : ssrc = own
    · rw [hown, lookup_put_self] at hput
      exact ⟨hown, (Option.some.inj hput).symm⟩
    · rw [lookup_put_of_ne hown, AList.lookup_empty] at hput
      cases hput
  refine ⟨⟨_, lookup_put_self _ _ _, rfl⟩, fun ssrc srcdat hlookup p hp => ?_,
    fun p hp => by cases hp⟩
  rw [(hget ssrc srcdat hlookup).2] at hp
  cases hp

theorem OriginInv.grows {sources : RTPSources} {received : List (RTPIPv4Address × Packet)}
    (h : OriginInv x s) (hgrows : Grows received s.sources sources)
    (hsubset : s.received ⊆ received) :
    OriginInv x { s with sources := sources, received := received } := by
  obtain ⟨srcdat, hget, haddr⟩ := h.own
  refine ⟨?_, fun ssrc srcdat' hget' p hp => ?_, fun p hp hx => ?_⟩
  · show ∃ srcdat, sources.sourcelist.lookup sources.owndata = some srcdat ∧ _
    rw [hgrows.owndata]
    exact hgrows.address _ srcdat none hget haddr
  · rcases hgrows.packets ssrc srcdat' hget' p hp with ⟨old, hold, hp'⟩ | horigin
    · exact (h.waiting ssrc old hold p hp').mono hsubset fun _ ha => hgrows.rtpaddr_eq hold hget' ha
    · exact horigin
  · obtain ⟨old, hold, horigin⟩ := h.handed p hp hx
    obtain ⟨addr, hset, -⟩ := horigin.address
    obtain ⟨new, hnew, -⟩ := hgrows.address x old _ hold hset
    exact ⟨new, hnew, horigin.mono hsubset fun _ ha => hgrows.rtpaddr_eq hold hnew ha⟩

-- Entries that go away leave the others alone.
theorem OriginInv.of_lookup (h : OriginInv x s) {sources : RTPSources}
    (hown : ∃ srcdat, sources.sourcelist.lookup sources.owndata = some srcdat ∧
      srcdat.rtpaddr = some none)
    (hold : ∀ ssrc srcdat, sources.sourcelist.lookup ssrc = some srcdat →
      s.sources.sourcelist.lookup ssrc = some srcdat ∨ srcdat.internal.packetlist = [])
    (hx : ∀ srcdat addr, s.sources.sourcelist.lookup x = some srcdat →
      srcdat.rtpaddr = some (some addr) → sources.sourcelist.lookup x = some srcdat) :
    OriginInv x { s with sources := sources } := by
  refine ⟨hown, fun ssrc srcdat hget p hp => ?_, fun p hp hpx => ?_⟩
  · rcases hold ssrc srcdat hget with hget' | hempty
    · exact h.waiting ssrc srcdat hget' p hp
    · rw [hempty] at hp
      cases hp
  · obtain ⟨srcdat, hget, horigin⟩ := h.handed p hp hpx
    obtain ⟨addr, hset, -⟩ := horigin.address
    exact ⟨srcdat, hx srcdat addr hget hset, horigin⟩

theorem OriginInv.congr (h : OriginInv x s) (hsources : t.sources = s.sources)
    (hreceived : t.received = s.received) (hhanded : t.handed = s.handed) : OriginInv x t := by
  constructor
  · rw [hsources]
    exact h.own
  · rw [hsources, hreceived]
    exact h.waiting
  · rw [hsources, hreceived, hhanded]
    exact h.handed

theorem OriginInv.changeOwnSSRC (h : OriginInv x s) {newssrc : UInt32}
    (hnew : newssrc ∉ s.sources.sourcelist) :
    OriginInv x { s with sources := s.sources.deleteOwnSSRC.createOwnSSRC newssrc } := by
  obtain ⟨owndata, hget, haddr⟩ := h.own
  apply h.of_lookup
  · exact ⟨_, lookup_put_self _ _ _, rfl⟩
  · intro ssrc srcdat hlookup
    have hput : (InsertionTable.put newssrc _
      (s.sources.sourcelist.erase s.sources.owndata)).lookup ssrc = some srcdat := hlookup
    by_cases hk : ssrc = newssrc
    · rw [hk, lookup_put_self] at hput
      cases hput
      exact .inr rfl
    · by_cases hown : ssrc = s.sources.owndata
      · rw [lookup_put_of_ne hk, hown, AList.lookup_erase] at hput
        cases hput
      · exact .inl ((lookup_createOwnSSRC hk hown).symm.trans hlookup)
  · intro srcdat addr hlookup hset
    have hown : x ≠ s.sources.owndata := by
      intro hx
      rw [hx, hget] at hlookup
      cases hlookup
      rw [haddr] at hset
      cases hset
    have hk : x ≠ newssrc := by
      intro hx
      apply hnew
      rw [← hx]
      exact AList.lookup_isSome.mp (hlookup ▸ rfl)
    exact (lookup_createOwnSSRC hk hown).trans hlookup

theorem createNewSSRC_notMem {sources : RTPSources} {randoms : List UInt32} {newssrc : UInt32}
    (h : sources.createNewSSRC randoms = some newssrc) :
    newssrc ∉ sources.sourcelist ∧ newssrc ∈ randoms := by
  constructor
  · have hnot := List.find?_some h
    rw [Bool.not_eq_true', gotEntry, decide_eq_false_iff_not] at hnot
    exact hnot
  · exact List.mem_of_find?_eq_some h

theorem OriginInv.process (h : OriginInv x s) (rtppack : Packet) (sender : RTPIPv4Address) :
    OriginInv x (s.process rtppack sender) := by
  have hmem : (sender, rtppack) ∈ s.received ++ [(sender, rtppack)] :=
    List.mem_append_right _ List.mem_cons_self
  have hgrows : Grows (s.received ++ [(sender, rtppack)]) s.sources
      (s.process rtppack sender).sources :=
    Grows.trans (t := { s.sources with owncollision := false }) (.of_eq rfl rfl)
      (grows_processRTPPacket _ hmem)
  exact h.grows hgrows (List.subset_append_left _ _)

theorem OriginInv.poll (h : OriginInv x s) {datagram : List UInt8} {sender : RTPIPv4Address}
    {randoms : List UInt32}
    (hnext : s.processRawPacket transmitter datagram sender randoms = some t) :
    OriginInv x t := by
  unfold processRawPacket at hnext
  split at hnext
  · cases hnext
    exact h
  · cases hnext
    exact h.congr rfl rfl rfl
  next rtppack _ =>
    split at hnext
    · cases hnext
      exact h
    have hprocess := h.process rtppack sender
    unfold handleCollision at hnext
    split at hnext
    · obtain ⟨newssrc, hnew, rfl⟩ := Option.map_eq_some_iff.mp hnext
      exact (hprocess.changeOwnSSRC (createNewSSRC_notMem hnew).1).congr rfl rfl rfl
    · cases hnext
      exact hprocess

theorem OriginInv.takeOut (h : OriginInv x s) : OriginInv x { s with
    sources := { s.sources with
      sourcelist := (visitAll SourceEntry.take s.sources.sourcelist).2 }
    handed := s.handed ++ (visitAll SourceEntry.take s.sources.sourcelist).1 } := by
  have hkept : ∀ ssrc srcdat, s.sources.sourcelist.lookup ssrc = some srcdat →
      (visitAll SourceEntry.take s.sources.sourcelist).2.lookup ssrc = some srcdat.take.2 := by
    intro ssrc srcdat hget
    rw [lookup_visitAll, hget]
    rfl
  obtain ⟨owndata, hget, haddr⟩ := h.own
  refine ⟨⟨owndata.take.2, hkept _ _ hget, owndata.take_snd.1.trans haddr⟩,
    fun ssrc srcdat' hget' p hp => ?_, fun p hp hx => ?_⟩
  · have hvisited : (visitAll SourceEntry.take s.sources.sourcelist).2.lookup ssrc =
        some srcdat' := hget'
    rw [lookup_visitAll] at hvisited
    obtain ⟨srcdat, hold, rfl⟩ := Option.map_eq_some_iff.mp hvisited
    exact (h.waiting ssrc srcdat hold p (srcdat.take_snd.2 p hp)).mono (List.Subset.refl _)
      fun a ha => srcdat.take_snd.1.trans ha
  · have horigin : ∃ srcdat, s.sources.sourcelist.lookup x = some srcdat ∧
        Origin s.received x srcdat p := by
      rcases List.mem_append.mp hp with hp | hp
      · exact h.handed p hp hx
      · obtain ⟨ssrc, srcdat, hold, hp'⟩ := mem_visitAll hp
        have horigin := h.waiting ssrc srcdat hold p (SourceEntry.mem_take hp')
        have hssrc : ssrc = x := horigin.ssrc_eq.symm.trans hx
        exact ⟨srcdat, hssrc ▸ hold, hssrc ▸ horigin⟩
    obtain ⟨srcdat, hold, horigin⟩ := horigin
    exact ⟨srcdat.take.2, hkept x srcdat hold, horigin.mono (List.Subset.refl _)
      fun a ha => srcdat.take_snd.1.trans ha⟩

theorem OriginInv.keep {a : PollAct} (h : OriginInv x s) (hok : a ≠ .timeout x)
    (hnext : next transmitter s a = some t) : OriginInv x t := by
  cases a with
  | poll datagram sender randoms => exact h.poll (next_poll_iff.mp hnext).2
  | timeout ssrc =>
    obtain ⟨-, hne, rfl⟩ := next_timeout_iff.mp hnext
    obtain ⟨owndata, hget, haddr⟩ := h.own
    apply h.of_lookup
    · exact ⟨owndata, (AList.lookup_erase_ne (Ne.symm hne)).trans hget, haddr⟩
    · intro k srcdat hlookup
      have herase : (s.sources.sourcelist.erase ssrc).lookup k = some srcdat := hlookup
      by_cases hk : k = ssrc
      · rw [hk, AList.lookup_erase] at herase
        cases herase
      · rw [AList.lookup_erase_ne hk] at herase
        exact .inl herase
    · intro srcdat addr hlookup _
      have hk : x ≠ ssrc := fun hx => hok (congrArg PollAct.timeout hx.symm)
      exact (AList.lookup_erase_ne hk).trans hlookup
  | collisionTimeout addr =>
    obtain ⟨-, rfl⟩ := next_collisionTimeout_iff.mp hnext
    exact h.congr rfl rfl rfl
  | takeOut =>
    obtain ⟨-, rfl⟩ := next_takeOut_iff.mp hnext
    exact h.takeOut

theorem originInv_of_reachable
    (h : (machine transmitter own).ReachableBy (fun _ a => a ≠ .timeout x) s) : OriginInv x s :=
  h.invariant (fun _ hinit => hinit ▸ originInv_start x own)
    fun _ _ _ hinv hok hnext => hinv.keep hok hnext

/-- As long as an SSRC does not time out, everything that is taken out under it has come from one
and the same address. -/
theorem handed_from_one_address
    (h : (machine transmitter own).ReachableBy (fun _ a => a ≠ .timeout x) s) :
    ∃ addr, ∀ p ∈ s.handed, p.ssrc = x →
      ∃ q, (addr, q) ∈ s.received ∧ p = { q with extseqnr := p.extseqnr } := by
  have hinv := originInv_of_reachable h
  by_cases hany : ∃ p ∈ s.handed, p.ssrc = x
  · obtain ⟨p, hp, hx⟩ := hany
    obtain ⟨srcdat, hget, horigin⟩ := hinv.handed p hp hx
    obtain ⟨addr, haddr, -⟩ := horigin.address
    refine ⟨addr, fun p' hp' hx' => ?_⟩
    -- The entry is the same for both packets, and it has one address.
    obtain ⟨_, hget', horigin'⟩ := hinv.handed p' hp' hx'
    rw [hget] at hget'
    cases hget'
    obtain ⟨addr', haddr', hq⟩ := horigin'.address
    rw [haddr] at haddr'
    cases haddr'
    exact hq
  · exact ⟨⟨0, 0⟩, fun p hp hx => absurd ⟨p, hp, hx⟩ hany⟩

def ownTransmitter : RTPUDPv4Transmitter :=
  ⟨[0x0A000001], 5000, 5001⟩

def firstSender : RTPIPv4Address :=
  ⟨0x0A000002, 6000⟩

def otherSender : RTPIPv4Address :=
  ⟨0x0A000003, 6000⟩

-- A packet of the source 12 with one byte of payload.
def datagramOf12 (number payload : UInt8) : List UInt8 :=
  [0x80, 96, 0, number, 0, 0, 0, 0, 0, 0, 0, 12, payload]

-- Another sender uses the SSRC 12 as well, and then the one of the session.
def sharedSsrc : List PollAct :=
  [.poll (datagramOf12 1 11) firstSender [], .poll (datagramOf12 2 22) otherSender [],
    .poll (datagramOf12 2 12) firstSender [], .poll (datagramOf12 3 13) firstSender [],
    .poll [0x80, 96, 0, 1, 0, 0, 0, 0, 0, 0, 0, 77, 5] otherSender [12, 99], .takeOut]

theorem handed_from_one_address_sharedSsrc :
    ∃ s, (machine ownTransmitter 77).exec (start 77) sharedSsrc = some s ∧
      s.handed.map Packet.payload = [[11], [12], [13]] ∧ s.sources.owndata = 99 ∧
      ∃ addr, ∀ p ∈ s.handed, p.ssrc = 12 →
        ∃ q, (addr, q) ∈ s.received ∧ p = { q with extseqnr := p.extseqnr } := by
  have hrun : ((machine ownTransmitter 77).exec (start 77) sharedSsrc).map
      (fun s => (s.handed.map Packet.payload, s.sources.owndata)) =
        some ([[11], [12], [13]], 99) := by
    decide +kernel
  obtain ⟨s, hexec, heq⟩ := Option.map_eq_some_iff.mp hrun
  have hsteps : (machine ownTransmitter 77).StepsMeet (fun _ a => a ≠ .timeout 12) (start 77)
      sharedSsrc := by
    decide +kernel
  exact ⟨s, hexec, congrArg Prod.fst heq, congrArg Prod.snd heq,
    handed_from_one_address ((Machine.ReachableBy.start rfl).of_exec hsteps hexec)⟩

end Polled

end ConnectUdp.Jrtp
