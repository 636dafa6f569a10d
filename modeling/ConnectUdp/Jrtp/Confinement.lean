import ConnectUdp.Jrtp.Reception
import ConnectUdp.Jrtp.SourceOrigin

/-!
# One sender among others

A session receives the packets of one sender among datagrams of any origin.  As long as these do not
come from the sender's own address or before its first packet, the source of the sender is as if
the others did not exist.
-/

namespace ConnectUdp.Jrtp

open InsertionTable Transition SequenceNumber

/-- The SSRC of a sender and the address it sends from. -/
structure Peer where
  ssrc : UInt32
  address : RTPIPv4Address
  deriving DecidableEq, Repr

namespace RTPSources

/-! ## The entry of the sender -/

variable {peer : Peer} {s t : RTPSources} {sender : RTPIPv4Address} {rtppack : Packet}

-- The entry has the address of the sender, if there is one.
def Belongs (peer : Peer) (s : RTPSources) : Prop :=
  ∀ srcdat, s.sourcelist.lookup peer.ssrc = some srcdat →
    srcdat.rtpaddr = some (some peer.address)

-- Another SSRC, or an address that cannot be taken for that of the sender any more.
def Foreign (peer : Peer) (s : RTPSources) (sender : RTPIPv4Address) (ssrc : UInt32) : Prop :=
  ssrc ≠ peer.ssrc ∨ peer.ssrc ∈ s.sourcelist ∧ sender ≠ peer.address

instance Foreign.decidable (peer : Peer) (s : RTPSources) (sender : RTPIPv4Address)
    (ssrc : UInt32) : Decidable (Foreign peer s sender ssrc) :=
  inferInstanceAs (Decidable (_ ∨ _))

theorem Foreign.congr {ssrc : UInt32} (h : Foreign peer s sender ssrc)
    (hlookup : t.sourcelist.lookup peer.ssrc = s.sourcelist.lookup peer.ssrc) :
    Foreign peer t sender ssrc := by
  rcases h with hne | ⟨hmem, hsender⟩
  · exact .inl hne
  · refine .inr ⟨?_, hsender⟩
    rw [← AList.lookup_isSome, hlookup, AList.lookup_isSome]
    exact hmem

-- What a foreign packet or mention puts into the table is not the entry of the sender.
theorem Belongs.ne_of_obtain {ssrc : UInt32} {create : SourceEntry → SourceEntry}
    {srcdat : SourceEntry} (h : Belongs peer s) (hforeign : Foreign peer s sender ssrc)
    (hobtain : s.obtain ssrc (some sender) create = some srcdat) : ssrc ≠ peer.ssrc := by
  rcases hforeign with hne | ⟨hmem, hsender⟩
  · exact hne
  · intro heq
    subst heq
    obtain ⟨old, hget⟩ := Option.isSome_iff_exists.mp (AList.lookup_isSome.mpr hmem)
    rw [obtain, hget] at hobtain
    dsimp only at hobtain
    rw [SourceEntry.checkCollision_of_rtpaddr (h old hget), if_neg hsender] at hobtain
    cases hobtain

theorem lookup_put_of_foreign {ssrc : UInt32} (srcdat : SourceEntry) (h : ssrc ≠ peer.ssrc) :
    (s.put ssrc srcdat).sourcelist.lookup peer.ssrc = s.sourcelist.lookup peer.ssrc :=
  lookup_put_of_ne (Ne.symm h)

theorem lookup_onSSRCCollision (s : RTPSources) (ssrc k : UInt32) :
    (s.onSSRCCollision ssrc).sourcelist.lookup k = s.sourcelist.lookup k := by
  rw [(s.onSSRCCollision_eq ssrc).1]

theorem lookup_processCSRC {csrc : UInt32} (h : Belongs peer s)
    (hforeign : Foreign peer s sender csrc) :
    (processCSRC (some sender) s csrc).sourcelist.lookup peer.ssrc =
      s.sourcelist.lookup peer.ssrc := by
  unfold processCSRC
  split
  · exact s.lookup_onSSRCCollision csrc peer.ssrc
  next hobtain => exact lookup_put_of_foreign _ (h.ne_of_obtain hforeign hobtain)

theorem lookup_processCSRCs {csrcs : List UInt32} (h : Belongs peer s)
    (hforeign : ∀ csrc ∈ csrcs, Foreign peer s sender csrc) :
    (csrcs.foldl (processCSRC (some sender)) s).sourcelist.lookup peer.ssrc =
      s.sourcelist.lookup peer.ssrc := by
  induction csrcs generalizing s with
  | nil => rfl
  | cons csrc csrcs ih =>
    have hstep := lookup_processCSRC h (hforeign csrc List.mem_cons_self)
    have hbelongs : Belongs peer (processCSRC (some sender) s csrc) := by
      intro srcdat hget
      exact h srcdat (hstep ▸ hget)
    rw [List.foldl_cons, ih hbelongs fun k hk =>
      (hforeign k (List.mem_cons_of_mem csrc hk)).congr hstep, hstep]

-- Neither the packet nor a contributing source of it is taken for the sender.
def ForeignPacket (peer : Peer) (s : RTPSources) (sender : RTPIPv4Address) (rtppack : Packet) :
    Prop :=
  Foreign peer s sender rtppack.ssrc ∧ ∀ csrc ∈ rtppack.csrcs, Foreign peer s sender csrc

instance ForeignPacket.decidable (peer : Peer) (s : RTPSources) (sender : RTPIPv4Address)
    (rtppack : Packet) : Decidable (ForeignPacket peer s sender rtppack) :=
  -- Only the elements of the list are tested, not all numbers of 32 bits.
  @instDecidableAnd _ _ inferInstance (List.decidableBAll _ _)

theorem lookup_processRTPPacket (h : Belongs peer s)
    (hforeign : ForeignPacket peer s sender rtppack) :
    (s.processRTPPacket rtppack (some sender)).sourcelist.lookup peer.ssrc =
      s.sourcelist.lookup peer.ssrc := by
  unfold processRTPPacket
  split
  · exact s.lookup_onSSRCCollision rtppack.ssrc peer.ssrc
  next srcdat hobtain =>
    have hput : ∀ srcdat', (s.put rtppack.ssrc srcdat').sourcelist.lookup peer.ssrc =
        s.sourcelist.lookup peer.ssrc :=
      fun srcdat' => lookup_put_of_foreign srcdat' (h.ne_of_obtain hforeign.1 hobtain)
    dsimp only
    split
    · rw [lookup_processCSRCs, hput]
      · intro srcdat' hget
        exact h srcdat' (hput _ ▸ hget)
      · intro csrc hcsrc
        exact (hforeign.2 csrc (List.mem_of_mem_take hcsrc)).congr (hput _)
    · exact hput _

/-- A packet of the sender itself goes to its entry, which is made if there is none. -/
theorem lookup_processRTPPacket_self (h : Belongs peer s) (hssrc : rtppack.ssrc = peer.ssrc)
    (hcsrcs : rtppack.csrcs = []) : ∃ srcdat,
    (s.processRTPPacket rtppack (some peer.address)).sourcelist.lookup peer.ssrc = some srcdat ∧
    srcdat.internal = (((s.sourcelist.lookup peer.ssrc).elim (.new .probationStore)
      SourceEntry.internal).processRTPPacket rtppack).1 ∧
    srcdat.rtpaddr = some (some peer.address) ∧
    (s.processRTPPacket rtppack (some peer.address)).owncollision = s.owncollision := by
  obtain ⟨old, hobtain, hinternal, haddr⟩ : ∃ old,
      (s.obtain rtppack.ssrc (some peer.address) fun srcdat =>
        srcdat.setRTPDataAddress (some peer.address)) = some old ∧
      old.internal = (s.sourcelist.lookup peer.ssrc).elim (.new .probationStore)
        SourceEntry.internal ∧ old.rtpaddr = some (some peer.address) := by
    rw [hssrc, obtain]
    cases hget : s.sourcelist.lookup peer.ssrc with
    | none => exact ⟨_, rfl, rfl, rfl⟩
    | some srcdat =>
      dsimp only
      rw [SourceEntry.checkCollision_of_rtpaddr (h srcdat hget), if_pos rfl]
      exact ⟨srcdat, rfl, rfl, h srcdat hget⟩
  have hprocessed : s.processRTPPacket rtppack (some peer.address) = s.put rtppack.ssrc
      { old with internal := (old.internal.processRTPPacket rtppack).1 } := by
    rw [processRTPPacket, hobtain]
    dsimp only
    rw [hcsrcs, List.take_nil, List.foldl_nil, ite_self]
  rw [hprocessed, hssrc]
  refine ⟨_, lookup_put_self _ _ _, ?_, haddr, rfl⟩
  rw [hinternal]

end RTPSources

/-! ## The sender and the others -/

/-- `arrived` records the packets of the sender as a `Reception` does. -/
structure Shared (n : Nat) where
  polled : Polled
  arrived : List (Fin n × UInt32)

inductive SharedAct (n : Nat)
  -- A packet of the sender, from its address.
  | arrive (i : Fin n)
  | other (a : PollAct)
  deriving DecidableEq, Repr

def ReceptionAct.arrival {n : Nat} : ReceptionAct n → Option (Fin n)
  | .arrive i => some i
  | .getNextPacket => none

def SharedAct.arrival {n : Nat} : SharedAct n → Option (Fin n)
  | .arrive i => some i
  | .other _ => none

namespace Reception

variable {sent : List RTPPacket} {first cycle : Nat} {r : Reception sent.length}

/-- `GetNextPacket` is called until there is nothing left. -/
def takeAll {n : Nat} (r : Reception n) : Reception n :=
  if r.source.validated then
    { r with
      source := { r.source with packetlist := [] }
      handed := r.handed ++ r.source.packetlist }
  else r

theorem exec_getNextPackets {packetlist : List Packet} (hcrashed : r.crashed = false)
    (hvalidated : r.source.validated = true) (hlist : r.source.packetlist = packetlist) :
    (machine sent).exec r (List.replicate packetlist.length .getNextPacket) = some { r with
      source := { r.source with packetlist := [] }
      handed := r.handed ++ packetlist } := by
  induction packetlist generalizing r with
  | nil =>
    rw [List.append_nil, List.length_nil, List.replicate_zero, ← hlist]
    rfl
  | cons p packetlist ih =>
    have hnext : next sent r .getNextPacket = some { r with
        source := { r.source with packetlist := packetlist }
        handed := r.handed ++ [p] } := by
      rw [next, hcrashed, if_neg Bool.false_ne_true, RTPInternalSourceData.getNextPacket,
        if_pos hvalidated, hlist]
      rfl
    refine Machine.exec_cons_eq_some.mpr ⟨_, hnext, (ih ?_ ?_ ?_).trans ?_⟩
    · exact hcrashed
    · exact hvalidated
    · rfl
    · rw [List.append_assoc]
      rfl

theorem exec_takeAll (hcrashed : r.crashed = false) :
    ∃ bs, bs.filterMap ReceptionAct.arrival = [] ∧ (machine sent).exec r bs = some r.takeAll := by
  unfold takeAll
  split
  next hvalidated =>
    exact ⟨_, List.filterMap_replicate_of_none rfl, exec_getNextPackets hcrashed hvalidated rfl⟩
  next => exact ⟨[], rfl, rfl⟩

theorem Inv.takeAll (h : Inv first cycle r) : Inv first cycle r.takeAll := by
  unfold Reception.takeAll
  split
  next hvalidated => exact h.hand hvalidated (List.append_nil _).symm
  next => exact h

end Reception

namespace Shared

open RTPSources Polled

-- The source of the sender, as it will be when it is new.
def sourceOf (peer : Peer) (s : Polled) : RTPInternalSourceData :=
  (s.sources.sourcelist.lookup peer.ssrc).elim (.new .probationStore) SourceEntry.internal

/-- What the session would be if there were only the sender. -/
def view {n : Nat} (peer : Peer) (s : Shared n) : Reception n :=
  ⟨sourceOf peer s.polled, s.arrived, s.polled.handed.filter fun p => p.ssrc = peer.ssrc,
    s.polled.crashed⟩

def next (transmitter : RTPUDPv4Transmitter) (peer : Peer) (sent : List RTPPacket)
    (s : Shared sent.length) : SharedAct sent.length → Option (Shared sent.length)
  | .arrive i =>
    (s.polled.next transmitter
      (.poll ((sent.get i).received.bytes []) peer.address [])).map fun polled =>
        ⟨polled, s.arrived ++
          [(i, ((sourceOf peer s.polled).processed (sent.get i).received).extseqnr)]⟩
  | .other a => (s.polled.next transmitter a).map fun polled => { s with polled := polled }

def start (n : Nat) (ssrc : UInt32) : Shared n :=
  ⟨.start ssrc, []⟩

def machine (transmitter : RTPUDPv4Transmitter) (ssrc : UInt32) (peer : Peer)
    (sent : List RTPPacket) : Machine (Shared sent.length) (SharedAct sent.length) :=
  ⟨fun s => s = start sent.length ssrc, next transmitter peer sent⟩

/-- A datagram of another sender can be read, and it is not taken for one of the sender. -/
def Other (peer : Peer) (s : RTPSources) (sender : RTPIPv4Address) : Parsed → Prop
  | .ok rtppack => ForeignPacket peer s sender rtppack
  | .error _ => True
  | .readOutside => False

/-- The others neither take the SSRC of the sender before it has been heard of nor its address
afterwards, and the entry of the sender does not time out. -/
def OthersOk (peer : Peer) {n : Nat} (s : Shared n) : SharedAct n → Prop
  | .other (.poll datagram sender randoms) =>
    peer.ssrc ∉ randoms ∧ Other peer s.polled.sources sender (parseRawPacket true datagram)
  | .other (.timeout ssrc) => ssrc ≠ peer.ssrc
  | .arrive _ | .other (.collisionTimeout _) | .other .takeOut => True

-- The packets of the sender arrive as they have to for a faithful reception.
def ArrivalsOk (first cycle : Nat) (peer : Peer) {n : Nat} (s : Shared n) : SharedAct n → Prop
  | .arrive i => Reception.StepOk first cycle (s.view peer) (.arrive i)
  | .other _ => True

instance Other.decidable (peer : Peer) (s : RTPSources) (sender : RTPIPv4Address) :
    DecidablePred (Other peer s sender)
  | .ok rtppack => inferInstanceAs (Decidable (ForeignPacket peer s sender rtppack))
  | .error _ => isTrue trivial
  | .readOutside => isFalse id

instance OthersOk.decidable (peer : Peer) {n : Nat} (s : Shared n) :
    ∀ a, Decidable (OthersOk peer s a)
  | .other (.poll datagram sender randoms) => inferInstanceAs (Decidable (peer.ssrc ∉ randoms ∧
      Other peer s.polled.sources sender (parseRawPacket true datagram)))
  | .other (.timeout ssrc) => inferInstanceAs (Decidable (ssrc ≠ peer.ssrc))
  | .arrive _ | .other (.collisionTimeout _) | .other .takeOut => isTrue trivial

instance ArrivalsOk.decidable (first cycle : Nat) (peer : Peer) {n : Nat} (s : Shared n) :
    ∀ a, Decidable (ArrivalsOk first cycle peer s a)
  | .arrive i =>
    inferInstanceAs (Decidable (Reception.StepOk first cycle (s.view peer) (.arrive i)))
  | .other _ => isTrue trivial

/-! ## The steps of the others -/

variable {transmitter : RTPUDPv4Transmitter} {peer : Peer} {own : UInt32} {polled polled' : Polled}

-- The entry of the sender and what has been taken out of it.
structure SameView (peer : Peer) (s t : Polled) : Prop where
  lookup : t.sources.sourcelist.lookup peer.ssrc = s.sources.sourcelist.lookup peer.ssrc
  handed : t.handed = s.handed
  crashed : t.crashed = s.crashed

theorem SameView.trans {s t u : Polled} (h₁ : SameView peer s t) (h₂ : SameView peer t u) :
    SameView peer s u :=
  ⟨h₂.lookup.trans h₁.lookup, h₂.handed.trans h₁.handed, h₂.crashed.trans h₁.crashed⟩

theorem SameView.view_eq {n : Nat} {arrived : List (Fin n × UInt32)}
    (h : SameView peer polled polled') :
    view peer ⟨polled', arrived⟩ = view peer ⟨polled, arrived⟩ := by
  unfold view sourceOf
  rw [h.lookup, h.handed, h.crashed]

theorem SameView.belongs (h : SameView peer polled polled') (hb : Belongs peer polled.sources) :
    Belongs peer polled'.sources := by
  intro srcdat hget
  exact hb srcdat (h.lookup ▸ hget)

-- The session chooses an SSRC that is not that of the sender.
theorem sameView_handleCollision {s : Polled} {sender : RTPIPv4Address} {randoms : List UInt32}
    (horigin : OriginInv peer.ssrc s) (hb : Belongs peer s.sources)
    (hrandoms : peer.ssrc ∉ randoms) (hnext : s.handleCollision sender randoms = some polled) :
    SameView peer s polled := by
  unfold handleCollision at hnext
  split at hnext
  · obtain ⟨newssrc, hnew, rfl⟩ := Option.map_eq_some_iff.mp hnext
    have hne : peer.ssrc ≠ newssrc :=
      fun heq => hrandoms (heq ▸ (createNewSSRC_notMem hnew).2)
    have hown : peer.ssrc ≠ s.sources.owndata := by
      intro heq
      obtain ⟨srcdat, hget, haddr⟩ := horigin.own
      have hset := hb srcdat (heq ▸ hget)
      rw [haddr] at hset
      cases hset
    exact ⟨lookup_createOwnSSRC hne hown, rfl, rfl⟩
  · cases hnext
    exact ⟨rfl, rfl, rfl⟩

theorem sameView_poll {datagram : List UInt8} {sender : RTPIPv4Address} {randoms : List UInt32}
    (horigin : OriginInv peer.ssrc polled) (hb : Belongs peer polled.sources)
    (hrandoms : peer.ssrc ∉ randoms)
    (hother : Other peer polled.sources sender (parseRawPacket true datagram))
    (hnext : polled.processRawPacket transmitter datagram sender randoms = some polled') :
    SameView peer polled polled' := by
  unfold processRawPacket at hnext
  cases hparse : parseRawPacket true datagram with
  | error status =>
    rw [hparse] at hnext
    cases hnext
    exact ⟨rfl, rfl, rfl⟩
  | readOutside =>
    rw [hparse] at hother
    exact hother.elim
  | ok rtppack =>
    rw [hparse] at hnext hother
    dsimp only at hnext
    split at hnext
    · cases hnext
      exact ⟨rfl, rfl, rfl⟩
    · have hprocess : SameView peer polled (polled.process rtppack sender) :=
        ⟨lookup_processRTPPacket (s := { polled.sources with owncollision := false }) hb hother,
          rfl, rfl⟩
      exact hprocess.trans (sameView_handleCollision (horigin.process rtppack sender)
        (hprocess.belongs hb) hrandoms hnext)

/-! ## What the sender's own steps do to the view -/

variable {sent : List RTPPacket} {first cycle : Nat} {s u : Shared sent.length}

-- What is taken out under the SSRC of the sender is what has waited in its entry.
theorem filter_takeOut (horigin : OriginInv peer.ssrc polled) :
    (polled.handed ++ (visitAll SourceEntry.take polled.sources.sourcelist).1).filter
        (fun p => p.ssrc = peer.ssrc) =
      polled.handed.filter (fun p => p.ssrc = peer.ssrc) ++
        found SourceEntry.take polled.sources.sourcelist peer.ssrc := by
  rw [List.filter_append]
  congr 1
  apply filter_visitAll
  intro ssrc srcdat hget p hp
  exact (horigin.waiting ssrc srcdat hget p (SourceEntry.mem_take hp)).ssrc_eq

theorem view_takeOut (horigin : OriginInv peer.ssrc s.polled) : view peer { s with
      polled := { s.polled with
        sources := { s.polled.sources with
          sourcelist := (visitAll SourceEntry.take s.polled.sources.sourcelist).2 }
        handed := s.polled.handed ++
          (visitAll SourceEntry.take s.polled.sources.sourcelist).1 } } =
    (s.view peer).takeAll := by
  unfold view sourceOf
  dsimp only
  rw [filter_takeOut horigin, lookup_visitAll, found]
  cases hget : s.polled.sources.sourcelist.lookup peer.ssrc with
  | none =>
    dsimp only [Option.map_none, Option.elim_none]
    rw [List.append_nil]
    rfl
  | some srcdat =>
    dsimp only [Option.map_some, Option.elim_some]
    rw [SourceEntry.take_eq, Reception.takeAll]
    by_cases hvalidated : srcdat.internal.validated = true
    · rw [if_pos hvalidated, if_pos hvalidated]
      rfl
    · rw [if_neg hvalidated, if_neg hvalidated]
      dsimp only
      rw [List.append_nil]

/-- A packet of the sender arrives as if there were no other. -/
theorem next_arrive (t : Transmission sent first)
    (hpeer : ∀ p ∈ sent, p.ssrc = peer.ssrc ∧ p.csrcs = [])
    (haddr : transmitter.comesFromThisTransmitter peer.address = false)
    (hb : Belongs peer s.polled.sources) {i : Fin sent.length}
    (hnext : next transmitter peer sent s (.arrive i) = some u) :
    Reception.next sent (s.view peer) (.arrive i) = some (u.view peer) ∧
      Belongs peer u.polled.sources := by
  obtain ⟨polled', hpoll, rfl⟩ := Option.map_eq_some_iff.mp hnext
  obtain ⟨hcrashed, hpoll⟩ := next_poll_iff.mp hpoll
  obtain ⟨hssrc, hcsrcs⟩ := hpeer _ (List.get_mem sent i)
  have hreceived : (sent.get i).received.ssrc = peer.ssrc := hssrc
  obtain ⟨srcdat, hget, hinternal, haddress, hcollision⟩ :=
    lookup_processRTPPacket_self (s := { s.polled.sources with owncollision := false }) hb
      hreceived hcsrcs
  have hprocess : polled' = s.polled.process (sent.get i).received peer.address := by
    have hnone : (s.polled.process (sent.get i).received peer.address).sources.owncollision =
        false := hcollision
    rw [processRawPacket, t.parse i, haddr] at hpoll
    dsimp only at hpoll
    rw [if_neg Bool.false_ne_true, handleCollision, hnone, Bool.false_and,
      if_neg Bool.false_ne_true] at hpoll
    exact (Option.some.inj hpoll).symm
  have hlookup : polled'.sources.sourcelist.lookup peer.ssrc = some srcdat := by
    rw [hprocess]
    exact hget
  constructor
  · have hview : (s.view peer).crashed = false := hcrashed
    rw [Reception.next, if_neg (Bool.eq_false_iff.mp hview), Reception.receive, t.parse i]
    unfold view
    dsimp only
    rw [show sourceOf peer polled' = srcdat.internal by rw [sourceOf, hlookup]; rfl, hinternal,
      hprocess]
    rfl
  · intro srcdat' hget'
    rw [hlookup] at hget'
    cases hget'
    exact haddress

/-! ## Whole runs -/

-- The entry of the sender is its own.
structure Separate (peer : Peer) (s : Polled) : Prop where
  origin : OriginInv peer.ssrc s
  belongs : Belongs peer s.sources

/-- What a step of the session can be for the sender: one of its packets arrives, nothing, or its
packets are taken out. -/
inductive Seen (sent : List RTPPacket) (r r' : Reception sent.length) :
    SharedAct sent.length → Prop
  | arrive (i : Fin sent.length) (hnext : Reception.next sent r (.arrive i) = some r') :
      Seen sent r r' (.arrive i)
  | nothing (a : PollAct) (hsame : r' = r) : Seen sent r r' (.other a)
  | takeOut (hcrashed : r.crashed = false) (htaken : r' = r.takeAll) :
      Seen sent r r' (.other .takeOut)

theorem seen_other (h : Separate peer s.polled) {a : PollAct} (hok : OthersOk peer s (.other a))
    (hnext : s.polled.next transmitter a = some polled') :
    Belongs peer polled'.sources ∧
      Seen sent (s.view peer) (view peer { s with polled := polled' }) (.other a) := by
  cases a with
  | poll datagram sender randoms =>
    have hsame := sameView_poll h.origin h.belongs hok.1 hok.2 (next_poll_iff.mp hnext).2
    exact ⟨hsame.belongs h.belongs, .nothing _ hsame.view_eq⟩
  | timeout ssrc =>
    obtain ⟨-, -, rfl⟩ := next_timeout_iff.mp hnext
    have hsame : SameView peer s.polled { s.polled with
        sources := { s.polled.sources with
          sourcelist := s.polled.sources.sourcelist.erase ssrc } } :=
      ⟨AList.lookup_erase_ne (Ne.symm hok), rfl, rfl⟩
    exact ⟨hsame.belongs h.belongs, .nothing _ hsame.view_eq⟩
  | collisionTimeout addr =>
    obtain ⟨-, rfl⟩ := next_collisionTimeout_iff.mp hnext
    exact ⟨h.belongs, .nothing _ rfl⟩
  | takeOut =>
    obtain ⟨hcrashed, rfl⟩ := next_takeOut_iff.mp hnext
    refine ⟨fun srcdat' hget => ?_, .takeOut hcrashed (view_takeOut h.origin)⟩
    have hvisited : (visitAll SourceEntry.take s.polled.sources.sourcelist).2.lookup
        peer.ssrc = some srcdat' := hget
    rw [lookup_visitAll] at hvisited
    obtain ⟨srcdat, hold, rfl⟩ := Option.map_eq_some_iff.mp hvisited
    exact srcdat.take_snd.1.trans (h.belongs srcdat hold)

theorem Separate.next (h : Separate peer s.polled) (t : Transmission sent first)
    (hpeer : ∀ p ∈ sent, p.ssrc = peer.ssrc ∧ p.csrcs = [])
    (haddr : transmitter.comesFromThisTransmitter peer.address = false)
    {a : SharedAct sent.length} (hok : OthersOk peer s a)
    (hnext : next transmitter peer sent s a = some u) :
    Separate peer u.polled ∧ Seen sent (s.view peer) (u.view peer) a := by
  cases a with
  | arrive i =>
    obtain ⟨hview, hbelongs⟩ := next_arrive t hpeer haddr h.belongs hnext
    obtain ⟨polled', hpoll, rfl⟩ := Option.map_eq_some_iff.mp hnext
    exact ⟨⟨h.origin.keep (fun heq => by cases heq) hpoll, hbelongs⟩, .arrive i hview⟩
  | other a =>
    obtain ⟨polled', hpoll, rfl⟩ := Option.map_eq_some_iff.mp hnext
    have htimeout : a ≠ .timeout peer.ssrc := by
      intro heq
      subst heq
      exact hok rfl
    obtain ⟨hbelongs, hseen⟩ := seen_other h hok hpoll
    exact ⟨⟨h.origin.keep htimeout hpoll, hbelongs⟩, hseen⟩

/-- The sender alone could have done what is seen of it. -/
theorem Seen.exec {r r' : Reception sent.length} {a : SharedAct sent.length}
    (h : Seen sent r r' a) : ∃ bs, bs.filterMap ReceptionAct.arrival = a.arrival.toList ∧
      (Reception.machine sent).exec r bs = some r' := by
  cases h with
  | arrive i hnext => exact ⟨[.arrive i], rfl, Machine.exec_cons_eq_some.mpr ⟨r', hnext, rfl⟩⟩
  | nothing a hsame => exact ⟨[], rfl, congrArg some hsame.symm⟩
  | takeOut hcrashed htaken =>
    rw [htaken]
    exact Reception.exec_takeAll hcrashed

theorem Seen.keep (t : Transmission sent first) {a : SharedAct sent.length}
    (h : Seen sent (s.view peer) (u.view peer) a) (hi : Reception.Inv first cycle (s.view peer))
    (hok : ArrivalsOk first cycle peer s a) : Reception.Inv first cycle (u.view peer) := by
  cases h with
  | arrive i hnext => exact hi.keep t (a := .arrive i) hok hnext
  | nothing a hsame => exact hsame ▸ hi
  | takeOut hcrashed htaken => exact htaken ▸ hi.takeAll

theorem Seen.break (t : Transmission sent first) {a : SharedAct sent.length}
    (h : Seen sent (s.view peer) (u.view peer) a) (hi : Reception.Inv first cycle (s.view peer))
    (hno : ¬ ArrivalsOk first cycle peer s a) : ¬ Reception.Faithful first cycle (u.view peer) := by
  cases h with
  | arrive i hnext => exact hi.break t (a := .arrive i) hno hnext
  | nothing | takeOut => exact absurd trivial hno

-- The packet at this place of `sixSent` arrives.
def arriveAt (k : Nat) : SharedAct Reception.sixSent.transmitted.length :=
  if h : k < Reception.sixSent.transmitted.length then .arrive ⟨k, h⟩ else .other .takeOut

end Shared

end ConnectUdp.Jrtp
