import ConnectUdp.Jrtp.ParseRawPacket
import ConnectUdp.Jrtp.SourceStats
import ConnectUdp.OrderedQueue

/-!
# The packets of one source

`RTPInternalSourceData::ProcessRTPPacket` puts the packets of a source into a list that is ordered
by the extended sequence numbers; `GetNextPacket` takes them out.  The callback
`OnValidatedRTPPacket` leaves every packet to the list, as it does by default.
-/

namespace ConnectUdp.Jrtp

open SequenceNumber OrderedQueue

def RTPINTERNALSOURCEDATA_MAXPROBATIONPACKETS : Nat := 32

inductive ProbationType
  | noProbation
  | probationDiscard
  | probationStore
  deriving DecidableEq, Repr

def seqnr (p : Packet) : Nat :=
  p.extseqnr.toNat

structure RTPInternalSourceData where
  stats : RTPSourceStats
  probationtype : ProbationType
  validated : Bool
  ownssrc : Bool
  issender : Bool
  packetlist : List Packet
  deriving DecidableEq, Repr

namespace RTPInternalSourceData

-- The source of another participant, when its first packet comes in.
def new (probationtype : ProbationType) : RTPInternalSourceData :=
  ⟨.new, probationtype, false, false, false, []⟩

def applyprobation (s : RTPInternalSourceData) : Bool :=
  !s.validated && s.probationtype ≠ .noProbation

-- The packet with the lowest number goes when too many wait for the end of probation.
def makeRoom (s : RTPInternalSourceData) : List Packet :=
  if s.validated = false ∧ s.packetlist.length = RTPINTERNALSOURCEDATA_MAXPROBATIONPACKETS then
    s.packetlist.tail
  else s.packetlist

/-- `true` when the packet is stored. -/
def insertPacket (s : RTPInternalSourceData) (rtppack : Packet) : RTPInternalSourceData × Bool :=
  if s.packetlist = [] then ({ s with packetlist := [rtppack] }, true)
  else
    match OrderedQueue.insert seqnr rtppack s.makeRoom with
    | some packetlist => ({ s with packetlist := packetlist }, true)
    -- A packet with this number is there.
    | none => ({ s with packetlist := s.makeRoom }, false)

def markSender (s : RTPInternalSourceData) : RTPInternalSourceData :=
  if s.validated = true ∧ s.ownssrc = false then { s with issender := true } else s

def processed (s : RTPInternalSourceData) (rtppack : Packet) : RTPSourceStats.Processed :=
  s.stats.processPacket rtppack.extseqnr s.applyprobation

def processRTPPacket (s : RTPInternalSourceData) (rtppack : Packet) :
    RTPInternalSourceData × Bool :=
  let p := s.processed rtppack
  let s := { s with stats := p.stats }
  let rtppack := { rtppack with extseqnr := p.extseqnr }
  match s.probationtype with
  | .probationStore =>
    if !(p.onprobation || p.accept) then (s, false)
    else { s with validated := s.validated || p.accept }.markSender.insertPacket rtppack
  | .probationDiscard | .noProbation =>
    if !p.accept then (s, false)
    else { s with validated := true }.markSender.insertPacket rtppack

def getNextPacket (s : RTPInternalSourceData) : Option (Packet × RTPInternalSourceData) :=
  if s.validated then
    match s.packetlist with
    | [] => none
    | p :: packetlist => some (p, { s with packetlist := packetlist })
  else none

/-! ## The order of the list -/

variable {s t : RTPInternalSourceData} {rtppack p : Packet} {stored : Bool}

@[simp] theorem markSender_packetlist (s : RTPInternalSourceData) :
    s.markSender.packetlist = s.packetlist := by
  unfold markSender
  split <;> rfl

@[simp] theorem markSender_validated (s : RTPInternalSourceData) :
    s.markSender.validated = s.validated := by
  unfold markSender
  split <;> rfl

@[simp] theorem markSender_stats (s : RTPInternalSourceData) :
    s.markSender.stats = s.stats := by
  unfold markSender
  split <;> rfl

@[simp] theorem markSender_probationtype (s : RTPInternalSourceData) :
    s.markSender.probationtype = s.probationtype := by
  unfold markSender
  split <;> rfl

theorem makeRoom_sublist (s : RTPInternalSourceData) : s.makeRoom.Sublist s.packetlist := by
  unfold makeRoom
  split
  · exact List.tail_sublist _
  · exact .refl _

theorem makeRoom_ordered (h : Ordered seqnr s.packetlist) : Ordered seqnr s.makeRoom :=
  List.Pairwise.sublist s.makeRoom_sublist h

/-- Either the number is in the list, or the packet joins it. -/
theorem insertPacket_cases (h : Ordered seqnr s.packetlist) (rtppack : Packet) :
    (s.packetlist ≠ [] ∧ (∃ q ∈ s.makeRoom, seqnr q = seqnr rtppack) ∧
      s.insertPacket rtppack = ({ s with packetlist := s.makeRoom }, false)) ∨
    ((∀ q ∈ s.makeRoom, seqnr q ≠ seqnr rtppack) ∧ ∃ packetlist,
      packetlist.Perm (rtppack :: s.makeRoom) ∧ Ordered seqnr packetlist ∧
      s.insertPacket rtppack = ({ s with packetlist := packetlist }, true)) := by
  have hroom := makeRoom_ordered h
  unfold insertPacket
  by_cases hnil : s.packetlist = []
  · have hempty : s.makeRoom = [] := by
      unfold makeRoom
      rw [hnil]
      split <;> rfl
    rw [if_pos hnil, hempty]
    apply Or.inr
    constructor
    · intro q hq
      cases hq
    · exact ⟨[rtppack], .refl _, List.pairwise_singleton _ _, rfl⟩
  · rw [if_neg hnil]
    cases hinsert : OrderedQueue.insert seqnr rtppack s.makeRoom with
    | none => exact .inl ⟨hnil, (insert_eq_none_iff hroom).mp hinsert, rfl⟩
    | some packetlist =>
      apply Or.inr
      constructor
      · intro q hq heq
        have hnone := (insert_eq_none_iff (a := rtppack) hroom).mpr ⟨q, hq, heq⟩
        rw [hinsert] at hnone
        cases hnone
      · exact ⟨packetlist, insert_perm hinsert, hroom.insert hinsert, rfl⟩

-- Only the list changes.
theorem insertPacket_source (s : RTPInternalSourceData) (rtppack : Packet) :
    (s.insertPacket rtppack).1.stats = s.stats ∧
      (s.insertPacket rtppack).1.validated = s.validated ∧
      (s.insertPacket rtppack).1.probationtype = s.probationtype := by
  unfold insertPacket
  split
  · exact ⟨rfl, rfl, rfl⟩
  · split <;> exact ⟨rfl, rfl, rfl⟩

theorem insertPacket_ordered (h : Ordered seqnr s.packetlist) (rtppack : Packet) :
    Ordered seqnr (s.insertPacket rtppack).1.packetlist := by
  rcases insertPacket_cases h rtppack with ⟨-, -, heq⟩ | ⟨-, l, -, hl, heq⟩
  · rw [heq]
    exact makeRoom_ordered h
  · rw [heq]
    exact hl

theorem eq_or_mem_makeRoom (h : Ordered seqnr s.packetlist) {q : Packet}
    (hq : q ∈ (s.insertPacket rtppack).1.packetlist) : q = rtppack ∨ q ∈ s.makeRoom := by
  rcases insertPacket_cases h rtppack with ⟨-, -, heq⟩ | ⟨-, l, hperm, -, heq⟩
  · rw [heq] at hq
    exact .inr hq
  · rw [heq] at hq
    exact List.mem_cons.mp (hperm.mem_iff.mp hq)

/-- When no other packet has to go, the list has the packet afterwards and what it had before. -/
theorem mem_insertPacket (h : Ordered seqnr s.packetlist)
    (hsame : ∀ q ∈ s.packetlist, seqnr q = seqnr rtppack → q = rtppack)
    (hroom : s.makeRoom = s.packetlist ∨ s.packetlist.head? = some rtppack) (q : Packet) :
    q ∈ (s.insertPacket rtppack).1.packetlist ↔ q = rtppack ∨ q ∈ s.packetlist := by
  have hmem : q = rtppack ∨ q ∈ s.makeRoom ↔ q = rtppack ∨ q ∈ s.packetlist := by
    rcases hroom with hall | hhead
    · rw [hall]
    · obtain ⟨l, hl⟩ : ∃ l, s.packetlist = rtppack :: l := by
        cases hlist : s.packetlist with
        | nil =>
          rw [hlist] at hhead
          cases hhead
        | cons p l =>
          rw [hlist] at hhead
          cases hhead
          exact ⟨l, rfl⟩
      unfold makeRoom
      split
      · rw [hl, List.tail_cons, List.mem_cons, ← or_assoc, or_self]
      · exact Iff.rfl
  rcases insertPacket_cases h rtppack with ⟨-, ⟨p, hp, hkey⟩, heq⟩ |
    ⟨-, l, hperm, -, heq⟩
  · have hp' := hsame p (s.makeRoom_sublist.subset hp) hkey
    rw [heq, ← hmem]
    constructor
    · exact Or.inr
    · intro hq
      rcases hq with rfl | hq
      · exact hp' ▸ hp
      · exact hq
  · rw [heq, ← hmem]
    exact hperm.mem_iff.trans List.mem_cons

/-- Whatever the packets and the probation, the list stays ordered and no number is in it twice. -/
theorem processRTPPacket_ordered (h : Ordered seqnr s.packetlist) (rtppack : Packet) :
    Ordered seqnr (s.processRTPPacket rtppack).1.packetlist := by
  unfold processRTPPacket
  dsimp only
  split
  · split
    · exact h
    · apply insertPacket_ordered
      rw [markSender_packetlist]
      exact h
  all_goals
    split
    · exact h
    · apply insertPacket_ordered
      rw [markSender_packetlist]
      exact h

/-! ## What the list consists of -/

theorem mem_insertPacket_of_mem {q : Packet} (h : q ∈ (s.insertPacket rtppack).1.packetlist) :
    q = rtppack ∨ q ∈ s.packetlist := by
  unfold insertPacket at h
  split at h
  · exact .inl (List.mem_singleton.mp h)
  · cases hinsert : OrderedQueue.insert seqnr rtppack s.makeRoom with
    | none =>
      rw [hinsert] at h
      exact .inr (s.makeRoom_sublist.subset h)
    | some packetlist =>
      rw [hinsert] at h
      rcases List.mem_cons.mp ((insert_perm hinsert).mem_iff.mp h) with heq | hq
      · exact .inl heq
      · exact .inr (s.makeRoom_sublist.subset hq)

/-- A packet in the list has been there before, or it is the new one under its number. -/
theorem mem_processRTPPacket {q : Packet} (h : q ∈ (s.processRTPPacket rtppack).1.packetlist) :
    q = { rtppack with extseqnr := q.extseqnr } ∨ q ∈ s.packetlist := by
  have hinserted : ∀ t : RTPInternalSourceData, q ∈ (t.markSender.insertPacket
        { rtppack with extseqnr := (s.processed rtppack).extseqnr }).1.packetlist →
      t.packetlist = s.packetlist →
      q = { rtppack with extseqnr := q.extseqnr } ∨ q ∈ s.packetlist := by
    intro t hq ht
    rcases mem_insertPacket_of_mem hq with heq | hold
    · exact .inl (heq ▸ rfl)
    · rw [markSender_packetlist, ht] at hold
      exact .inr hold
  unfold processRTPPacket at h
  dsimp only at h
  split at h
  · split at h
    · exact .inr h
    · exact hinserted _ h rfl
  all_goals
    split at h
    · exact .inr h
    · exact hinserted _ h rfl

/-! ## What processing does to a source that stores packets on probation -/

-- The next packet with this number ends the probation, or there is none.
def Accepts (s : RTPInternalSourceData) (n : UInt32) : Prop :=
  s.applyprobation = false ∨ s.stats.EndsProbation n

instance Accepts.decidable (s : RTPInternalSourceData) (n : UInt32) : Decidable (s.Accepts n) :=
  inferInstanceAs (Decidable (_ ∨ _))

-- The source before the packet is put into the list.
def taken (s : RTPInternalSourceData) (rtppack : Packet) : RTPInternalSourceData :=
  { s with
    stats := (s.processed rtppack).stats
    validated := s.validated || (s.processed rtppack).accept }.markSender

@[simp] theorem taken_packetlist (s : RTPInternalSourceData) (rtppack : Packet) :
    (s.taken rtppack).packetlist = s.packetlist :=
  markSender_packetlist _

@[simp] theorem taken_stats (s : RTPInternalSourceData) (rtppack : Packet) :
    (s.taken rtppack).stats = (s.processed rtppack).stats :=
  markSender_stats _

@[simp] theorem taken_validated (s : RTPInternalSourceData) (rtppack : Packet) :
    (s.taken rtppack).validated = (s.validated || (s.processed rtppack).accept) :=
  markSender_validated _

@[simp] theorem taken_probationtype (s : RTPInternalSourceData) (rtppack : Packet) :
    (s.taken rtppack).probationtype = s.probationtype :=
  markSender_probationtype _

-- A source is validated with the first packet that is accepted.
structure Consistent (s : RTPInternalSourceData) : Prop where
  probationtype : s.probationtype = .probationStore
  counted : s.stats.Counted
  validated : s.validated = s.stats.sentdata

theorem consistent_new : (new .probationStore).Consistent :=
  ⟨rfl, RTPSourceStats.counted_new, rfl⟩

theorem Consistent.insertPacket (h : s.Consistent) (rtppack : Packet) :
    (s.insertPacket rtppack).1.Consistent := by
  obtain ⟨hstats, hvalidated, hprobationtype⟩ := insertPacket_source s rtppack
  constructor
  · rw [hprobationtype, h.probationtype]
  · rw [hstats]
    exact h.counted
  · rw [hstats, hvalidated, h.validated]

/-- The number of the packet, and the state of the source afterwards. -/
inductive Step (s : RTPInternalSourceData) (n : UInt32) (p : RTPSourceStats.Processed) : Prop
  | probation (hsent : s.stats.sentdata = false) (haccepts : ¬ s.Accepts n)
      (hextseqnr : p.extseqnr = n) (hafter : p.stats.sentdata = false)
      (hcounted : p.stats.Counted) (haccept : p.accept = false)
      (honprobation : p.onprobation = true)
  | first (hsent : s.stats.sentdata = false) (haccepts : s.Accepts n)
      (hextseqnr : p.extseqnr.toNat = if n = 0 then 2 ^ 16 else n.toNat)
      (hhigh : p.stats.exthighseqnr = p.extseqnr) (hafter : p.stats.sentdata = true)
      (hcounted : p.stats.Counted) (haccept : p.accept = true)
  | next (hsent : s.stats.sentdata = true) (hextended : s.stats.Extended n p)

theorem step_first {stats : RTPSourceStats} {n : UInt32} (hsent : s.stats.sentdata = false)
    (haccepts : s.Accepts n) (hn : n.toNat < 2 ^ 16) (hcounted : stats.Counted)
    (hfresh : stats.sentdata = false) : s.Step n (stats.acceptPacket n) :=
  .first hsent haccepts (RTPSourceStats.toNat_acceptPacket stats n) rfl rfl
    (hcounted.acceptPacket hfresh hn) rfl

theorem Consistent.step (h : s.Consistent) {rtppack : Packet} (hn : rtppack.extseqnr.toNat < 2 ^ 16)
    (hbound : s.stats.sentdata = true → s.stats.exthighseqnr.toNat + 2 ^ 17 ≤ 2 ^ 32) :
    s.Step rtppack.extseqnr (s.processed rtppack) := by
  unfold processed RTPSourceStats.processPacket
  cases hsent : s.stats.sentdata with
  | true =>
    rw [if_pos rfl]
    exact .next hsent (RTPSourceStats.nextPackets_extended h.counted hsent hn (hbound hsent))
  | false =>
    have hcounted : ∀ prevseqnr probation,
        { s.stats with prevseqnr := prevseqnr, probation := probation }.Counted :=
      fun _ _ => ⟨h.counted.numcycles⟩
    rw [if_neg Bool.false_ne_true]
    rcases RTPSourceStats.firstPackets_cases s.stats rtppack.extseqnr s.applyprobation with
      ⟨happly, heq⟩ | ⟨happly, hends, heq⟩ | ⟨happly, hends, probation, heq⟩
    · rw [heq]
      exact step_first hsent (.inl happly) hn h.counted hsent
    · rw [heq]
      exact step_first hsent (.inr hends) hn (hcounted _ _) hsent
    · rw [heq]
      refine .probation hsent ?_ rfl hsent (hcounted _ _) rfl rfl
      rintro (hfalse | hends')
      · rw [happly] at hfalse
        cases hfalse
      · exact hends hends'

theorem Consistent.validated_taken_iff (h : s.Consistent) {rtppack : Packet}
    (hstep : s.Step rtppack.extseqnr (s.processed rtppack)) :
    (s.taken rtppack).validated = true ↔ s.validated = true ∨ s.Accepts rtppack.extseqnr := by
  rw [taken_validated, Bool.or_eq_true]
  cases hstep with
  | probation hsent haccepts _ _ _ haccept =>
    rw [h.validated, hsent, haccept]
    simp only [Bool.false_eq_true, false_or, haccepts]
  | first _ haccepts _ _ _ _ haccept => simp only [haccept, haccepts, or_true]
  | next hsent _ => simp only [h.validated, hsent, true_or]

theorem Step.accept_or {n : UInt32} {p : RTPSourceStats.Processed} (h : s.Step n p) :
    (p.onprobation || p.accept) = true := by
  cases h with
  | probation _ _ _ _ _ _ honprobation => rw [honprobation, Bool.true_or]
  | first _ _ _ _ _ _ haccept => rw [haccept, Bool.or_true]
  | next _ hextended => rw [hextended.accept, Bool.or_true]

/-- Every packet is offered to the list. -/
theorem Consistent.processRTPPacket_eq (h : s.Consistent) {rtppack : Packet}
    (hstep : s.Step rtppack.extseqnr (s.processed rtppack)) : s.processRTPPacket rtppack =
      (s.taken rtppack).insertPacket
        { rtppack with extseqnr := (s.processed rtppack).extseqnr } := by
  rw [processRTPPacket, RTPInternalSourceData.taken, h.probationtype]
  dsimp only
  rw [hstep.accept_or, Bool.not_true, if_neg Bool.false_ne_true]

theorem Consistent.taken (h : s.Consistent) {rtppack : Packet}
    (hstep : s.Step rtppack.extseqnr (s.processed rtppack)) : (s.taken rtppack).Consistent := by
  refine ⟨(taken_probationtype s rtppack).trans h.probationtype, ?_, ?_⟩
  · rw [taken_stats]
    cases hstep with
    | probation _ _ _ _ hcounted => exact hcounted
    | first _ _ _ _ _ hcounted => exact hcounted
    | next _ hextended => exact hextended.counted
  · rw [taken_stats, taken_validated, h.validated]
    cases hstep with
    | probation hsent _ _ hafter _ haccept => rw [hsent, hafter, haccept, Bool.or_false]
    | first _ _ _ _ hafter _ haccept => rw [hafter, haccept, Bool.or_true]
    | next _ hextended => rw [hextended.accept, hextended.sentdata, Bool.or_true]

end RTPInternalSourceData

end ConnectUdp.Jrtp
