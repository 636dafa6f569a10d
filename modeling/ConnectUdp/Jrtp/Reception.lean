import ConnectUdp.Jrtp.SendVideo
import ConnectUdp.Jrtp.SourceData
import ConnectUdp.Jrtp.Transmission
import ConnectUdp.Transition
import Mathlib.Data.List.FinRange

/-!
# From a JRTPLIB sender to the packets taken out

The packets that one session has transmitted arrive in any order, some of them never and some more
than once, and are taken out with `GetNextPacket` at any time.
-/

namespace ConnectUdp.Jrtp

open SequenceNumber OrderedQueue Transition

/-- `arrived` records the packets that have been processed with the number each of them got,
`handed` what `GetNextPacket` has returned. -/
structure Reception (n : Nat) where
  source : RTPInternalSourceData
  arrived : List (Fin n × UInt32)
  handed : List Packet
  crashed : Bool
  deriving DecidableEq, Repr

inductive ReceptionAct (n : Nat)
  | arrive (i : Fin n)
  | getNextPacket
  deriving DecidableEq, Repr

namespace Reception

variable {sent : List RTPPacket}

-- Invalid packets are deleted.
def receive {n : Nat} (s : Reception n) (i : Fin n) (datagram : List UInt8) : Reception n :=
  match parseRawPacket true datagram with
  | .ok p =>
    { s with
      source := (s.source.processRTPPacket p).1
      arrived := s.arrived ++ [(i, (s.source.processed p).extseqnr)] }
  | .error _ => s
  | .readOutside => { s with crashed := true }

def next (sent : List RTPPacket) (s : Reception sent.length) :
    ReceptionAct sent.length → Option (Reception sent.length)
  | .arrive i => if s.crashed then none else some (s.receive i ((sent.get i).received.bytes []))
  | .getNextPacket =>
    if s.crashed then none
    else s.source.getNextPacket.map fun (p, source) =>
      { s with source := source, handed := s.handed ++ [p] }

def start (n : Nat) : Reception n :=
  ⟨.new .probationStore, [], [], false⟩

def machine (sent : List RTPPacket) : Machine (Reception sent.length) (ReceptionAct sent.length) :=
  ⟨fun s => s = start sent.length, next sent⟩

/-! ## What should come of it -/

/-- Every packet has got its number, and the packets taken out, with those that wait behind them,
are the packets that have arrived, each once, in the order in which they were sent. -/
structure Faithful (first cycle : Nat) (s : Reception sent.length) : Prop where
  crashed : s.crashed = false
  numbers : ∀ a ∈ s.arrived, a.2.toNat + cycle * 2 ^ 16 = first + a.1
  packets : s.handed ++ s.source.packetlist =
    ((s.arrived.map Prod.fst).toFinset.sort (· ≤ ·)).map (packetAt sent first cycle)

/-! ## The steps that keep it so -/

/-- The receiver guesses the number of the packet at `place` right: before anything is accepted
only in its first cycle, which the number zero ends, and then near the highest number. -/
def Guessed (s : RTPInternalSourceData) (cycle place : Nat) : Prop :=
  if s.stats.sentdata then Near (s.stats.exthighseqnr.toNat + cycle * 2 ^ 16) place
  else if s.Accepts (number place) ∧ number place = 0 then place = (cycle + 1) * 2 ^ 16
  else place / 2 ^ 16 = cycle

-- No packet has to go, unless it is the one that arrives.
def HasRoom (s : RTPInternalSourceData) (cycle place : Nat) : Prop :=
  s.validated = true ∨ s.Accepts (number place) ∨
    s.packetlist.length ≠ RTPINTERNALSOURCEDATA_MAXPROBATIONPACKETS ∨
    ∃ q ∈ s.packetlist.head?, seqnr q + cycle * 2 ^ 16 = place

instance Guessed.decidable (s : RTPInternalSourceData) (cycle place : Nat) :
    Decidable (Guessed s cycle place) :=
  inferInstanceAs (Decidable (ite _ _ (ite _ _ _)))

instance HasRoom.decidable (s : RTPInternalSourceData) (cycle place : Nat) :
    Decidable (HasRoom s cycle place) :=
  inferInstanceAs (Decidable (_ ∨ _ ∨ _ ∨ ∃ q ∈ s.packetlist.head?, _))

def StepOk (first cycle : Nat) {n : Nat} (s : Reception n) : ReceptionAct n → Prop
  | .arrive i => Guessed s.source cycle (first + i) ∧ HasRoom s.source cycle (first + i) ∧
      ∀ p ∈ s.handed, seqnr p + cycle * 2 ^ 16 < first + i
  | .getNextPacket => True

instance StepOk.decidable (first cycle : Nat) {n : Nat} (s : Reception n) (a : ReceptionAct n) :
    Decidable (StepOk first cycle s a) :=
  match a with
  | .arrive i => inferInstanceAs (Decidable (Guessed s.source cycle (first + i) ∧
      HasRoom s.source cycle (first + i) ∧ ∀ p ∈ s.handed, seqnr p + cycle * 2 ^ 16 < first + i))
  | .getNextPacket => isTrue trivial

/-! ## The numbers -/

section numbers

variable {first cycle : Nat} {s : Reception sent.length} {i j : Fin sent.length}

/-- What holds in every state of a faithful run. -/
structure Inv (first cycle : Nat) (s : Reception sent.length) : Prop where
  faithful : Faithful first cycle s
  consistent : s.source.Consistent
  high : s.source.stats.sentdata = true →
    s.source.stats.exthighseqnr.toNat + cycle * 2 ^ 16 < first + sent.length
  waiting : s.source.validated = false → s.handed = []

theorem inv_start (first cycle : Nat) : Inv first cycle (start sent.length) := by
  have hnone : ∀ a ∈ (start sent.length).arrived, a.2.toNat + cycle * 2 ^ 16 = first + a.1 := by
    intro a ha
    cases ha
  have hempty : (start sent.length).handed ++ (start sent.length).source.packetlist =
      (((start sent.length).arrived.map Prod.fst).toFinset.sort (· ≤ ·)).map
        (packetAt sent first cycle) := by
    show [] = ((∅ : Finset (Fin sent.length)).sort (· ≤ ·)).map _
    rw [Finset.sort_empty, List.map_nil]
  refine ⟨⟨rfl, hnone, hempty⟩, RTPInternalSourceData.consistent_new, fun hsent => ?_,
    fun _ => rfl⟩
  cases hsent

theorem Faithful.places (h : Faithful first cycle s) {i : Fin sent.length}
    (hi : i ∈ s.arrived.map Prod.fst) : cycle * 2 ^ 16 ≤ first + i := by
  obtain ⟨a, ha, rfl⟩ := List.mem_map.mp hi
  have hnum := h.numbers a ha
  omega

theorem Faithful.ordered (h : Faithful first cycle s) (t : Transmission sent first) :
    Ordered seqnr (s.handed ++ s.source.packetlist) :=
  ((t.packets_iff (fun _ hi => h.places hi) _).mp h.packets).1

theorem Faithful.mem_iff (h : Faithful first cycle s) (t : Transmission sent first) (p : Packet) :
    p ∈ s.handed ++ s.source.packetlist ↔
      ∃ i ∈ s.arrived.map Prod.fst, packetAt sent first cycle i = p :=
  ((t.packets_iff (fun _ hi => h.places hi) _).mp h.packets).2 p

/-- The step that the arrival of a packet makes. -/
theorem Inv.step (h : Inv first cycle s) (t : Transmission sent first) (i : Fin sent.length) :
    s.source.Step (sent.get i).received.extseqnr (s.source.processed (sent.get i).received) := by
  have hbound := t.bound
  apply h.consistent.step
  · rw [t.extseqnr, toNat_number]
    omega
  · intro hsent
    have hhigh := h.high hsent
    omega

/-- A packet gets its number exactly when it is guessed right. -/
theorem Inv.guessed_iff (h : Inv first cycle s) (t : Transmission sent first)
    (i : Fin sent.length) : Guessed s.source cycle (first + i) ↔
      (s.source.processed (sent.get i).received).extseqnr.toNat + cycle * 2 ^ 16 = first + i := by
  have hstep := h.step t i
  have hnum := toNat_number (first + i)
  rw [t.extseqnr] at hstep
  unfold Guessed
  cases hstep with
  | probation hsent haccepts hextseqnr =>
    rw [hsent, if_neg Bool.false_ne_true, if_neg fun hand => haccepts hand.1, hextseqnr, hnum]
    omega
  | first hsent haccepts hextseqnr =>
    rw [hsent, if_neg Bool.false_ne_true, hextseqnr]
    by_cases hzero : number (first + i) = 0
    · rw [if_pos ⟨haccepts, hzero⟩, if_pos hzero]
      omega
    · rw [if_neg fun hand => hzero hand.2, if_neg hzero, hnum]
      omega
  | next hsent hextended =>
    rw [hsent, if_pos rfl, hextended.extseqnr, hnum, ← extend_add_cycles, ← extend_eq_iff]

/-- The highest number is that of a packet that has been sent. -/
theorem Inv.high_step (h : Inv first cycle s) (t : Transmission sent first) {i : Fin sent.length}
    (hguessed : Guessed s.source cycle (first + i))
    (hafter : (s.source.processed (sent.get i).received).stats.sentdata = true) :
    (s.source.processed (sent.get i).received).stats.exthighseqnr.toNat + cycle * 2 ^ 16 <
      first + sent.length := by
  have hright := (h.guessed_iff t i).mp hguessed
  have hlt := i.isLt
  cases h.step t i with
  | probation _ _ _ hfalse =>
    rw [hafter] at hfalse
    cases hfalse
  | first _ _ _ hhigh =>
    rw [hhigh]
    omega
  | next hsent hextended =>
    have hhigh := h.high hsent
    rw [hextended.exthighseqnr]
    omega

end numbers

/-! ## The arrival of a packet -/

section arrival

variable {first cycle : Nat} {s u : Reception sent.length} {i : Fin sent.length}

-- The number that the packet gets.
def numberOf (s : Reception sent.length) (i : Fin sent.length) : UInt32 :=
  (s.source.processed (sent.get i).received).extseqnr

def arrival (s : Reception sent.length) (i : Fin sent.length) : Reception sent.length :=
  { s with
    source := ((s.source.taken (sent.get i).received).insertPacket
      { (sent.get i).received with extseqnr := s.numberOf i }).1
    arrived := s.arrived ++ [(i, s.numberOf i)] }

theorem Inv.next_arrive (h : Inv first cycle s) (t : Transmission sent first)
    (i : Fin sent.length) : next sent s (.arrive i) = some (s.arrival i) := by
  rw [next, h.faithful.crashed, if_neg Bool.false_ne_true, receive, t.parse]
  dsimp only
  rw [h.consistent.processRTPPacket_eq (h.step t i)]
  rfl

theorem packet_eq (hright : (s.numberOf i).toNat + cycle * 2 ^ 16 = first + i) :
    { (sent.get i).received with extseqnr := s.numberOf i } = packetAt sent first cycle i := by
  have hnumber : s.numberOf i = .ofNat (first + i - cycle * 2 ^ 16) := by
    have hsub : first + i - cycle * 2 ^ 16 = (s.numberOf i).toNat := by omega
    rw [hsub, UInt32.ofNat_toNat]
  rw [packetAt, hnumber]

theorem Inv.ordered (h : Inv first cycle s) (t : Transmission sent first) :
    Ordered seqnr s.source.packetlist :=
  (List.pairwise_append.mp (h.faithful.ordered t)).2.1

-- A packet that waits has arrived.
theorem Inv.mem_packetlist (h : Inv first cycle s) (t : Transmission sent first) {q : Packet}
    (hq : q ∈ s.source.packetlist) : ∃ j : Fin sent.length, cycle * 2 ^ 16 ≤ first + j ∧
      packetAt sent first cycle j = q := by
  obtain ⟨j, hj, heq⟩ := (h.faithful.mem_iff t q).mp (List.mem_append_right _ hq)
  exact ⟨j, h.faithful.places hj, heq⟩

theorem Inv.same (h : Inv first cycle s) (t : Transmission sent first)
    {q : Packet} (hq : q ∈ s.source.packetlist)
    (hkey : seqnr q + cycle * 2 ^ 16 = first + i) : q = packetAt sent first cycle i := by
  obtain ⟨j, hj, rfl⟩ := h.mem_packetlist t hq
  have hji : j = i := by
    have hseq := t.seqnr_packetAt hj
    apply Fin.ext
    omega
  rw [hji]

-- The packets for which there is no room are those in whose place the lowest one goes.
theorem Inv.room_iff (h : Inv first cycle s) (t : Transmission sent first)
    (hi : cycle * 2 ^ 16 ≤ first + i) : HasRoom s.source cycle (first + i) ↔
      (s.source.taken (sent.get i).received).makeRoom = s.source.packetlist ∨
        s.source.packetlist.head? = some (packetAt sent first cycle i) := by
  have hvalidated := h.consistent.validated_taken_iff (h.step t i)
  rw [t.extseqnr] at hvalidated
  have hhead : (∃ q ∈ s.source.packetlist.head?, seqnr q + cycle * 2 ^ 16 = first + i) ↔
      s.source.packetlist.head? = some (packetAt sent first cycle i) := by
    constructor
    · rintro ⟨q, hq, hkey⟩
      rw [← h.same t (List.mem_of_mem_head? hq) hkey]
      exact hq
    · intro heq
      exact ⟨_, heq, t.seqnr_packetAt hi⟩
  unfold HasRoom
  rw [hhead, ← or_assoc, ← hvalidated, ← or_assoc]
  apply or_congr _ Iff.rfl
  unfold RTPInternalSourceData.makeRoom
  rw [RTPInternalSourceData.taken_packetlist]
  split
  next hcrowded =>
    apply iff_of_false
    · rw [hcrowded.1]
      simp [hcrowded.2]
    · intro htail
      have hlength := congrArg List.length htail
      rw [List.length_tail, hcrowded.2] at hlength
      cases hlength
  next hcrowded =>
    apply iff_of_true _ rfl
    by_contra hno
    apply hcrowded
    simpa using hno

/-- With room, the list has the new packet and the old ones. -/
theorem Inv.mem_arrival (h : Inv first cycle s) (t : Transmission sent first)
    (hguessed : Guessed s.source cycle (first + i)) (hroom : HasRoom s.source cycle (first + i))
    (q : Packet) : q ∈ (s.arrival i).source.packetlist ↔
      q = packetAt sent first cycle i ∨ q ∈ s.source.packetlist := by
  have hright := (h.guessed_iff t i).mp hguessed
  have hi : cycle * 2 ^ 16 ≤ first + i := Nat.le.intro (Nat.add_comm _ _ ▸ hright)
  have hlist : (s.source.taken (sent.get i).received).packetlist = s.source.packetlist :=
    RTPInternalSourceData.taken_packetlist _ _
  rw [arrival, packet_eq hright, ← hlist]
  apply RTPInternalSourceData.mem_insertPacket
  · rw [hlist]
    exact h.ordered t
  · rw [hlist]
    intro q hq hkey
    apply h.same t hq
    rw [hkey, t.seqnr_packetAt hi]
  · rw [hlist]
    exact (h.room_iff t hi).mp hroom

theorem Inv.ordered_arrival (h : Inv first cycle s) (t : Transmission sent first)
    (i : Fin sent.length) : Ordered seqnr (s.arrival i).source.packetlist := by
  apply RTPInternalSourceData.insertPacket_ordered
  rw [RTPInternalSourceData.taken_packetlist]
  exact h.ordered t

/-- The queue after an arrival that is guessed right, has room and does not come late. -/
theorem Inv.arrive (h : Inv first cycle s) (t : Transmission sent first)
    (hok : StepOk first cycle s (.arrive i)) : Inv first cycle (s.arrival i) := by
  obtain ⟨hguessed, hroom, hlate⟩ := hok
  have hright := (h.guessed_iff t i).mp hguessed
  have hi : cycle * 2 ^ 16 ≤ first + i := Nat.le.intro (Nat.add_comm _ _ ▸ hright)
  have hnumbers : ∀ a ∈ (s.arrival i).arrived, a.2.toNat + cycle * 2 ^ 16 = first + a.1 := by
    intro a ha
    rcases List.mem_append.mp ha with ha | ha
    · exact h.faithful.numbers a ha
    · rw [List.mem_singleton.mp ha]
      exact hright
  have hindices : (s.arrival i).arrived.map Prod.fst = s.arrived.map Prod.fst ++ [i] :=
    List.map_append
  have hmem := h.mem_arrival t hguessed hroom
  obtain ⟨hhanded, -, hcross⟩ := List.pairwise_append.mp (h.faithful.ordered t)
  have hplaces : ∀ j ∈ (s.arrival i).arrived.map Prod.fst, cycle * 2 ^ 16 ≤ first + j := by
    intro j hj
    obtain ⟨a, ha, rfl⟩ := List.mem_map.mp hj
    have hnum := hnumbers a ha
    omega
  have hpackets : ∀ p, p ∈ s.handed ++ (s.arrival i).source.packetlist ↔
      ∃ j ∈ (s.arrival i).arrived.map Prod.fst, packetAt sent first cycle j = p := by
    intro p
    have hold := h.faithful.mem_iff t p
    rw [List.mem_append] at hold
    rw [List.mem_append, hmem, or_left_comm, hold, hindices]
    constructor
    · intro hp
      rcases hp with rfl | ⟨j, hj, heq⟩
      · exact ⟨i, List.mem_append_right _ List.mem_cons_self, rfl⟩
      · exact ⟨j, List.mem_append_left _ hj, heq⟩
    · intro ⟨j, hj, heq⟩
      rcases List.mem_append.mp hj with hj | hj
      · exact .inr ⟨j, hj, heq⟩
      · rw [List.mem_singleton.mp hj] at heq
        exact .inl heq.symm
  have hordered : Ordered seqnr (s.handed ++ (s.arrival i).source.packetlist) := by
    apply List.pairwise_append.mpr
    refine ⟨hhanded, h.ordered_arrival t i, fun p hp q hq => ?_⟩
    rcases (hmem q).mp hq with rfl | hq
    · have hlt := hlate p hp
      have hseq := t.seqnr_packetAt hi
      omega
    · exact hcross p hp q hq
  have hsource := RTPInternalSourceData.insertPacket_source
    (s.source.taken (sent.get i).received)
    { (sent.get i).received with extseqnr := s.numberOf i }
  refine ⟨⟨h.faithful.crashed, hnumbers, (t.packets_iff hplaces _).mpr ⟨hordered, hpackets⟩⟩,
    (h.consistent.taken (h.step t i)).insertPacket _, fun hafter => ?_, fun hafter => ?_⟩
  · rw [arrival, hsource.1, RTPInternalSourceData.taken_stats] at hafter ⊢
    exact h.high_step t hguessed hafter
  · rw [arrival, hsource.2.1, RTPInternalSourceData.taken_validated, Bool.or_eq_false_iff] at hafter
    exact h.waiting hafter.1

-- The lowest packet has gone, although it has arrived.
theorem Inv.not_faithful_of_crowded (h : Inv first cycle s) (t : Transmission sent first)
    (hi : cycle * 2 ^ 16 ≤ first + i) (hroom : ¬ HasRoom s.source cycle (first + i))
    (hright : (s.numberOf i).toNat + cycle * 2 ^ 16 = first + i) :
    ¬ Faithful first cycle (s.arrival i) := by
  intro hf
  rw [h.room_iff t hi, not_or] at hroom
  obtain ⟨hmake, hhead⟩ := hroom
  have hordered := h.ordered t
  have hsubset : ∀ q ∈ (s.arrival i).source.packetlist, q = packetAt sent first cycle i ∨
      q ∈ (s.source.taken (sent.get i).received).makeRoom := by
    intro q hq
    rw [← packet_eq hright]
    apply RTPInternalSourceData.eq_or_mem_makeRoom _ hq
    rw [RTPInternalSourceData.taken_packetlist]
    exact hordered
  unfold RTPInternalSourceData.makeRoom at hmake hsubset
  rw [RTPInternalSourceData.taken_packetlist] at hmake hsubset
  by_cases hcrowded : (s.source.taken (sent.get i).received).validated = false ∧
      s.source.packetlist.length = RTPINTERNALSOURCEDATA_MAXPROBATIONPACKETS
  · rw [if_pos hcrowded] at hsubset
    have hvalidated : s.source.validated = false := by
      have hfalse := hcrowded.1
      rw [RTPInternalSourceData.taken_validated, Bool.or_eq_false_iff] at hfalse
      exact hfalse.1
    cases hlist : s.source.packetlist with
    | nil =>
      rw [hlist] at hcrowded
      exact absurd hcrowded.2 (by decide)
    | cons q l =>
      rw [hlist, List.tail_cons] at hsubset
      rw [hlist] at hordered hhead
      obtain ⟨j, hj, hq⟩ := (h.faithful.mem_iff t q).mp
        (List.mem_append_right _ (hlist ▸ List.mem_cons_self))
      have hstays := (hf.mem_iff t q).mpr ⟨j, by
        rw [arrival, List.map_append]
        exact List.mem_append_left _ hj, hq⟩
      have hnone : (s.arrival i).handed = [] := h.waiting hvalidated
      rw [hnone, List.nil_append] at hstays
      rcases hsubset q hstays with heq | hmem
      · exact hhead (congrArg some heq)
      · exact lt_irrefl _ ((List.pairwise_cons.mp hordered).1 q hmem)
  · rw [if_neg hcrowded] at hmake
    exact hmake rfl

/-- Any other arrival leaves a wrong number, a gap or packets in the wrong order. -/
theorem Inv.not_faithful (h : Inv first cycle s) (t : Transmission sent first)
    (hno : ¬ StepOk first cycle s (.arrive i)) : ¬ Faithful first cycle (s.arrival i) := by
  intro hf
  have hright : (s.numberOf i).toNat + cycle * 2 ^ 16 = first + i :=
    hf.numbers (i, s.numberOf i) (List.mem_append_right _ List.mem_cons_self)
  have hi : cycle * 2 ^ 16 ≤ first + i := Nat.le.intro (Nat.add_comm _ _ ▸ hright)
  have hguessed := (h.guessed_iff t i).mpr hright
  by_cases hroom : HasRoom s.source cycle (first + i)
  · apply hno
    refine ⟨hguessed, hroom, fun p hp => ?_⟩
    have hmem := (h.mem_arrival t hguessed hroom _).mpr (.inl rfl)
    have hlt : seqnr p < seqnr (packetAt sent first cycle i) :=
      (List.pairwise_append.mp (hf.ordered t)).2.2 p hp _ hmem
    have hseq := t.seqnr_packetAt hi
    omega
  · exact h.not_faithful_of_crowded t hi hroom hright hf

end arrival

/-! ## Whole runs -/

section runs

variable {first cycle : Nat} {s u : Reception sent.length}

-- Packets that are taken out move from the one list to the other.
theorem Inv.hand {taken packetlist : List Packet} (h : Inv first cycle s)
    (hvalidated : s.source.validated = true)
    (hlist : s.source.packetlist = taken ++ packetlist) : Inv first cycle { s with
      source := { s.source with packetlist := packetlist }
      handed := s.handed ++ taken } := by
  refine ⟨⟨h.faithful.crashed, h.faithful.numbers, ?_⟩,
    ⟨h.consistent.probationtype, h.consistent.counted, h.consistent.validated⟩, h.high,
    fun hfalse => ?_⟩
  · have hpackets := h.faithful.packets
    rw [hlist] at hpackets
    show s.handed ++ taken ++ packetlist = _
    rw [List.append_assoc]
    exact hpackets
  · have hfalse' : s.source.validated = false := hfalse
    rw [hvalidated] at hfalse'
    cases hfalse'

theorem Inv.getNextPacket (h : Inv first cycle s) (hnext : next sent s .getNextPacket = some u) :
    Inv first cycle u := by
  rw [next, h.faithful.crashed, if_neg Bool.false_ne_true] at hnext
  obtain ⟨⟨p, source⟩, hget, rfl⟩ := Option.map_eq_some_iff.mp hnext
  unfold RTPInternalSourceData.getNextPacket at hget
  split at hget
  next hvalidated =>
    split at hget
    next => cases hget
    next q packetlist hlist =>
      cases hget
      have htaken := h.hand hvalidated (hlist.trans List.singleton_append.symm)
      rw [h.faithful.crashed] at htaken
      exact htaken
  next => cases hget

theorem Inv.keep (t : Transmission sent first) {a : ReceptionAct sent.length}
    (h : Inv first cycle s) (hok : StepOk first cycle s a) (hnext : next sent s a = some u) :
    Inv first cycle u := by
  cases a with
  | arrive i =>
    rw [h.next_arrive t i, Option.some.injEq] at hnext
    rw [← hnext]
    exact h.arrive t hok
  | getNextPacket => exact h.getNextPacket hnext

theorem Inv.break (t : Transmission sent first) {a : ReceptionAct sent.length}
    (h : Inv first cycle s) (hno : ¬ StepOk first cycle s a) (hnext : next sent s a = some u) :
    ¬ Faithful first cycle u := by
  cases a with
  | arrive i =>
    rw [h.next_arrive t i, Option.some.injEq] at hnext
    rw [← hnext]
    exact h.not_faithful t hno
  | getNextPacket => exact absurd trivial hno

/-- Throughout a run the packets come out with their numbers, in the order in which they were
sent and each once, exactly when every packet that arrives is guessed right, finds room and is
behind all that have been taken out. -/
theorem faithful_iff_stepsOk (t : Transmission sent first) (cycle : Nat)
    (as : List (ReceptionAct sent.length)) :
    (machine sent).Throughout (Faithful first cycle) (start sent.length) as ↔
      (machine sent).StepsMeet (StepOk first cycle) (start sent.length) as :=
  Machine.throughout_iff_stepsMeet (I := Inv first cycle) (fun _ h => h.faithful)
    (fun _ _ _ h hok hnext => h.keep t hok hnext)
    (fun _ _ _ h hno hnext => h.break t hno hnext) (inv_start first cycle) as

-- The fourth packet of this session has the number zero.
def lateSession : RTPSession :=
  { freshSession with packetbuilder := { freshSession.packetbuilder with seqnr := 65533 } }

theorem ready_lateSession : lateSession.Ready :=
  ⟨rfl, rfl, rfl, rfl⟩

def sixSent : RTPSession :=
  lateSession.sendAll 96 false 160 [[1], [2], [3], [4], [5], [6]]

theorem transmission_sixSent : Transmission sixSent.transmitted 65533 := by
  have hsends : RTPSession.Sends 65533 sixSent :=
    (RTPSession.sends_start rfl).sendAll ready_lateSession (by decide) _
  exact hsends.transmission (by decide)

-- The fourth packet comes after the fifth, which comes twice.
def sixActs : List (ReceptionAct sixSent.transmitted.length) :=
  [.arrive ⟨0, by decide⟩, .arrive ⟨1, by decide⟩, .arrive ⟨2, by decide⟩, .getNextPacket,
    .arrive ⟨4, by decide⟩, .arrive ⟨3, by decide⟩, .arrive ⟨4, by decide⟩, .getNextPacket,
    .getNextPacket, .getNextPacket]

theorem faithful_iff_stepsOk_sixSent :
    ((machine sixSent.transmitted).exec (start _) sixActs).map (fun s =>
      (s.handed.map Packet.payload, s.source.packetlist.map Packet.payload)) =
        some ([[1], [2], [3], [4]], [[5]]) ∧
    (machine sixSent.transmitted).Throughout (Faithful 65533 0) (start _) sixActs :=
  ⟨by decide +kernel,
    (faithful_iff_stepsOk transmission_sixSent 0 sixActs).mpr (by decide +kernel)⟩

end runs

/-! ## The pictures of `sendVideo` -/

section pictures

variable {first cycle : Nat} {s : Reception sent.length}

theorem Faithful.payloads (h : Faithful first cycle s) :
    (s.handed ++ s.source.packetlist).map Packet.payload =
      ((s.arrived.map Prod.fst).toFinset.sort (· ≤ ·)).map fun i => (sent.get i).payload := by
  rw [h.packets, List.map_map]
  rfl

end pictures

end Reception

end ConnectUdp.Jrtp
