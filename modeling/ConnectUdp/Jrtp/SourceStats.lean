import ConnectUdp.SequenceNumber

/-!
# Extended sequence numbers of JRTPLIB

`RTPSourceStats::ProcessPacket` decides whether a packet of a source is accepted and extends its
sequence number to thirty-two bits.  Jitter and times are left out.
-/

namespace ConnectUdp.Jrtp

open SequenceNumber

def RTP_PROBATIONCOUNT : Nat := 2

structure RTPSourceStats where
  sentdata : Bool
  packetsreceived : UInt32
  -- Shifted left by sixteen bits.
  numcycles : UInt32
  baseseqnr : UInt32
  exthighseqnr : UInt32
  prevexthighseqnr : UInt32
  numnewpackets : UInt32
  savedextseqnr : UInt32
  prevseqnr : UInt16
  probation : Nat
  deriving DecidableEq, Repr

namespace RTPSourceStats

def new : RTPSourceStats :=
  ⟨false, 0, 0, 0, 0, 0, 0, 0, 0, 0⟩

/-- `extseqnr` is the number the packet has afterwards. -/
structure Processed where
  stats : RTPSourceStats
  extseqnr : UInt32
  accept : Bool
  onprobation : Bool
  deriving DecidableEq, Repr

-- `ACCEPTPACKETCODE`.
def acceptPacket (s : RTPSourceStats) (extseqnr : UInt32) : Processed :=
  let baseseqnr := if extseqnr = 0 then 0x0000FFFF else extseqnr - 1
  ⟨{ s with
      sentdata := true
      packetsreceived := s.packetsreceived + 1
      numnewpackets := s.numnewpackets + 1
      baseseqnr := baseseqnr
      numcycles := if extseqnr = 0 then 0x00010000 else s.numcycles
      exthighseqnr := baseseqnr + 1
      prevexthighseqnr := baseseqnr
      savedextseqnr := baseseqnr }, baseseqnr + 1, true, false⟩

-- Not enough packets in a row yet.
def onProbation (s : RTPSourceStats) (extseqnr : UInt32) (probation : Nat) : Processed :=
  ⟨{ s with probation := probation, prevseqnr := extseqnr.toUInt16 }, extseqnr, false, true⟩

-- The packet is the last that probation waits for.
def EndsProbation (s : RTPSourceStats) (extseqnr : UInt32) : Prop :=
  s.probation = 1 ∧ (s.prevseqnr + 1).toUInt32 = extseqnr

instance EndsProbation.decidable (s : RTPSourceStats) (extseqnr : UInt32) :
    Decidable (s.EndsProbation extseqnr) :=
  inferInstanceAs (Decidable (_ ∧ _))

def firstPackets (s : RTPSourceStats) (extseqnr : UInt32) (applyprobation : Bool) : Processed :=
  if applyprobation then
    if s.probation ≠ 0 then
      if (s.prevseqnr + 1).toUInt32 = extseqnr then
        if s.probation - 1 = 0 then
          { s with prevseqnr := extseqnr.toUInt16, probation := 0 }.acceptPacket extseqnr
        else s.onProbation extseqnr (s.probation - 1)
      else s.onProbation extseqnr RTP_PROBATIONCOUNT
    else s.onProbation extseqnr RTP_PROBATIONCOUNT
  else s.acceptPacket extseqnr

def nextPackets (s : RTPSourceStats) (extseqnr : UInt32) : Processed :=
  let s := { s with
    packetsreceived := s.packetsreceived + 1
    numnewpackets := s.numnewpackets + 1 }
  let maxseq16 := (s.exthighseqnr &&& 0x0000FFFF).toUInt16
  if maxseq16.toUInt32 ≤ extseqnr then
    ⟨{ s with exthighseqnr := s.numcycles + extseqnr }, s.numcycles + extseqnr, true, false⟩
  else
    let dif1 := extseqnr.toUInt16 - maxseq16
    let dif2 := maxseq16 - extseqnr.toUInt16
    if dif1 < dif2 then
      let numcycles := s.numcycles + 0x00010000
      ⟨{ s with numcycles := numcycles, exthighseqnr := numcycles + extseqnr },
        numcycles + extseqnr, true, false⟩
    else ⟨s, s.numcycles + extseqnr, true, false⟩

def processPacket (s : RTPSourceStats) (extseqnr : UInt32) (applyprobation : Bool) : Processed :=
  if s.sentdata then s.nextPackets extseqnr else s.firstPackets extseqnr applyprobation

/-! ## The numbers that packets get -/

-- The cycles that have been counted are those of the highest number.
structure Counted (s : RTPSourceStats) : Prop where
  numcycles : s.numcycles.toNat =
    if s.sentdata then s.exthighseqnr.toNat / 2 ^ 16 * 2 ^ 16 else 0

theorem counted_new : new.Counted := ⟨rfl⟩

section first

variable {s : RTPSourceStats} {n : UInt32} {applyprobation : Bool}

/-- The first number that is accepted keeps its value, but zero begins a cycle. -/
theorem toNat_acceptPacket (s : RTPSourceStats) (n : UInt32) :
    (s.acceptPacket n).extseqnr.toNat = if n = 0 then 2 ^ 16 else n.toNat := by
  unfold acceptPacket
  dsimp only
  split
  next => rfl
  next hne =>
    have hsub : n - 1 + 1 = n := UInt32.sub_add_cancel n 1
    rw [hsub]

theorem Counted.acceptPacket (h : s.Counted) (hsent : s.sentdata = false)
    (hn : n.toNat < 2 ^ 16) : (s.acceptPacket n).stats.Counted := by
  constructor
  have hnum := h.numcycles
  rw [hsent, if_neg Bool.false_ne_true] at hnum
  have hhigh := toNat_acceptPacket s n
  change _ = (s.acceptPacket n).extseqnr.toNat / 2 ^ 16 * 2 ^ 16
  rw [hhigh]
  show (if n = 0 then (0x00010000 : UInt32) else s.numcycles).toNat = _
  split
  next => rfl
  next => rw [hnum]; omega

/-- The three ways the first packets take. -/
theorem firstPackets_cases (s : RTPSourceStats) (n : UInt32) (applyprobation : Bool) :
    (applyprobation = false ∧ s.firstPackets n applyprobation = s.acceptPacket n) ∨
    (applyprobation = true ∧ s.EndsProbation n ∧ s.firstPackets n applyprobation =
      { s with prevseqnr := n.toUInt16, probation := 0 }.acceptPacket n) ∨
    (applyprobation = true ∧ ¬ s.EndsProbation n ∧
      ∃ probation, s.firstPackets n applyprobation = s.onProbation n probation) := by
  cases applyprobation with
  | false => exact .inl ⟨rfl, rfl⟩
  | true =>
    apply Or.inr
    simp only [firstPackets, if_true, EndsProbation, true_and]
    split
    next hpos =>
      split
      next hnext =>
        split
        next hone => exact .inl ⟨⟨by omega, hnext⟩, rfl⟩
        next hmore => exact .inr ⟨fun hand => hmore (by rw [hand.1]), _, rfl⟩
      next hnext => exact .inr ⟨fun hand => hnext hand.2, _, rfl⟩
    next hzero => exact .inr ⟨fun hand => hzero (by rw [hand.1]; decide), _, rfl⟩

end first

section next

variable {s : RTPSourceStats} {n : UInt32}

theorem toNat_low (w : UInt32) : ((w &&& 0x0000FFFF).toUInt16).toNat = w.toNat % 2 ^ 16 := by
  rw [UInt32.toNat_toUInt16, UInt32.toNat_and]
  show (w.toNat &&& (2 ^ 16 - 1)) % 2 ^ 16 = _
  rw [Nat.and_two_pow_sub_one_eq_mod, Nat.mod_mod]

theorem toNat_toUInt16 (hn : n.toNat < 2 ^ 16) : n.toUInt16.toNat = n.toNat := by
  rw [UInt32.toNat_toUInt16]
  exact Nat.mod_eq_of_lt hn

-- The test for a number that has started again at zero.
theorem dif_lt_iff {low : UInt16} (hn : n.toNat < low.toNat) :
    n.toUInt16 - low < low - n.toUInt16 ↔ n.toNat + 2 ^ 16 - low.toNat < low.toNat - n.toNat := by
  have hlow := low.toNat_lt
  rw [UInt16.lt_iff_toNat_lt, UInt16.toNat_sub, UInt16.toNat_sub, toNat_toUInt16 (by omega)]
  omega

/-- A packet gets the number that is guessed from the highest one, which it replaces if it is
higher. -/
structure Extended (s : RTPSourceStats) (n : UInt32) (p : Processed) : Prop where
  extseqnr : p.extseqnr.toNat = extend s.exthighseqnr.toNat n.toNat
  exthighseqnr : p.stats.exthighseqnr.toNat = max s.exthighseqnr.toNat p.extseqnr.toNat
  sentdata : p.stats.sentdata = true
  counted : p.stats.Counted
  accept : p.accept = true

theorem nextPackets_extended (h : s.Counted) (hsent : s.sentdata = true) (hn : n.toNat < 2 ^ 16)
    (hbound : s.exthighseqnr.toNat + 2 ^ 17 ≤ 2 ^ 32) : Extended s n (s.nextPackets n) := by
  have hnum := h.numcycles
  rw [hsent, if_pos rfl] at hnum
  have hlow := toNat_low s.exthighseqnr
  have hsum : (s.numcycles + n).toNat = s.exthighseqnr.toNat / 2 ^ 16 * 2 ^ 16 + n.toNat := by
    rw [UInt32.toNat_add, hnum]
    omega
  have hcycle : (s.numcycles + 0x00010000).toNat =
      s.exthighseqnr.toNat / 2 ^ 16 * 2 ^ 16 + 2 ^ 16 := by
    have hone : (0x00010000 : UInt32).toNat = 2 ^ 16 := rfl
    rw [UInt32.toNat_add, hnum, hone]
    omega
  have hsum' : (s.numcycles + 0x00010000 + n).toNat =
      s.exthighseqnr.toNat / 2 ^ 16 * 2 ^ 16 + 2 ^ 16 + n.toNat := by
    rw [UInt32.toNat_add, hcycle]
    omega
  unfold nextPackets
  dsimp only
  generalize (s.exthighseqnr &&& 0x0000FFFF).toUInt16 = low at hlow
  split
  next hle =>
    rw [UInt32.le_iff_toNat_le, UInt16.toNat_toUInt32, hlow] at hle
    have hext : (s.numcycles + n).toNat = extend s.exthighseqnr.toNat n.toNat := by
      rw [hsum, extend, if_pos hle]
    refine ⟨hext, ?_, hsent, ⟨?_⟩, rfl⟩
    · show (s.numcycles + n).toNat = max _ (s.numcycles + n).toNat
      rw [hsum]
      omega
    · show s.numcycles.toNat = if s.sentdata then (s.numcycles + n).toNat / 2 ^ 16 * 2 ^ 16 else 0
      rw [hsent, if_pos rfl, hsum, hnum]
      omega
  next hlt =>
    rw [UInt32.le_iff_toNat_le, UInt16.toNat_toUInt32, hlow] at hlt
    have hdif : n.toUInt16 - low < low - n.toUInt16 ↔ _ := dif_lt_iff (by omega)
    rw [hlow] at hdif
    split
    next hwrap =>
      have hext : (s.numcycles + 0x00010000 + n).toNat =
          extend s.exthighseqnr.toNat n.toNat := by
        rw [hsum', extend, if_neg hlt, if_pos (hdif.mp hwrap)]
      refine ⟨hext, ?_, hsent, ⟨?_⟩, rfl⟩
      · show (s.numcycles + 0x00010000 + n).toNat = max _ (s.numcycles + 0x00010000 + n).toNat
        rw [hsum']
        omega
      · show (s.numcycles + 0x00010000).toNat =
          if s.sentdata then (s.numcycles + 0x00010000 + n).toNat / 2 ^ 16 * 2 ^ 16 else 0
        rw [hsent, if_pos rfl, hsum', hcycle]
        omega
    next hlate =>
      have hext : (s.numcycles + n).toNat = extend s.exthighseqnr.toNat n.toNat := by
        rw [hsum, extend, if_neg hlt, if_neg (mt hdif.mpr hlate)]
      refine ⟨hext, ?_, hsent, ⟨?_⟩, rfl⟩
      · show s.exthighseqnr.toNat = max _ (s.numcycles + n).toNat
        rw [hsum]
        omega
      · show s.numcycles.toNat = if s.sentdata then s.exthighseqnr.toNat / 2 ^ 16 * 2 ^ 16 else 0
        rw [hsent, if_pos rfl, hnum]

end next

end RTPSourceStats

end ConnectUdp.Jrtp
