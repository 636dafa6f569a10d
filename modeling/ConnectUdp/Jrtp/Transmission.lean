import ConnectUdp.Jrtp.SourceData

/-!
# What a session puts on the network

The packets that a JRTPLIB session has transmitted can be read back, and they are numbered one by
one from the first number on.
-/

namespace ConnectUdp.Jrtp

open SequenceNumber OrderedQueue

/-- The packets are numbered from `first` on, and a number of thirty-two bits would do for them. -/
structure Transmission (sent : List RTPPacket) (first : Nat) : Prop where
  wellFormed : ∀ p ∈ sent, p.received.WellFormed []
  numbers : ∀ i : Fin sent.length,
    (sent.get i).sequencenumber.toNat = (first + i) % 2 ^ 16
  bound : first + sent.length + 2 ^ 17 ≤ 2 ^ 32

-- The number on the wire of the packet at this place.
def number (place : Nat) : UInt32 :=
  .ofNat (place % 2 ^ 16)

-- The packet with its number counted from the beginning of a cycle.
def packetAt (sent : List RTPPacket) (first cycle : Nat) (i : Fin sent.length) : Packet :=
  { (sent.get i).received with extseqnr := .ofNat (first + i - cycle * 2 ^ 16) }

section packets

variable {sent : List RTPPacket} {first cycle : Nat}

theorem toNat_number (place : Nat) : (number place).toNat = place % 2 ^ 16 := by
  rw [number, UInt32.toNat_ofNat']
  omega

theorem Transmission.extseqnr (t : Transmission sent first) (i : Fin sent.length) :
    (sent.get i).received.extseqnr = number (first + i) := by
  apply UInt32.toNat_inj.mp
  rw [toNat_number, ← t.numbers i]
  exact UInt16.toNat_toUInt32 _

theorem Transmission.seqnr_packetAt (t : Transmission sent first) {i : Fin sent.length}
    (hi : cycle * 2 ^ 16 ≤ first + i) :
    seqnr (packetAt sent first cycle i) + cycle * 2 ^ 16 = first + i := by
  have hbound := t.bound
  have hlt := i.isLt
  show (UInt32.ofNat (first + i - cycle * 2 ^ 16)).toNat + cycle * 2 ^ 16 = first + i
  rw [UInt32.toNat_ofNat']
  omega

theorem Transmission.parse (t : Transmission sent first) (i : Fin sent.length) :
    parseRawPacket true ((sent.get i).received.bytes []) = .ok (sent.get i).received :=
  parseRawPacket_bytes (t.wellFormed _ (List.get_mem sent i))

-- The queue that is made of what has been taken out and what waits.
theorem Transmission.packets_iff (t : Transmission sent first) {arrived : List (Fin sent.length)}
    (hplaces : ∀ i ∈ arrived, cycle * 2 ^ 16 ≤ first + i) (l : List Packet) :
    l = (arrived.toFinset.sort (· ≤ ·)).map (packetAt sent first cycle) ↔
      Ordered seqnr l ∧ ∀ p, p ∈ l ↔ ∃ i ∈ arrived, packetAt sent first cycle i = p := by
  apply eq_map_sort_iff
  intro i hi j hj hlt
  have hieq := t.seqnr_packetAt (hplaces i hi)
  have hjeq := t.seqnr_packetAt (hplaces j hj)
  have hlt' : (i : Nat) < j := hlt
  omega

end packets

namespace RTPSession

/-- What the packets of a session have in common once it has started at the number `first`. -/
structure Sends (first : UInt16) (s : RTPSession) : Prop where
  wellFormed : ∀ p ∈ s.transmitted, p.received.WellFormed []
  numbers : ∀ i p, s.transmitted[i]? = some p → p.sequencenumber = after first i
  next : s.packetbuilder.seqnr = after first s.transmitted.length

theorem sends_start {s : RTPSession} (hfresh : s.transmitted = []) :
    s.Sends s.packetbuilder.seqnr := by
  constructor
  · intro p hp
    rw [hfresh] at hp
    cases hp
  · intro i p hp
    rw [hfresh] at hp
    cases hp
  · rw [hfresh, List.length_nil, after_zero]

section sendPacket

variable {first : UInt16} {s : RTPSession} {data : List UInt8} {pt : UInt8} {mark : Bool}
  {timestampinc : UInt32}

theorem wellFormed_packet (hpt : Payloadtype pt) :
    (s.packet data pt mark).received.WellFormed [] where
  csrcs := Nat.zero_le _
  payloadtype := toNat_lt_128 hpt.1
  notRtcp := fun hand => hpt.2 hand.2
  extseqnr := by
    show s.packetbuilder.seqnr.toUInt32.toNat < 2 ^ 16
    rw [UInt16.toNat_toUInt32]
    exact s.packetbuilder.seqnr.toNat_lt
  packetlength := by
    rw [length_bytes]
    rfl
  numpadbytes := fun b hb => by cases hb

theorem Sends.sendPacket (h : s.Sends first) (hready : s.Ready) (hpt : Payloadtype pt)
    (data : List UInt8) : (s.sendPacket data pt mark timestampinc).2.Sends first := by
  by_cases hfits : Fits data
  · rw [sendPacket_of_fits hready hpt hfits]
    constructor
    · intro p hp
      rcases List.mem_append.mp hp with hp | hp
      · exact h.wellFormed p hp
      · rw [List.mem_singleton.mp hp]
        exact wellFormed_packet hpt
    · intro i p hp
      have hget : (s.transmitted ++ [s.packet data pt mark])[i]? = some p := hp
      by_cases hi : i < s.transmitted.length
      · rw [List.getElem?_append_left hi] at hget
        exact h.numbers i p hget
      · rw [List.getElem?_append_right (Nat.not_lt.mp hi)] at hget
        have hzero : i - s.transmitted.length = 0 := by
          by_contra hne
          rw [List.getElem?_eq_none (by rw [List.length_singleton]; omega)] at hget
          cases hget
        rw [hzero] at hget
        cases hget
        have hlength : i = s.transmitted.length := by omega
        rw [hlength]
        exact h.next
    · show s.packetbuilder.seqnr + 1 = after first (s.transmitted ++ [_]).length
      rw [List.length_append, List.length_singleton, after_succ, h.next]
  · rw [sendPacket_of_not_fits hready hpt hfits]
    exact h

theorem Sends.sendAll (h : s.Sends first) (hready : s.Ready) (hpt : Payloadtype pt)
    (datas : List (List UInt8)) : (s.sendAll pt mark timestampinc datas).Sends first := by
  induction datas generalizing s with
  | nil => exact h
  | cons data datas ih =>
    exact ih (h.sendPacket hready hpt data) (hready.sendPacket hpt)

theorem Sends.transmission (h : s.Sends first)
    (hbound : first.toNat + s.transmitted.length + 2 ^ 17 ≤ 2 ^ 32) :
    Transmission s.transmitted first.toNat := by
  refine ⟨h.wellFormed, fun i => ?_, hbound⟩
  have hnum := h.numbers i _ (List.getElem?_eq_getElem i.isLt)
  rw [List.get_eq_getElem, hnum, toNat_after]

end sendPacket

end RTPSession

end ConnectUdp.Jrtp
