import ConnectUdp.Records
import ConnectUdp.Uvgrtp.H264Receive

/-!
# Aggregation packets

Several NAL units in one packet, each behind its length.  `finalize_aggregation_pkt` makes such a
packet, `handle_aggregation_packet` takes it apart.
-/

namespace ConnectUdp.Uvgrtp

open NetworkOrder Records RtpHeader

/-! ## Making a packet -/

def stapA : UInt8 := 24

-- The largest NRI; the first byte of every NAL unit is read.
def maxNri : List (List UInt8) → UInt8 → Except Fault UInt8
  | [], nri => .ok nri
  | [] :: _, _ => .error .readOutside
  | (nalHeader :: _) :: nalus, nri =>
    if nri < (nalHeader >>> 5) &&& 0x3 then maxNri nalus ((nalHeader >>> 5) &&& 0x3)
    else maxNri nalus nri

-- NAL units that are too large are left out.
def aggregated (nalus : List (List UInt8)) : List (List UInt8) :=
  nalus.filter fun nalu => nalu.length ≤ 65535

/-- The payload of the packet; `none` for fewer than two NAL units. -/
def finalizeAggregationPkt (nalus : List (List UInt8)) : Except Fault (Option (List UInt8)) :=
  if nalus.length ≤ 1 then .ok none
  else
    (maxNri nalus 0).map fun (nri : UInt8) =>
      some ((((nri &&& 0x3) <<< 5) ||| stapA) ::
        (aggregated nalus).flatMap fun nalu => bytes16 (.ofNat nalu.length) ++ nalu)

/-! ## What the loop over the packet finds -/

variable {payload rest : List UInt8} {rs : List (List UInt8)} {i size turns : Nat}

def prepend (nalus : List (Nat × Nat)) (found : Except Fault (Option (List (Nat × Nat)))) :
    Except Fault (Option (List (Nat × Nat))) :=
  found.map (Option.map (nalus ++ ·))

theorem prepend_nil (found : Except Fault (Option (List (Nat × Nat)))) :
    prepend [] found = found := by
  match found with
  | .error _ => rfl
  | .ok none => rfl
  | .ok (some _) => rfl

theorem prepend_prepend (nalus nalus' : List (Nat × Nat))
    (found : Except Fault (Option (List (Nat × Nat)))) :
    prepend nalus (prepend nalus' found) = prepend (nalus ++ nalus') found := by
  match found with
  | .error _ => rfl
  | .ok none => rfl
  | .ok (some found) => exact congrArg (fun l => Except.ok (some l)) (List.append_assoc _ _ _).symm

theorem nalusFrom_next (hi : i < payload.length) {n : UInt16} (hn : read16 payload i = some n)
    (hsize : size + n.toNat ≤ payload.length) :
    nalusFrom payload (turns + 1) i size = prepend [(n.toNat, i + 2)]
      (nalusFrom payload turns (i + (n.toNat + 2)) (size + n.toNat)) := by
  rw [nalusFrom, if_pos hi, hn]
  dsimp only
  rw [if_pos hsize]
  match nalusFrom payload turns (i + (n.toNat + 2)) (size + n.toNat) with
  | .error _ => rfl
  | .ok none => rfl
  | .ok (some _) => rfl

theorem nalusFrom_end (hi : payload.length ≤ i) (turns size : Nat) :
    nalusFrom payload turns i size = .ok (some []) := by
  cases turns with
  | zero => rfl
  | succ turns => exact if_neg (not_lt.mpr hi)

/-- The loop finds the records the packet begins with. -/
theorem nalusFrom_records (hfits : ∀ r ∈ rs, Fits r)
    (hdrop : payload.drop i = rs.flatMap record ++ rest)
    (hsize : size + (rs.map List.length).sum ≤ payload.length) (turns : Nat) :
    nalusFrom payload (rs.length + turns) i size = prepend (places rs i)
      (nalusFrom payload turns (i + (rs.flatMap record).length)
        (size + (rs.map List.length).sum)) := by
  induction rs generalizing i size with
  | nil =>
    rw [places, prepend_nil, List.length_nil, Nat.zero_add]
    rfl
  | cons r rs ih =>
    rw [List.flatMap_cons, List.append_assoc] at hdrop
    rw [List.map_cons, List.sum_cons] at hsize ⊢
    have hle := record_le hdrop
    have hr := toNat_length (hfits r List.mem_cons_self)
    have hread := read16_record hdrop
    rw [List.length_cons, Nat.add_right_comm,
      nalusFrom_next (by omega) hread (by rw [hr]; omega), hr,
      ih (fun r hr => hfits r (List.mem_cons_of_mem _ hr)) (drop_record hdrop) (by omega),
      prepend_prepend, List.flatMap_cons, List.length_append, length_record, Nat.add_assoc i,
      Nat.add_assoc size]
    rfl

/-! ## Taking the NAL units out -/

def naluFrame (cfg : Settings) (frame : Frame) (nalu : List UInt8) : Frame :=
  ⟨frame.header, [], none, 0, startCode cfg ++ nalu⟩

variable {cfg : Settings} {frame : Frame}

theorem mapM_retFrame (hdrop : frame.payload.drop i = rs.flatMap record ++ rest) :
    (places rs i).mapM (retFrame cfg frame) = .ok (rs.map (naluFrame cfg frame)) := by
  induction rs generalizing i with
  | nil => rfl
  | cons r rs ih =>
    rw [List.flatMap_cons, List.append_assoc] at hdrop
    have hle := record_le hdrop
    have hfirst : retFrame cfg frame (r.length, i + 2) = .ok (naluFrame cfg frame r) := by
      rw [retFrame, if_neg (by dsimp only; omega), take_drop_record hdrop, naluFrame]
    rw [places, List.mapM_cons, hfirst, ih (drop_record hdrop)]
    rfl

/-! ## What becomes of a packet -/

/-- The loop as it is started, up to the end of the records. -/
theorem nalusFrom_start (hfits : ∀ r ∈ rs, Fits r)
    (hdrop : payload.drop i = rs.flatMap record ++ rest) :
    nalusFrom payload payload.length i 0 = prepend (places rs i)
      (nalusFrom payload (payload.length - rs.length) (i + (rs.flatMap record).length)
        (rs.map List.length).sum) := by
  have hlength := congrArg List.length hdrop
  rw [List.length_drop, List.length_append, ← length_le_flatMap_record rs] at hlength
  have hsize : 0 + (rs.map List.length).sum ≤ payload.length := by omega
  have hwalk := nalusFrom_records hfits hdrop hsize (payload.length - rs.length)
  rw [Nat.add_sub_cancel' (by omega), Nat.zero_add] at hwalk
  exact hwalk

theorem drop_records (hdrop : payload.drop i = rs.flatMap record ++ rest) :
    payload.drop (i + (rs.flatMap record).length) = rest := by
  rw [← List.drop_drop, hdrop, List.drop_left]

/-- Records and nothing else: each becomes a frame. -/
theorem handleAggregationPacket_records (s : H26x) (headerSize : Nat) (hfits : ∀ r ∈ rs, Fits r)
    (hdrop : frame.payload.drop headerSize = rs.flatMap record) :
    handleAggregationPacket cfg s frame headerSize =
      .ok ({ s with queued := s.queued ++ rs.map (naluFrame cfg frame) }, .multiple) := by
  rw [← List.append_nil (rs.flatMap record)] at hdrop
  have hend := List.drop_eq_nil_iff.mp (drop_records hdrop)
  rw [handleAggregationPacket, nalusFrom_start hfits hdrop, nalusFrom_end hend]
  change (((places rs headerSize ++ []).mapM (retFrame cfg frame)).map fun frames =>
    ({ s with queued := s.queued ++ frames }, Result.multiple)) = _
  rw [List.append_nil, mapM_retFrame hdrop]
  rfl

/-- One byte is left: the length is read beyond the end. -/
theorem handleAggregationPacket_inLength (s : H26x) (headerSize : Nat) (hfits : ∀ r ∈ rs, Fits r)
    {b : UInt8} (hdrop : frame.payload.drop headerSize = rs.flatMap record ++ [b]) :
    handleAggregationPacket cfg s frame headerSize = .error .readOutside := by
  have hlast := drop_records hdrop
  have hlength := congrArg List.length hdrop
  rw [List.length_drop, List.length_append, ← length_le_flatMap_record rs,
    List.length_singleton] at hlength
  rw [handleAggregationPacket, nalusFrom_start hfits hdrop]
  obtain ⟨turns, hturns⟩ : ∃ turns, frame.payload.length - rs.length = turns + 1 :=
    ⟨frame.payload.length - rs.length - 1, by omega⟩
  have hlt : headerSize + (rs.flatMap record).length < frame.payload.length := by
    rw [← length_le_flatMap_record rs]
    omega
  have hread : read16 frame.payload (headerSize + (rs.flatMap record).length) = none := by
    rw [read16, hlast]
  rw [hturns, nalusFrom, if_pos hlt, hread]
  rfl

/-- The last NAL unit is said to be longer than what is left of the packet.  That is noticed only
when the lengths add up to more than the packet. -/
theorem handleAggregationPacket_inBody (s : H26x) (headerSize : Nat) (hfits : ∀ r ∈ rs, Fits r)
    {n : UInt16} {short : List UInt8} (hshort : short.length < n.toNat)
    (hdrop : frame.payload.drop headerSize = rs.flatMap record ++ (bytes16 n ++ short)) :
    handleAggregationPacket cfg s frame headerSize =
      if (rs.map List.length).sum + n.toNat ≤ frame.payload.length then .error .readOutside
      else .ok (s, .error) := by
  have hlast := drop_records hdrop
  have hlength := congrArg List.length hdrop
  rw [List.length_drop, List.length_append, ← length_le_flatMap_record rs, List.length_append,
    length_bytes16] at hlength
  have htotal := length_le_flatMap_record rs
  rw [handleAggregationPacket, nalusFrom_start hfits hdrop]
  obtain ⟨turns, hturns⟩ : ∃ turns, frame.payload.length - rs.length = turns + 1 :=
    ⟨frame.payload.length - rs.length - 1, by omega⟩
  have hlt : headerSize + (rs.flatMap record).length < frame.payload.length := by omega
  have hread : read16 frame.payload (headerSize + (rs.flatMap record).length) = some n := by
    rw [read16, hlast]
    exact congrArg some (word16_bytes n)
  rw [hturns]
  by_cases hsize : (rs.map List.length).sum + n.toNat ≤ frame.payload.length
  · have hout : retFrame cfg frame (n.toNat, headerSize + (rs.flatMap record).length + 2) =
        .error .readOutside := if_pos (by dsimp only; omega)
    rw [nalusFrom_next hlt hread hsize, nalusFrom_end (by omega), if_pos hsize]
    change (((places rs headerSize ++ [_]).mapM (retFrame cfg frame)).map fun frames =>
      ({ s with queued := s.queued ++ frames }, Result.multiple)) = _
    rw [List.mapM_append, mapM_retFrame hdrop, List.mapM_cons, hout]
    rfl
  · rw [nalusFrom, if_pos hlt, hread, if_neg hsize]
    dsimp only
    rw [if_neg hsize]
    rfl

/-- The receiver takes a packet apart exactly when it consists of NAL units behind their lengths,
and then it finds these NAL units. -/
theorem handleAggregationPacket_multiple_iff (cfg : Settings) (s t : H26x) (frame : Frame)
    (headerSize : Nat) :
    handleAggregationPacket cfg s frame headerSize = .ok (t, .multiple) ↔
      ∃ nalus : List (List UInt8), (∀ nalu ∈ nalus, Fits nalu) ∧
        frame.payload.drop headerSize = nalus.flatMap record ∧
        t = { s with queued := s.queued ++ nalus.map (naluFrame cfg frame) } := by
  constructor
  · intro hok
    obtain ⟨nalus, rest, hfits, hdrop, rfl | hcut⟩ :=
      exists_records (frame.payload.drop headerSize)
    · rw [List.append_nil] at hdrop
      rw [handleAggregationPacket_records s headerSize hfits hdrop] at hok
      cases hok
      exact ⟨nalus, hfits, hdrop, rfl⟩
    · cases hcut with
      | inLength b =>
        rw [handleAggregationPacket_inLength s headerSize hfits hdrop] at hok
        cases hok
      | inBody n short hshort =>
        rw [handleAggregationPacket_inBody s headerSize hfits hshort hdrop] at hok
        split at hok <;> cases hok
  · rintro ⟨nalus, hfits, hdrop, rfl⟩
    exact handleAggregationPacket_records s headerSize hfits hdrop

/-- The receiver reads beyond the packet exactly when one byte is left behind the NAL units, or a
NAL unit that is not all there but short enough for the sum of the lengths. -/
theorem handleAggregationPacket_faults_iff (cfg : Settings) (s : H26x) (frame : Frame)
    (headerSize : Nat) :
    (∃ fault, handleAggregationPacket cfg s frame headerSize = .error fault) ↔
      ∃ (nalus : List (List UInt8)) (rest : List UInt8), (∀ nalu ∈ nalus, Fits nalu) ∧
        frame.payload.drop headerSize = nalus.flatMap record ++ rest ∧
        ((∃ b, rest = [b]) ∨ ∃ n short, rest = bytes16 n ++ short ∧ short.length < n.toNat ∧
          (nalus.map List.length).sum + n.toNat ≤ frame.payload.length) := by
  constructor
  · rintro ⟨fault, hfault⟩
    obtain ⟨nalus, rest, hfits, hdrop, rfl | hcut⟩ :=
      exists_records (frame.payload.drop headerSize)
    · rw [List.append_nil] at hdrop
      rw [handleAggregationPacket_records s headerSize hfits hdrop] at hfault
      cases hfault
    · refine ⟨nalus, rest, hfits, hdrop, ?_⟩
      cases hcut with
      | inLength b => exact .inl ⟨b, rfl⟩
      | inBody n short hshort =>
        rw [handleAggregationPacket_inBody s headerSize hfits hshort hdrop] at hfault
        split at hfault
        next hsize => exact .inr ⟨n, short, rfl, hshort, hsize⟩
        next => cases hfault
  · rintro ⟨nalus, rest, hfits, hdrop, ⟨b, rfl⟩ | ⟨n, short, rfl, hshort, hsize⟩⟩
    · exact ⟨_, handleAggregationPacket_inLength s headerSize hfits hdrop⟩
    · rw [handleAggregationPacket_inBody s headerSize hfits hshort hdrop, if_pos hsize]
      exact ⟨_, rfl⟩

/-! ## Both sides together -/

theorem stapA_type (nri : UInt8) : (((nri &&& 0x3) <<< 5) ||| stapA) &&& 0x1f = 24 := by
  revert nri
  apply forall_byte
  decide +kernel

theorem fits_aggregated {nalus : List (List UInt8)} : ∀ nalu ∈ aggregated nalus, Fits nalu := by
  intro nalu hnalu
  have hle := of_decide_eq_true (List.mem_filter.mp hnalu).2
  rw [Fits]
  omega

/-- A packet of aggregated NAL units is recognised and taken apart into the same NAL units. -/
theorem finalizeAggregationPkt_dispatch {nalus : List (List UInt8)}
    (hok : finalizeAggregationPkt nalus = .ok (some frame.payload)) (cfg : Settings) (now : Nat)
    (s : H26x) :
    (aggregated nalus ≠ [] → getFragmentType frame.payload = .ok .aggr) ∧
      s.dispatch cfg now frame .aggr =
        .ok ({ s with queued := s.queued ++ (aggregated nalus).map (naluFrame cfg frame) },
          .multiple) := by
  obtain ⟨nri, hpayload⟩ : ∃ nri : UInt8, frame.payload =
      (((nri &&& 0x3) <<< 5) ||| stapA) :: (aggregated nalus).flatMap record := by
    rw [finalizeAggregationPkt] at hok
    split at hok
    · cases hok
    · obtain ⟨nri, -, heq⟩ := map_eq_ok hok
      exact ⟨nri, (Option.some.inj heq).symm⟩
  have hdrop : frame.payload.drop 1 = (aggregated nalus).flatMap record := by
    rw [hpayload]
    rfl
  refine ⟨fun hne => ?_, handleAggregationPacket_records s 1 fits_aggregated hdrop⟩
  rw [hpayload]
  match hagg : aggregated nalus, hne with
  | nalu :: nalus, _ =>
    rw [List.flatMap_cons, record, bytes16, getFragmentType.eq_def]
    exact if_pos (stapA_type nri)

def twoNalus : Frame :=
  ⟨⟨2, 0, 0, 0, 0, 96, 1, 2, 3⟩, [], none, 0, [0x78, 0, 2, 0x67, 1, 0, 3, 0x68, 2, 3]⟩

theorem finalizeAggregationPkt_dispatch_twoNalus :
    getFragmentType twoNalus.payload = .ok .aggr ∧
      (H26x.new 0).dispatch ⟨false, false, 500⟩ 0 twoNalus .aggr =
        .ok ({ H26x.new 0 with queued := [naluFrame ⟨false, false, 500⟩ twoNalus [0x67, 1],
          naluFrame ⟨false, false, 500⟩ twoNalus [0x68, 2, 3]] }, .multiple) := by
  have hok : finalizeAggregationPkt [[0x67, 1], [0x68, 2, 3]] = .ok (some twoNalus.payload) := by
    decide +kernel
  obtain ⟨htype, hdispatch⟩ :=
    finalizeAggregationPkt_dispatch hok ⟨false, false, 500⟩ 0 (H26x.new 0)
  exact ⟨htype (by decide), hdispatch⟩

end ConnectUdp.Uvgrtp
