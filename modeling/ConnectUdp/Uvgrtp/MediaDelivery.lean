import ConnectUdp.Uvgrtp.H264Session
import ConnectUdp.Uvgrtp.MediaReceive
import Mathlib.Data.List.Perm.Subperm

/-!
# Frames in pieces arrive

What `media::packet_handler` makes of the pieces of pushes that arrive in any order, each at most
once.  A frame comes out as it was pushed when its first piece arrives before the others, and only
then.
-/

namespace ConnectUdp.Uvgrtp.MediaFormat

open RtpHeader SequenceNumber Chunks OrderedQueue MediaInfo

variable {common : Header} {n : Nat} {data : List UInt8} {ks : List Nat} {info : MediaInfo}

/-! ## The pieces of one push -/

def piece (common : Header) (n : Nat) (data : List UInt8) (k : Nat) : Frame :=
  sentFrame true common (count n data.length) k (chunk n data k)

-- The headers of a transaction are enough for its pieces, and not marked before they are sent.
structure Pieces (common : Header) (n : Nat) (data : List UInt8) : Prop where
  size_pos : 0 < n
  count_le : count n data.length ≤ maxMsgCount
  marker : common.marker = 0

theorem toNat_seq_piece (k : Nat) :
    (piece common n data k).header.seq.toNat = (common.seq.toNat + k) % 2 ^ 16 :=
  toNat_after common.seq k

theorem marker_piece (h : Pieces common n data) (k : Nat) :
    (piece common n data k).header.marker = 0 ↔ k + 1 ≠ count n data.length := by
  show (if true = true ∧ k + 1 = count n data.length then (1 : UInt8) else common.marker) = 0 ↔ _
  by_cases hlast : k + 1 = count n data.length
  · rw [if_pos ⟨rfl, hlast⟩]
    exact iff_of_false (by decide) (not_not.mpr hlast)
  · rw [if_neg fun hand => hlast hand.2]
    exact iff_of_true h.marker hlast

-- What happens to the pieces of a frame, from the entry for its timestamp on.
def handleFragments : Option MediaInfo → List ((Nat → UInt8) × Frame) → List Frame
  | _, [] => []
  | entry, (memory, frame) :: rest =>
    (handleFragment memory frame entry).2.toList ++
      handleFragments (handleFragment memory frame entry).1 rest

theorem handleFragments_of_complete {memory : Nat → UInt8} {frame : Frame}
    (hcomplete : (info.add frame).Complete) (rest : List ((Nat → UInt8) × Frame)) :
    handleFragments (some info) ((memory, frame) :: rest) =
      (info.add frame).merged memory frame.header :: handleFragments none rest := by
  rw [handleFragments, handleFragment, if_pos hcomplete]
  rfl

theorem handleFragments_of_not_complete {memory : Nat → UInt8} {frame : Frame}
    (hcomplete : ¬ (info.add frame).Complete) (rest : List ((Nat → UInt8) × Frame)) :
    handleFragments (some info) ((memory, frame) :: rest) =
      handleFragments (some (info.add frame)) rest := by
  rw [handleFragments, handleFragment, if_neg hcomplete]
  rfl

/-! ## The first piece arrives first -/

-- The place of a piece in the table, numbered on over the end of the sequence numbers.
def entryAt (common : Header) (n : Nat) (data : List UInt8) (k : Nat) : UInt32 × Frame :=
  (.ofNat (common.seq.toNat + k), piece common n data k)

theorem place_entryAt {k : Nat} (hk : k < 2 ^ 16) :
    place (entryAt common n data k) = common.seq.toNat + k := by
  have hseq := common.seq.toNat_lt
  show (UInt32.ofNat (common.seq.toNat + k)).toNat = _
  rw [UInt32.toNat_ofNat']
  omega

/-- The entry once the pieces `ks` have arrived, the first one before the others. -/
structure Gathered (common : Header) (n : Nat) (data : List UInt8) (ks : List Nat)
    (info : MediaInfo) : Prop where
  sSeq : info.sSeq.toNat = common.seq.toNat
  eSeq : info.eSeq = if count n data.length - 1 ∈ ks then
    (piece common n data (count n data.length - 1)).header.seq.toUInt32 else invalidSeq
  npkts : info.npkts = ks.length
  size : info.size = info.payload.length
  ordered : Ordered place info.fragments
  fragments : info.fragments.Perm (ks.map (entryAt common n data))

theorem gathered_new (hmany : 1 < count n data.length) :
    Gathered common n data [0] (.new (piece common n data 0)) := by
  have hseq := common.seq.toNat_lt
  have hfirst : (piece common n data 0).header.seq.toUInt32 = .ofNat (common.seq.toNat + 0) := by
    apply UInt32.toNat_inj.mp
    rw [UInt16.toNat_toUInt32, toNat_seq_piece, UInt32.toNat_ofNat']
    omega
  refine ⟨?_, ?_, rfl, ?_, List.pairwise_singleton _ _, ?_⟩
  · show (piece common n data 0).header.seq.toUInt32.toNat = _
    rw [UInt16.toNat_toUInt32, toNat_seq_piece]
    omega
  · rw [if_neg]
    · rfl
    · rw [List.mem_singleton]
      omega
  · exact congrArg List.length (List.append_nil _).symm
  · show [((piece common n data 0).header.seq.toUInt32, piece common n data 0)].Perm _
    rw [hfirst]
    exact .refl _

theorem key_piece (h : Pieces common n data) (hsSeq : info.sSeq.toNat = common.seq.toNat) {k : Nat}
    (hk : k < count n data.length) :
    (info.key (piece common n data k), piece common n data k) = entryAt common n data k := by
  have hseq := common.seq.toNat_lt
  have hcount := h.count_le
  rw [maxMsgCount] at hcount
  refine Prod.ext (UInt32.toNat_inj.mp ?_) rfl
  show (info.key (piece common n data k)).toNat = (UInt32.ofNat (common.seq.toNat + k)).toNat
  rw [toNat_key, hsSeq, toNat_seq_piece, UInt32.toNat_ofNat']
  split <;> omega

theorem Gathered.add (h : Pieces common n data) (hg : Gathered common n data ks info) {k : Nat}
    (hks : ∀ i ∈ ks, i < count n data.length) (hk : k < count n data.length) (hnew : k ∉ ks) :
    Gathered common n data (ks ++ [k]) (info.add (piece common n data k)) := by
  have hseq := common.seq.toNat_lt
  have hcount := h.count_le
  rw [maxMsgCount] at hcount
  have hkey := key_piece h hg.sSeq hk
  have hperm : (info.add (piece common n data k)).fragments.Perm
      (entryAt common n data k :: info.fragments) := by
    show (assign place (info.key (piece common n data k), piece common n data k)
      info.fragments).Perm _
    rw [hkey]
    apply assign_perm
    intro a ha
    obtain ⟨i, hi, rfl⟩ := List.mem_map.mp (hg.fragments.mem_iff.mp ha)
    have := hks i hi
    rw [place_entryAt (by omega), place_entryAt (by omega)]
    rintro heq
    exact hnew (Nat.add_left_cancel heq ▸ hi)
  refine ⟨?_, ?_, ?_, ?_, hg.ordered.assign _, ?_⟩
  · show (if (piece common n data k).header.marker = 0 ∧
      (piece common n data k).header.seq.toUInt32 = info.sSeq - 1 then
        (piece common n data k).header.seq.toUInt32 else info.sSeq).toNat = _
    rw [if_neg, hg.sSeq]
    rintro ⟨-, hbefore⟩
    have hbefore := congrArg UInt32.toNat hbefore
    rw [UInt16.toNat_toUInt32, toNat_seq_piece, UInt32.toNat_sub, hg.sSeq, UInt32.toNat_one]
      at hbefore
    omega
  · show (if (piece common n data k).header.marker ≠ 0 then
      (piece common n data k).header.seq.toUInt32 else info.eSeq) = _
    by_cases hlast : k + 1 = count n data.length
    · have hsame : count n data.length - 1 = k := by omega
      rw [if_pos fun hzero => (marker_piece h k).mp hzero hlast, hsame,
        if_pos (List.mem_append_right ks List.mem_cons_self)]
    · have hother : count n data.length - 1 ≠ k := by omega
      rw [if_neg (not_not.mpr ((marker_piece h k).mpr hlast)), hg.eSeq]
      simp only [List.mem_append, List.mem_singleton, hother, or_false]
  · show info.npkts + 1 = _
    rw [hg.npkts, List.length_append, List.length_singleton]
  · show info.size + (piece common n data k).payload.length =
      ((info.add (piece common n data k)).fragments.flatMap fun a => a.2.payload).length
    rw [(hperm.flatMap_right _).length_eq, List.flatMap_cons, List.length_append, hg.size,
      Nat.add_comm]
    rfl
  · exact (hperm.trans (hg.fragments.cons _)).trans
      (by rw [List.map_append]; exact (List.perm_append_singleton _ _).symm)

theorem Gathered.complete_iff (h : Pieces common n data) (hg : Gathered common n data ks info)
    (hks : ∀ i ∈ ks, i < count n data.length) (hnodup : ks.Nodup)
    (hmany : 1 < count n data.length) :
    info.Complete ↔ ks.length = count n data.length := by
  have hseq := common.seq.toNat_lt
  have hcount := h.count_le
  rw [maxMsgCount] at hcount
  have hsSeq := hg.sSeq
  by_cases hlast : count n data.length - 1 ∈ ks
  · have heSeq : info.eSeq.toNat =
        (common.seq.toNat + (count n data.length - 1)) % 2 ^ 16 := by
      rw [hg.eSeq, if_pos hlast, UInt16.toNat_toUInt32, toNat_seq_piece]
    have hvalid : info.eSeq ≠ invalidSeq ∧ info.sSeq ≠ invalidSeq := by
      constructor
      · intro heq
        rw [heq, show invalidSeq.toNat = 0xffffffff from rfl] at heSeq
        omega
      · intro heq
        rw [heq, show invalidSeq.toNat = 0xffffffff from rfl] at hsSeq
        omega
    have hrecv : info.recv.toNat = count n data.length := by
      rw [toNat_recv (by omega) (by omega)]
      omega
    rw [Complete, and_iff_right hvalid, hrecv, hg.npkts]
    exact eq_comm
  · refine iff_of_false (fun hcomplete => hcomplete.1.1 ?_) fun hall => hlast ?_
    · rw [hg.eSeq, if_neg hlast]
    · have hsub : ks.Subperm (List.range (count n data.length)) :=
        hnodup.subperm fun i hi => List.mem_range.mpr (hks i hi)
      have hperm := hsub.perm_of_length_le (by rw [List.length_range, hall])
      rw [hperm.mem_iff, List.mem_range]
      omega

theorem Gathered.merged_payload (h : Pieces common n data) (hg : Gathered common n data ks info)
    (hks : ∀ i ∈ ks, i < count n data.length) (hnodup : ks.Nodup)
    (hall : ks.length = count n data.length) (memory : Nat → UInt8) (header : Header) :
    (info.merged memory header).payload = data := by
  have hcount := h.count_le
  rw [maxMsgCount] at hcount
  have hsub : ks.Subperm (List.range (count n data.length)) :=
    hnodup.subperm fun i hi => List.mem_range.mpr (hks i hi)
  have hperm := hsub.perm_of_length_le (by rw [List.length_range, hall])
  have hordered :
      Ordered place ((List.range (count n data.length)).map (entryAt common n data)) := by
    apply List.pairwise_map.mpr
    refine List.pairwise_lt_range.imp_of_mem ?_
    intro i j hi hj hlt
    rw [List.mem_range] at hi hj
    rw [place_entryAt (by omega), place_entryAt (by omega)]
    omega
  have hfragments : info.fragments =
      (List.range (count n data.length)).map (entryAt common n data) :=
    hg.ordered.eq_of_perm hordered (hg.fragments.trans (hperm.map _))
  have hpayload : info.payload = data := by
    rw [payload, hfragments, List.flatMap_map]
    exact flatten_chunks h.size_pos data
  show info.payload ++ (List.range' info.payload.length (info.size - info.payload.length)).map
    memory = data
  rw [hg.size, Nat.sub_self, hpayload]
  exact List.append_nil data

-- The pieces `ks` arrive in this order.
def arriving (common : Header) (n : Nat) (data : List UInt8) (memory : Nat → Nat → UInt8)
    (ks : List Nat) : List ((Nat → UInt8) × Frame) :=
  ks.map fun k => (memory k, piece common n data k)

theorem length_le_of_nodup {m : Nat} (hks : ∀ i ∈ ks, i < m) (hnodup : ks.Nodup) :
    ks.length ≤ m := by
  have hsub : ks.Subperm (List.range m) :=
    hnodup.subperm fun i hi => List.mem_range.mpr (hks i hi)
  have hlength := hsub.length_le
  rwa [List.length_range] at hlength

/-- From an entry on that has gathered the pieces `ks`. -/
theorem handleFragments_gathered (h : Pieces common n data) (hmany : 1 < count n data.length)
    (memory : Nat → Nat → UInt8) (later : List Nat) {ks : List Nat} {info : MediaInfo}
    (hg : Gathered common n data ks info) (hks : ∀ i ∈ ks ++ later, i < count n data.length)
    (hnodup : (ks ++ later).Nodup) (hopen : ks.length < count n data.length) :
    (handleFragments (some info) (arriving common n data memory later)).map Frame.payload =
      if (ks ++ later).length = count n data.length then [data] else [] := by
  induction later generalizing ks info with
  | nil =>
    rw [List.append_nil, if_neg (Nat.ne_of_lt hopen)]
    rfl
  | cons k later ih =>
    rw [List.append_cons] at hks hnodup ⊢
    have hnow : ∀ i ∈ ks ++ [k], i < count n data.length :=
      fun i hi => hks i (List.mem_append_left later hi)
    have hnodup' := hnodup.sublist (List.sublist_append_left _ later)
    have hnew : k ∉ ks := by
      intro hk
      exact (List.nodup_append.mp hnodup').2.2 k hk k List.mem_cons_self rfl
    have hadd := hg.add h (fun i hi => hnow i (List.mem_append_left [k] hi))
      (hnow k (List.mem_append_right ks List.mem_cons_self)) hnew
    have hiff := hadd.complete_iff h hnow hnodup' hmany
    show (handleFragments (some info) ((memory k, piece common n data k) ::
      arriving common n data memory later)).map Frame.payload = _
    by_cases hcomplete : (info.add (piece common n data k)).Complete
    · have hall := hiff.mp hcomplete
      -- There is no piece left to arrive.
      have hlater : later = [] := by
        have hle := length_le_of_nodup hks hnodup
        rw [List.length_append, hall] at hle
        exact List.length_eq_zero_iff.mp (by omega)
      rw [handleFragments_of_complete hcomplete, List.map_cons,
        hadd.merged_payload h hnow hnodup' hall, hlater, List.append_nil, if_pos hall]
      rfl
    · have hne : (ks ++ [k]).length ≠ count n data.length := fun hall => hcomplete (hiff.mpr hall)
      have hle := length_le_of_nodup hnow hnodup'
      rw [handleFragments_of_not_complete hcomplete]
      exact ih hadd hks hnodup (by omega)

/-- When the first piece arrives before the others, the frame comes out once all are there. -/
theorem handleFragments_first (h : Pieces common n data) (memory : Nat → Nat → UInt8)
    {later : List Nat} (hks : ∀ i ∈ 0 :: later, i < count n data.length)
    (hnodup : (0 :: later).Nodup) :
    (handleFragments none (arriving common n data memory (0 :: later))).map Frame.payload =
      if (0 :: later).length = count n data.length then [data] else [] := by
  have hpos := hks 0 List.mem_cons_self
  by_cases hmany : 1 < count n data.length
  · have hmarker := (marker_piece h 0).mpr (by omega)
    show ((handleFragment (memory 0) (piece common n data 0) none).2.toList ++ handleFragments
      (handleFragment (memory 0) (piece common n data 0) none).1
        (arriving common n data memory later)).map Frame.payload = _
    rw [handleFragment, if_pos hmarker]
    exact handleFragments_gathered h hmany memory later (gathered_new hmany) hks hnodup hmany
  · have hone : count n data.length = 1 := by omega
    have hlater : later = [] := by
      have hle := length_le_of_nodup hks hnodup
      rw [List.length_cons, hone] at hle
      exact List.length_eq_zero_iff.mp (by omega)
    have hmarker : (piece common n data 0).header.marker ≠ 0 :=
      fun hzero => (marker_piece h 0).mp hzero hone.symm
    have hdata := flatten_chunks h.size_pos data
    rw [chunks, hone] at hdata
    have hfirst : (piece common n data 0).payload = data :=
      (List.append_nil _).symm.trans hdata
    rw [hlater, hone, if_pos (by rfl)]
    show ((handleFragment (memory 0) (piece common n data 0) none).2.toList ++ []).map
      Frame.payload = [data]
    rw [handleFragment, if_neg hmarker, List.append_nil]
    exact congrArg (fun payload => [payload]) hfirst

/-! ## Another piece arrives first -/

theorem mem_of_mem_chunk {b x : UInt8} {rest : List UInt8} {i : Nat} (hn : 0 < n) (hi : i ≠ 0)
    (hx : x ∈ chunk n (b :: rest) i) : x ∈ rest := by
  obtain ⟨m, hm⟩ : ∃ m, i * n = m + 1 :=
    Nat.exists_eq_succ_of_ne_zero (Nat.mul_ne_zero hi (Nat.ne_of_gt hn))
  rw [chunk, hm, List.drop_succ_cons] at hx
  exact List.mem_of_mem_drop (List.mem_of_mem_take hx)

-- The first byte of the data does not occur in it again.
def FirstByteOnce : List UInt8 → Prop
  | [] => False
  | b :: rest => b ∉ rest

instance FirstByteOnce.decidable : DecidablePred FirstByteOnce
  | [] => isFalse id
  | _ :: _ => inferInstanceAs (Decidable (_ ∉ _))

/-- What begins with a piece that is not the first differs from the data. -/
theorem ne_of_chunk {i : Nat} {rest : List UInt8} (hn : 0 < n) (honce : FirstByteOnce data)
    (hi : i ≠ 0) (hcount : i < count n data.length) : chunk n data i ++ rest ≠ data := by
  intro heq
  cases data with
  | nil => exact honce
  | cons b tail =>
    have hpos := length_chunk_pos hn hcount
    cases hchunk : chunk n (b :: tail) i with
    | nil =>
      rw [hchunk] at hpos
      exact Nat.lt_irrefl 0 hpos
    | cons c chunk' =>
      rw [hchunk, List.cons_append] at heq
      have hb : c = b := (List.cons.inj heq).1
      apply honce
      apply mem_of_mem_chunk hn hi
      rw [hchunk, hb]
      exact List.mem_cons_self

/-- The entry once the pieces `ks` have arrived, piece `j` before the others.  A number below that
of the start counts as one of the next cycle, so that the first piece gets a place behind `j`. -/
structure Misplaced (common : Header) (n : Nat) (data : List UInt8) (j : Nat) (ks : List Nat)
    (info : MediaInfo) : Prop where
  sSeq : info.sSeq.toNat ≤ (common.seq.toNat + j) % 2 ^ 16
  behind : 0 ∉ ks → common.seq.toNat ≤ (common.seq.toNat + j) % 2 ^ 16 →
    common.seq.toNat < info.sSeq.toNat
  eSeq : info.eSeq ≠ invalidSeq → count n data.length - 1 ∈ ks
  ordered : Ordered place info.fragments
  fragments : ∀ a ∈ info.fragments, ∃ i < count n data.length, a.2 = piece common n data i ∧
    (i = 0 → (common.seq.toNat + j) % 2 ^ 16 < place a)
  first : ∃ a ∈ info.fragments, place a = (common.seq.toNat + j) % 2 ^ 16

theorem misplaced_new {j : Nat} (h : Pieces common n data) (hj : j ≠ 0)
    (hcount : j < count n data.length) :
    Misplaced common n data j [j] (.new (piece common n data j)) := by
  have hseq := common.seq.toNat_lt
  have hmax := h.count_le
  rw [maxMsgCount] at hmax
  have hnumber : (piece common n data j).header.seq.toUInt32.toNat =
      (common.seq.toNat + j) % 2 ^ 16 := by
    rw [UInt16.toNat_toUInt32, toNat_seq_piece]
  refine ⟨Nat.le_of_eq hnumber, ?_, fun hne => absurd rfl hne, List.pairwise_singleton _ _, ?_,
    ⟨_, List.mem_cons_self, hnumber⟩⟩
  · intro _ hle
    show common.seq.toNat < (piece common n data j).header.seq.toUInt32.toNat
    rw [hnumber]
    omega
  · intro a ha
    rw [List.mem_singleton.mp ha]
    exact ⟨j, hcount, rfl, fun hzero => absurd hzero hj⟩

theorem Misplaced.add {j : Nat} (h : Pieces common n data)
    (hm : Misplaced common n data j ks info) {k : Nat} (hk : k < count n data.length)
    (hnew : k ∉ ks) :
    Misplaced common n data j (ks ++ [k]) (info.add (piece common n data k)) := by
  have hseq := common.seq.toNat_lt
  have hmax := h.count_le
  rw [maxMsgCount] at hmax
  have hnumber : (piece common n data k).header.seq.toUInt32.toNat =
      (common.seq.toNat + k) % 2 ^ 16 := by
    rw [UInt16.toNat_toUInt32, toNat_seq_piece]
  have hsSeq := hm.sSeq
  have hstart : (info.add (piece common n data k)).sSeq = info.sSeq ∨
      (info.add (piece common n data k)).sSeq.toNat = (common.seq.toNat + k) % 2 ^ 16 ∧
        (common.seq.toNat + k) % 2 ^ 16 + 1 = info.sSeq.toNat := by
    show (if _ then (piece common n data k).header.seq.toUInt32 else info.sSeq) = _ ∨
      (if _ then (piece common n data k).header.seq.toUInt32 else info.sSeq).toNat = _ ∧ _
    split
    next hbefore =>
      have hbefore := congrArg UInt32.toNat hbefore.2
      rw [hnumber, UInt32.toNat_sub, UInt32.toNat_one] at hbefore
      exact .inr ⟨hnumber, by omega⟩
    next => exact .inl rfl
  refine ⟨?_, ?_, ?_, hm.ordered.assign _, ?_, ?_⟩
  · rcases hstart with hsame | ⟨hvalue, hnext⟩
    · rw [hsame]
      exact hsSeq
    · omega
  · intro hnot hle
    rw [List.mem_append, List.mem_singleton, not_or] at hnot
    have hbehind := hm.behind hnot.1 hle
    rcases hstart with hsame | ⟨hvalue, hnext⟩
    · rw [hsame]
      exact hbehind
    · omega
  · show (if (piece common n data k).header.marker ≠ 0 then
      (piece common n data k).header.seq.toUInt32 else info.eSeq) ≠ invalidSeq → _
    rw [List.mem_append, List.mem_singleton]
    split
    next hmarker =>
      have hlast := not_not.mp (mt (marker_piece h k).mpr hmarker)
      exact fun _ => .inr (by omega)
    next => exact fun hne => .inl (hm.eSeq hne)
  · intro a ha
    rcases mem_of_mem_assign ha with rfl | ha
    · refine ⟨k, hk, rfl, ?_⟩
      rintro rfl
      have hbehind := hm.behind hnew
      show _ < (info.key (piece common n data 0)).toNat
      rw [toNat_key, toNat_seq_piece]
      split <;> omega
    · exact hm.fragments a ha
  · obtain ⟨a, ha, hplace⟩ := hm.first
    obtain ⟨b, hb, hsame⟩ :=
      exists_key_assign place (info.key (piece common n data k), piece common n data k) ha
    exact ⟨b, hb, hsame.trans hplace⟩

theorem Misplaced.merged_payload {j : Nat} (h : Pieces common n data)
    (hm : Misplaced common n data j ks info) (honce : FirstByteOnce data) (memory : Nat → UInt8)
    (header : Header) : (info.merged memory header).payload ≠ data := by
  obtain ⟨a, ha, hplace⟩ := hm.first
  have hordered := hm.ordered
  have hfragments := hm.fragments
  show info.fragments.flatMap (fun a => a.2.payload) ++ _ ≠ data
  cases hlist : info.fragments with
  | nil =>
    rw [hlist] at ha
    cases ha
  | cons c rest =>
    rw [hlist] at ha hordered hfragments
    obtain ⟨i, hi, hpiece, hzero⟩ := hfragments c List.mem_cons_self
    have hne : i ≠ 0 := by
      intro heq
      have hlt := hzero heq
      rcases List.mem_cons.mp ha with rfl | ha
      · omega
      · have hlater := (List.pairwise_cons.mp hordered).1 a ha
        omega
    rw [List.flatMap_cons, hpiece, List.append_assoc]
    exact ne_of_chunk h.size_pos honce hne hi

/-- Without the last piece nothing comes out any more. -/
theorem handleFragments_unmarked (h : Pieces common n data) (memory : Nat → Nat → UInt8)
    (later : List Nat) (hlater : count n data.length - 1 ∉ later)
    (hks : ∀ k ∈ later, k < count n data.length) {entry : Option MediaInfo}
    (hentry : ∀ info ∈ entry, info.eSeq = invalidSeq) :
    handleFragments entry (arriving common n data memory later) = [] := by
  induction later generalizing entry with
  | nil => rfl
  | cons k later ih =>
    have hrest := fun hmem => hlater (List.mem_cons_of_mem k hmem)
    have hks' := fun i hi => hks i (List.mem_cons_of_mem k hi)
    have hne : k + 1 ≠ count n data.length := by
      intro heq
      apply hlater
      rw [← heq]
      exact List.mem_cons_self
    have hmarker := (marker_piece h k).mpr hne
    cases entry with
    | none =>
      show (handleFragment (memory k) (piece common n data k) none).2.toList ++ handleFragments
        (handleFragment (memory k) (piece common n data k) none).1
          (arriving common n data memory later) = []
      rw [handleFragment, if_pos hmarker]
      refine ih hrest hks' fun info hinfo => ?_
      cases hinfo
      rfl
    | some info =>
      have heSeq : (info.add (piece common n data k)).eSeq = invalidSeq :=
        (if_neg (not_not.mpr hmarker)).trans (hentry info rfl)
      show handleFragments (some info) ((memory k, piece common n data k) ::
        arriving common n data memory later) = []
      rw [handleFragments_of_not_complete fun hcomplete => hcomplete.1.1 heSeq]
      refine ih hrest hks' fun info hinfo => ?_
      cases hinfo
      exact heSeq

theorem handleFragments_misplaced {j : Nat} (h : Pieces common n data)
    (honce : FirstByteOnce data) (memory : Nat → Nat → UInt8) (later : List Nat) {ks : List Nat}
    {info : MediaInfo} (hm : Misplaced common n data j ks info)
    (hks : ∀ i ∈ ks ++ later, i < count n data.length) (hnodup : (ks ++ later).Nodup) :
    ∀ f ∈ handleFragments (some info) (arriving common n data memory later), f.payload ≠ data := by
  induction later generalizing ks info with
  | nil =>
    intro f hf
    cases hf
  | cons k later ih =>
    rw [List.append_cons] at hks hnodup
    have hdisjoint := List.nodup_append.mp hnodup
    have hnew : k ∉ ks := by
      intro hk
      exact (List.nodup_append.mp hdisjoint.1).2.2 k hk k List.mem_cons_self rfl
    have hk : k < count n data.length :=
      hks k (List.mem_append_left later (List.mem_append_right ks List.mem_cons_self))
    have hadd := hm.add h hk hnew
    show ∀ f ∈ handleFragments (some info) ((memory k, piece common n data k) ::
      arriving common n data memory later), f.payload ≠ data
    by_cases hcomplete : (info.add (piece common n data k)).Complete
    · have hmarked := hadd.eSeq hcomplete.1.1
      have hlater : count n data.length - 1 ∉ later :=
        fun hmem => hdisjoint.2.2 _ hmarked _ hmem rfl
      rw [handleFragments_of_complete hcomplete, handleFragments_unmarked h memory later hlater
        (fun i hi => hks i (List.mem_append_right _ hi)) fun info hinfo => by cases hinfo]
      intro f hf
      rw [List.mem_singleton.mp hf]
      exact hadd.merged_payload h honce (memory k) _
    · rw [handleFragments_of_not_complete hcomplete]
      exact ih hadd hks hnodup

/-- When another piece arrives before the first one, the frame does not come out as it was. -/
theorem handleFragments_not_first {j : Nat} (h : Pieces common n data)
    (honce : FirstByteOnce data) (hj : j ≠ 0) (memory : Nat → Nat → UInt8) {later : List Nat}
    (hks : ∀ i ∈ j :: later, i < count n data.length) (hnodup : (j :: later).Nodup) :
    ∀ f ∈ handleFragments none (arriving common n data memory (j :: later)), f.payload ≠ data := by
  have hjcount := hks j List.mem_cons_self
  show ∀ f ∈ (handleFragment (memory j) (piece common n data j) none).2.toList ++ handleFragments
    (handleFragment (memory j) (piece common n data j) none).1
      (arriving common n data memory later), f.payload ≠ data
  rw [handleFragment]
  by_cases hlast : j + 1 = count n data.length
  · have hmarker : (piece common n data j).header.marker ≠ 0 :=
      fun hzero => (marker_piece h j).mp hzero hlast
    have hlater : count n data.length - 1 ∉ later := by
      rw [← hlast]
      exact (List.nodup_cons.mp hnodup).1
    rw [if_neg hmarker]
    dsimp only
    rw [handleFragments_unmarked h memory later hlater
      (fun i hi => hks i (List.mem_cons_of_mem j hi)) fun info hinfo => by cases hinfo]
    intro f hf
    rw [List.mem_singleton.mp hf]
    rw [← List.append_nil (piece common n data j).payload]
    exact ne_of_chunk h.size_pos honce hj hjcount
  · rw [if_pos ((marker_piece h j).mpr hlast)]
    exact handleFragments_misplaced h honce memory later (misplaced_new h hj hjcount) hks hnodup

/-! ## All that arrives -/

-- What some state of a sender made of nonempty data.
def Made (fragmentGeneric : Bool) (push : Push) : Prop :=
  ∃ r now random r', push.data ≠ [] ∧ 0 < r.payloadSize.toNat ∧
    push.header = pushHeader r now random ∧ push.payloadSize = r.payloadSize ∧
    pushMediaFrame fragmentGeneric r now random push.data = .ok (r', push.datagrams)

def pushed (fragmentGeneric : Bool) (r : Rtp) (now : Nat) (random : UInt32) (data : List UInt8) :
    Push where
  header := pushHeader r now random
  payloadSize := r.payloadSize
  data := data
  datagrams := datagrams fragmentGeneric (pushHeader r now random)
    (payloadsOf fragmentGeneric r.payloadSize data)

theorem made_pushed (fragmentGeneric : Bool) (r : Rtp) (now : Nat) (random : UInt32)
    {data : List UInt8} (hdata : data ≠ []) (hsize : 0 < r.payloadSize.toNat)
    (hcount : (payloadsOf fragmentGeneric r.payloadSize data).length ≤ maxMsgCount) :
    Made fragmentGeneric (pushed fragmentGeneric r now random data) := by
  have hok := pushMediaFrame_eq fragmentGeneric r now random hdata hsize
  dsimp only at hok
  rw [if_pos hcount] at hok
  exact ⟨r, now, random, _, hdata, hsize, rfl, rfl, hok⟩

theorem Made.datagrams {fragmentGeneric : Bool} {push : Push} (h : Made fragmentGeneric push) :
    let payloads := payloadsOf fragmentGeneric push.payloadSize push.data
    payloads.length ≤ maxMsgCount ∧
      push.datagrams = datagrams fragmentGeneric push.header payloads := by
  obtain ⟨r, now, random, r', hdata, hsize, hheader, hpayloadSize, hok⟩ := h
  rw [pushMediaFrame_eq fragmentGeneric r now random hdata hsize] at hok
  dsimp only at hok ⊢
  rw [hpayloadSize, hheader]
  split at hok
  next hle => exact ⟨hle, (Prod.mk.inj (Except.ok.inj hok)).2.symm⟩
  next => cases hok

theorem Made.plain {fragmentGeneric : Bool} {push : Push} (h : Made fragmentGeneric push) :
    PlainHeader push.header := by
  obtain ⟨r, now, random, r', -, -, hheader, -, -⟩ := h
  rw [hheader]
  exact plain_pushHeader r now random

def frameOf (push : Push) (k : Nat) : Frame :=
  piece push.header push.payloadSize.toNat push.data k

theorem Made.pieces {push : Push} (h : Made true push) :
    Pieces push.header push.payloadSize.toNat push.data := by
  obtain ⟨hle, -⟩ := h.datagrams
  rw [payloadsOf, if_pos rfl, length_chunks] at hle
  obtain ⟨r, now, random, r', -, hsize, -, hpayloadSize, -⟩ := id h
  exact ⟨hpayloadSize ▸ hsize, hle, h.plain.marker⟩

theorem Made.count_pos {push : Push} (h : Made true push) :
    0 < count push.payloadSize.toNat push.data.length := by
  obtain ⟨r, now, random, r', hdata, -⟩ := id h
  rw [lt_count_iff h.pieces.size_pos, Nat.zero_mul]
  exact List.length_pos_iff.mpr hdata

theorem Made.length_datagrams {push : Push} (h : Made true push) :
    push.datagrams.length = count push.payloadSize.toNat push.data.length := by
  obtain ⟨-, hdatagrams⟩ := h.datagrams
  rw [hdatagrams, MediaFormat.datagrams, List.length_map, List.length_zipIdx, payloadsOf,
    if_pos rfl, length_chunks]

/-- Every datagram of a push is read as the frame of its piece. -/
theorem Made.packetHandler {push : Push} (h : Made true push) {k : Nat} {datagram : List UInt8}
    (hk : push.datagrams[k]? = some datagram) :
    Uvgrtp.packetHandler datagram = .ok (.modified (frameOf push k)) := by
  have hlt := (List.getElem?_eq_some_iff.mp hk).1
  rw [h.length_datagrams] at hlt
  obtain ⟨-, hdatagrams⟩ := h.datagrams
  rw [hdatagrams, payloadsOf, if_pos rfl, getElem?_datagrams, getElem?_chunks hlt, length_chunks]
    at hk
  cases hk
  exact packetHandler_datagram true h.plain _ k _

theorem handleFragment_timestamp (memory : Nat → UInt8) (frame : Frame) (entry : Option MediaInfo) :
    ∀ f ∈ (handleFragment memory frame entry).2.toList,
      f.header.timestamp = frame.header.timestamp := by
  intro f hf
  rw [Option.mem_toList] at hf
  cases entry with
  | some info =>
    rw [handleFragment] at hf
    split at hf
    next =>
      cases hf
      rfl
    next => cases hf
  | none =>
    rw [handleFragment] at hf
    split at hf
    next => cases hf
    next =>
      cases hf
      rfl

/-- What comes out with a timestamp is what the packets with this timestamp make come out. -/
theorem runHandlers_timestamp {entries : List ((Nat → UInt8) × List UInt8)}
    {packets : List ((Nat → UInt8) × Frame)} (hpackets : List.Forall₂ (fun e packet =>
      e.1 = packet.1 ∧ Uvgrtp.packetHandler e.2 = .ok (.modified packet.2)) entries packets)
    (frames : Table MediaInfo) (ts : UInt32) :
    (Flow.runHandlers (handlers true) (.ok frames) entries).2.filter
        (fun f => f.header.timestamp = ts) =
      handleFragments (frames.lookup ts) (packets.filter fun p => p.2.header.timestamp = ts) := by
  induction hpackets generalizing frames with
  | nil => rfl
  | @cons e packet entries packets hhere _ ih =>
    obtain ⟨memory, datagram⟩ := e
    obtain ⟨memory', frame⟩ := packet
    obtain ⟨rfl, hframe⟩ := hhere
    obtain ⟨hout, hlookup, hother⟩ := packetHandler_entry memory frames frame
    have hnow : handlers true (.ok frames) memory datagram =
        (.ok (packetHandler true memory frames frame).1,
          (packetHandler true memory frames frame).2.toList) := by
      rw [handlers, hframe]
    rw [Flow.runHandlers, hnow]
    dsimp only
    rw [List.filter_append, ih, hout, List.filter_cons]
    by_cases hts : frame.header.timestamp = ts
    · have hall : (handleFragment memory frame (frames.lookup ts)).2.toList.filter
          (fun f => f.header.timestamp = ts) =
            (handleFragment memory frame (frames.lookup ts)).2.toList := by
        rw [List.filter_eq_self]
        intro f hf
        rw [← hts] at hf
        exact decide_eq_true ((handleFragment_timestamp memory frame _ f hf).trans hts)
      rw [if_pos (decide_eq_true hts), ← hts, hlookup, hts, hall, handleFragments]
    · have hnone : (handleFragment memory frame
          (frames.lookup frame.header.timestamp)).2.toList.filter
            (fun f => f.header.timestamp = ts) = [] := by
        rw [List.filter_eq_nil_iff]
        intro f hf heq
        have hsame := handleFragment_timestamp memory frame _ f hf
        exact hts (hsame.symm.trans (of_decide_eq_true heq))
      rw [if_neg (by rw [decide_eq_true_iff]; exact hts), hother ts (Ne.symm hts), hnone]
      rfl

/-! ## Runs -/

section runs

variable {pushes : List Push}

-- Datagram `a.2` of push `a.1`.
def datagramAt (pushes : List Push) (a : Nat × Nat) : List UInt8 :=
  (pushes[a.1]?.bind fun push => push.datagrams[a.2]?).getD []

/-- The frames that come out when the datagrams `as` arrive one after the other. -/
def returned (pushes : List Push) (memory : Nat × Nat → Nat → UInt8) (as : List (Nat × Nat)) :
    List Frame :=
  (Flow.runHandlers (handlers true) (.ok ∅) (as.map fun a => (memory a, datagramAt pushes a))).2

-- The pieces of push `p` in the order in which they arrive.
def order (as : List (Nat × Nat)) (p : Nat) : List Nat :=
  (as.filter fun a => a.1 = p).map Prod.snd

theorem order_cons (a : Nat × Nat) (as : List (Nat × Nat)) (p : Nat) :
    order (a :: as) p = if a.1 = p then a.2 :: order as p else order as p := by
  rw [order, List.filter_cons]
  by_cases heq : a.1 = p
  · rw [if_pos (decide_eq_true heq), if_pos heq]
    rfl
  · rw [if_neg (by rwa [decide_eq_true_iff]), if_neg heq]
    rfl

/-- Each push has a timestamp of its own, and each of its datagrams arrives at most once. -/
structure Arrivals (pushes : List Push) (as : List (Nat × Nat)) : Prop where
  made : ∀ push ∈ pushes, Made true push
  timestamps : pushes.Pairwise fun a b => a.header.timestamp ≠ b.header.timestamp
  sent : ∀ a ∈ as, ∃ push ∈ pushes[a.1]?, a.2 < push.datagrams.length
  nodup : as.Nodup

theorem timestamp_inj {p q : Nat} {a b : Push}
    (hts : pushes.Pairwise fun a b => a.header.timestamp ≠ b.header.timestamp)
    (ha : pushes[p]? = some a) (hb : pushes[q]? = some b)
    (heq : a.header.timestamp = b.header.timestamp) : p = q := by
  obtain ⟨hp, rfl⟩ := List.getElem?_eq_some_iff.mp ha
  obtain ⟨hq, rfl⟩ := List.getElem?_eq_some_iff.mp hb
  rw [List.pairwise_iff_getElem] at hts
  rcases Nat.lt_trichotomy p q with hlt | hsame | hlt
  · exact absurd heq (hts p q hp hq hlt)
  · exact hsame
  · exact absurd heq.symm (hts q p hq hp hlt)

theorem Arrivals.order_lt {as : List (Nat × Nat)} (h : Arrivals pushes as) {p : Nat} {push : Push}
    (hp : pushes[p]? = some push) :
    ∀ k ∈ order as p, k < count push.payloadSize.toNat push.data.length := by
  intro k hk
  obtain ⟨a, ha, rfl⟩ := List.mem_map.mp hk
  obtain ⟨hmem, heq⟩ := List.mem_filter.mp ha
  obtain ⟨push', hpush', hlt⟩ := h.sent a hmem
  rw [of_decide_eq_true heq, hp, Option.mem_def] at hpush'
  cases hpush'
  rwa [← (h.made push (List.mem_of_getElem? hp)).length_datagrams]

theorem Arrivals.order_nodup {as : List (Nat × Nat)} (h : Arrivals pushes as) (p : Nat) :
    (order as p).Nodup := by
  apply (h.nodup.filter _).map_on
  rintro ⟨p₁, k₁⟩ h₁ ⟨p₂, k₂⟩ h₂ heq
  have hp₁ := of_decide_eq_true (List.mem_filter.mp h₁).2
  have hp₂ := of_decide_eq_true (List.mem_filter.mp h₂).2
  exact Prod.ext (hp₁.trans hp₂.symm) heq

theorem Arrivals.read {as : List (Nat × Nat)} (h : Arrivals pushes as) {a : Nat × Nat}
    (ha : a ∈ as) : ∃ push, pushes[a.1]? = some push ∧
      Uvgrtp.packetHandler (datagramAt pushes a) = .ok (.modified (frameOf push a.2)) := by
  obtain ⟨push, hpush, hlt⟩ := h.sent a ha
  rw [Option.mem_def] at hpush
  have hdatagram := List.getElem?_eq_getElem hlt
  refine ⟨push, hpush, ?_⟩
  rw [datagramAt, hpush, Option.bind_some, hdatagram]
  exact (h.made push (List.mem_of_getElem? hpush)).packetHandler hdatagram

/-- The packets that are read, and those of them with the timestamp of one push. -/
theorem exists_packets {as : List (Nat × Nat)} (memory : Nat × Nat → Nat → UInt8)
    (hts : pushes.Pairwise fun a b => a.header.timestamp ≠ b.header.timestamp)
    (hread : ∀ a ∈ as, ∃ push, pushes[a.1]? = some push ∧
      Uvgrtp.packetHandler (datagramAt pushes a) = .ok (.modified (frameOf push a.2)))
    {p : Nat} {push : Push} (hp : pushes[p]? = some push) :
    ∃ packets : List ((Nat → UInt8) × Frame),
      List.Forall₂ (fun e packet => e.1 = packet.1 ∧
        Uvgrtp.packetHandler e.2 = .ok (.modified packet.2))
          (as.map fun a => (memory a, datagramAt pushes a)) packets ∧
      packets.filter (fun packet => packet.2.header.timestamp = push.header.timestamp) =
        arriving push.header push.payloadSize.toNat push.data (fun k => memory (p, k))
          (order as p) := by
  induction as with
  | nil => exact ⟨[], .nil, rfl⟩
  | cons a as ih =>
    obtain ⟨packets, hpackets, hfilter⟩ := ih fun a ha => hread a (List.mem_cons_of_mem _ ha)
    obtain ⟨push', hpush', hframe⟩ := hread a List.mem_cons_self
    refine ⟨(memory a, frameOf push' a.2) :: packets, .cons ⟨rfl, hframe⟩ hpackets, ?_⟩
    have hsame : (frameOf push' a.2).header.timestamp = push.header.timestamp ↔ a.1 = p := by
      constructor
      · exact timestamp_inj hts hpush' hp
      · intro heq
        rw [heq, hp] at hpush'
        cases hpush'
        rfl
    rw [List.filter_cons, hfilter, order_cons]
    dsimp only
    rw [decide_eq_decide.mpr hsame]
    by_cases heq : a.1 = p
    · rw [if_pos (decide_eq_true heq), if_pos heq]
      rw [heq, hp] at hpush'
      cases hpush'
      show (memory (a.1, a.2), frameOf push a.2) :: _ = (memory (p, a.2), frameOf push a.2) :: _
      rw [heq]
      rfl
    · rw [if_neg (by rwa [decide_eq_true_iff]), if_neg heq]

/-- With the timestamp of a push comes out what its own pieces make come out. -/
theorem Arrivals.returned_timestamp {as : List (Nat × Nat)} (h : Arrivals pushes as)
    (memory : Nat × Nat → Nat → UInt8) {p : Nat} {push : Push} (hp : pushes[p]? = some push) :
    (returned pushes memory as).filter (fun f => f.header.timestamp = push.header.timestamp) =
      handleFragments none (arriving push.header push.payloadSize.toNat push.data
        (fun k => memory (p, k)) (order as p)) := by
  obtain ⟨packets, hpackets, hfilter⟩ :=
    exists_packets memory h.timestamps (fun a ha => h.read ha) hp
  rw [returned, runHandlers_timestamp hpackets, hfilter]
  rfl

/-- What comes out for a push. -/
def returnedFor (pushes : List Push) (memory : Nat × Nat → Nat → UInt8) (as : List (Nat × Nat))
    (push : Push) : List (List UInt8) :=
  ((returned pushes memory as).filter
    fun f => f.header.timestamp = push.header.timestamp).map Frame.payload

/-- When no datagram arrives twice, a push whose first piece arrives before its others comes out
once, as it was pushed, when the last of its pieces arrives, and not before. -/
theorem merged_as_pushed {as : List (Nat × Nat)} (h : Arrivals pushes as)
    (memory : Nat × Nat → Nat → UInt8) {p : Nat} {push : Push} (hp : pushes[p]? = some push)
    (hfirst : ∀ k ∈ (order as p).head?, k = 0) :
    returnedFor pushes memory as push =
      if (order as p).length = push.datagrams.length then [push.data] else [] := by
  have hmade := h.made push (List.mem_of_getElem? hp)
  have hks := h.order_lt hp
  have hnodup := h.order_nodup p
  rw [returnedFor, h.returned_timestamp memory hp, hmade.length_datagrams]
  cases horder : order as p with
  | nil =>
    have hpos := hmade.count_pos
    rw [List.length_nil, if_neg (by omega)]
    rfl
  | cons k later =>
    rw [horder] at hfirst hks hnodup
    have hzero := hfirst k rfl
    subst hzero
    exact handleFragments_first hmade.pieces _ hks hnodup

-- Three pieces on both sides of the end of the sequence numbers, and a frame of one packet.
def threePieces : Push :=
  pushed true ⟨7, 1000, 65534, 105, 48000, 0, invalidTs, 2⟩ 0 9 [1, 2, 3, 4, 5]

def twoPushes : List Push :=
  [threePieces, pushed true ⟨7, 1000, 1, 105, 48000, 0, invalidTs, 2⟩ 20000 9 [8, 9]]

theorem twoPushes_arrivals {as : List (Nat × Nat)}
    (hsent : ∀ a ∈ as, ∃ push ∈ twoPushes[a.1]?, a.2 < push.datagrams.length)
    (hnodup : as.Nodup) : Arrivals twoPushes as := by
  refine ⟨?_, by decide +kernel, hsent, hnodup⟩
  intro push hpush
  rcases List.mem_cons.mp hpush with rfl | hpush
  · exact made_pushed true _ 0 9 (by decide) (by decide) (by decide)
  · rw [List.mem_singleton.mp hpush]
    exact made_pushed true _ 20000 9 (by decide) (by decide) (by decide)

theorem merged_as_pushed_twoPushes :
    returnedFor twoPushes (fun _ _ => 0) [(0, 0), (0, 2), (1, 0), (0, 1)] threePieces =
      [[1, 2, 3, 4, 5]] := by
  have h := @twoPushes_arrivals [(0, 0), (0, 2), (1, 0), (0, 1)] (by decide +kernel) (by decide)
  exact merged_as_pushed (p := 0) h (fun _ _ => 0) rfl (by decide)

/-- When all its pieces arrive, once each, a push comes out as it was pushed exactly when the first
one arrives before the others. -/
theorem merged_as_pushed_iff {as : List (Nat × Nat)} (h : Arrivals pushes as)
    (memory : Nat × Nat → Nat → UInt8) {p : Nat} {push : Push} (hp : pushes[p]? = some push)
    (hall : (order as p).length = push.datagrams.length) (honce : FirstByteOnce push.data) :
    returnedFor pushes memory as push = [push.data] ↔ (order as p).head? = some 0 := by
  have hmade := h.made push (List.mem_of_getElem? hp)
  have hks := h.order_lt hp
  have hnodup := h.order_nodup p
  have hpos := hmade.count_pos
  rw [hmade.length_datagrams] at hall
  rw [returnedFor, h.returned_timestamp memory hp]
  cases horder : order as p with
  | nil =>
    rw [horder, List.length_nil] at hall
    omega
  | cons k later =>
    rw [horder] at hall hks hnodup
    rw [List.head?_cons, Option.some.injEq]
    constructor
    · intro hdata
      by_contra hne
      obtain ⟨f, hf, hpayload⟩ := List.mem_map.mp (hdata ▸ List.mem_cons_self)
      exact handleFragments_not_first hmade.pieces honce hne _ hks hnodup f hf hpayload
    · rintro rfl
      rw [handleFragments_first hmade.pieces _ hks hnodup, if_pos hall]

-- The last piece is taken for the end of a frame of two.
theorem merged_as_pushed_iff_twoPushes :
    returnedFor twoPushes (fun _ _ => 0) [(0, 1), (0, 2), (1, 0), (0, 0)] threePieces ≠
      [[1, 2, 3, 4, 5]] := by
  have h := @twoPushes_arrivals [(0, 1), (0, 2), (1, 0), (0, 0)] (by decide +kernel) (by decide)
  have hiff := merged_as_pushed_iff (p := 0) h (fun _ _ => 0) rfl (by decide) (by decide)
  exact fun hdata => absurd (hiff.mp hdata) (by decide)

end runs

end ConnectUdp.Uvgrtp.MediaFormat
