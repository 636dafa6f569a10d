import ConnectUdp.Uvgrtp.H264Session
import Mathlib.Algebra.BigOperators.Group.Finset.Basic

/-!
# A frame that waits for its fragments

What the receiver reads in the datagrams of a push, and how the entry of a frame follows the set of
fragments that have come.
-/

namespace ConnectUdp.Uvgrtp

open NetworkOrder RtpHeader SequenceNumber Chunks

/-! ## The datagrams of a push -/

/-- What is known of a push that was sent under the conditions of a session. -/
structure Sent (push : Push) : Prop where
  plain : PlainHeader push.header
  size : 3 ≤ push.payloadSize.toNat
  data : push.data ≠ []
  datagrams : push.datagrams = flushQueue
    ⟨push.header, numbered push.header (payloadsOf push.payloadSize push.data)⟩
  few : push.datagrams.length ≤ maxMsgCount
  single : push.data.length ≤ push.payloadSize.toNat → SingleNal push.data

def Push.count (push : Push) : Nat :=
  Chunks.count (fuPayloadSize push.payloadSize) push.data.tail.length

def Push.piece (push : Push) (k : Nat) : List UInt8 :=
  chunk (fuPayloadSize push.payloadSize) push.data.tail k

def Push.fragment (push : Push) (k : Nat) : Frame :=
  sentFrame push.header push.count k
    (fuPayload (fuPayloadSize push.payloadSize) (push.data.headD 0) push.data.tail k)

variable {push : Push} {k : Nat} {d : List UInt8}

theorem Sent.fuPayloadSize_eq (h : Sent push) :
    fuPayloadSize push.payloadSize + 2 = push.payloadSize.toNat := by
  have hsize := h.size
  have hlt := push.payloadSize.toNat_lt
  rw [fuPayloadSize, UInt64.toNat_sub, UInt64.toNat_sub, show UInt64.toNat 1 = 1 from rfl]
  omega

theorem Sent.fuPayloadSize_pos (h : Sent push) : 0 < fuPayloadSize push.payloadSize := by
  have heq := h.fuPayloadSize_eq
  have hsize := h.size
  omega

theorem Sent.getElem?_datagrams (h : Sent push) (k : Nat) : push.datagrams[k]? =
    (payloadsOf push.payloadSize push.data)[k]?.map
      (datagram push.header (payloadsOf push.payloadSize push.data) k) := by
  rw [h.datagrams, getElem?_flushQueue]

theorem Sent.length_datagrams (h : Sent push) :
    push.datagrams.length = (payloadsOf push.payloadSize push.data).length := by
  rw [h.datagrams, length_flushQueue]

theorem Sent.payloadsOf_long (h : Sent push) (hlong : push.payloadSize.toNat < push.data.length) :
    payloadsOf push.payloadSize push.data =
      fuPayloads (fuPayloadSize push.payloadSize) (push.data.headD 0) push.data.tail := by
  match hd : push.data, h.data with
  | nalHeader :: rest, _ =>
    rw [hd] at hlong
    exact if_neg (not_le.mpr hlong)

theorem Sent.payloadsOf_short (h : Sent push) (hshort : push.data.length ≤ push.payloadSize.toNat) :
    payloadsOf push.payloadSize push.data = [push.data] := by
  match hd : push.data, h.data with
  | nalHeader :: rest, _ =>
    rw [hd] at hshort
    exact if_pos hshort

theorem Sent.length_of_long (h : Sent push) (hlong : push.payloadSize.toNat < push.data.length) :
    push.datagrams.length = push.count := by
  rw [h.length_datagrams, h.payloadsOf_long hlong, length_fuPayloads]
  rfl

theorem Sent.one_lt_iff (h : Sent push) :
    1 < push.datagrams.length ↔ push.payloadSize.toNat < push.data.length := by
  by_cases hlong : push.payloadSize.toNat < push.data.length
  · refine iff_of_true ?_ hlong
    rw [h.length_of_long hlong, Push.count]
    apply one_lt_count h.fuPayloadSize_pos
    have heq := h.fuPayloadSize_eq
    rw [List.length_tail]
    omega
  · refine iff_of_false ?_ hlong
    rw [h.length_datagrams, h.payloadsOf_short (not_lt.mp hlong)]
    exact lt_irrefl 1

theorem Sent.count_eq (h : Sent push) (hmany : 1 < push.datagrams.length) :
    push.datagrams.length = push.count :=
  h.length_of_long (h.one_lt_iff.mp hmany)

theorem Sent.length_pos (h : Sent push) : 0 < push.datagrams.length := by
  by_cases hmany : 1 < push.datagrams.length
  · omega
  · rw [h.one_lt_iff] at hmany
    rw [h.length_datagrams, h.payloadsOf_short (not_lt.mp hmany)]
    exact Nat.zero_lt_one

theorem Sent.packetHandler_fragment (h : Sent push) (hmany : 1 < push.datagrams.length)
    (hd : push.datagrams[k]? = some d) :
    packetHandler d = .ok (.modified (push.fragment k)) := by
  have hlong := h.one_lt_iff.mp hmany
  rw [h.getElem?_datagrams, Option.map_eq_some_iff] at hd
  obtain ⟨payload, hpayload, rfl⟩ := hd
  rw [packetHandler_datagram h.plain]
  rw [h.payloadsOf_long hlong] at hpayload
  rw [(getElem?_fuPayloads hpayload).2, ← h.length_datagrams, h.count_eq hmany]
  rfl

theorem Sent.packetHandler_single (h : Sent push) (hone : ¬ 1 < push.datagrams.length)
    (hd : push.datagrams[k]? = some d) : k = 0 ∧ SingleNal push.data ∧
      packetHandler d = .ok (.modified (sentFrame push.header 1 0 push.data)) := by
  have hshort := not_lt.mp (mt h.one_lt_iff.mpr hone)
  have hpayloads := h.payloadsOf_short hshort
  rw [h.getElem?_datagrams, Option.map_eq_some_iff] at hd
  obtain ⟨payload, hpayload, rfl⟩ := hd
  rw [packetHandler_datagram h.plain]
  rw [hpayloads] at hpayload ⊢
  match k, hpayload with
  | 0, hpayload =>
    cases hpayload
    exact ⟨rfl, h.single hshort, rfl⟩

/-! ## The fragments -/

def fragType (count k : Nat) : FragType :=
  if k + 1 = count then .last else if k = 0 then .start else .middle

def nalKind (nalHeader : UInt8) : NalKind :=
  if nalHeader &&& 0x1f = 5 then .intra else if nalHeader &&& 0x1f = 1 then .inter else .other

def Push.kind (push : Push) : NalKind :=
  nalKind (push.data.headD 0)

theorem fuHeader_type (nalHeader : UInt8) (count k : Nat) :
    fuHeader (nalType nalHeader) count k &&& 0x1f = nalHeader &&& 0x1f := by
  have hall : ∀ b : UInt8, fuStart (nalType b) &&& 0x1f = b &&& 0x1f ∧
      fuMiddle (nalType b) &&& 0x1f = b &&& 0x1f ∧ fuEnd (nalType b) &&& 0x1f = b &&& 0x1f := by
    apply forall_byte
    decide +kernel
  obtain ⟨hstart, hmiddle, hend⟩ := hall nalHeader
  rw [fuHeader]
  split
  · exact hend
  · split
    · exact hstart
    · exact hmiddle

theorem getFragmentType_fragment (hcount : 1 < push.count) (k : Nat) :
    getFragmentType (push.fragment k).payload = .ok (fragType push.count k) := by
  obtain ⟨hstart, hend⟩ := fuHeader_bits (push.data.headD 0) hcount k
  have htype := fuIndicator_type (push.data.headD 0)
  change getFragmentType (fuIndicator _ :: fuHeader _ push.count k :: _) = _
  rw [getFragmentType, htype, if_neg (by decide), if_neg (by decide), if_neg (by decide), fragType]
  by_cases hlast : k + 1 = push.count
  · have hfirst := mt hstart.mp (show k ≠ 0 by omega)
    rw [if_neg fun h => hfirst h.1, if_neg hfirst, if_pos (hend.mpr hlast), if_pos hlast]
  · rw [if_neg fun h => hlast (hend.mp h.2), if_neg hlast]
    by_cases hfirst : k = 0
    · rw [if_pos (hstart.mpr hfirst), if_pos hfirst]
    · rw [if_neg (mt hstart.mp hfirst), if_neg (mt hend.mp hlast), if_neg hfirst]

theorem getNalType_fragment (push : Push) (k : Nat) :
    getNalType (push.fragment k).payload = push.kind := by
  have htype := fuHeader_type (push.data.headD 0) push.count k
  change (if fuHeader _ push.count k &&& 0x1f = 5 then NalKind.intra
    else if fuHeader _ push.count k &&& 0x1f = 1 then .inter else .other) = _
  rw [htype]
  rfl

theorem nalHeaderFromFuHeaders_fragment (push : Push) (k : Nat) :
    nalHeaderFromFuHeaders (push.fragment k).payload = push.data.headD 0 :=
  nalHeader_of_fu (push.data.headD 0) push.count k

/-! ## The entry of a frame -/

/-- The fragments of `K` have come, and no others. -/
structure Pending (push : Push) (K : Finset Nat) (fragments : UInt16 → Option Frame)
    (info : H26xInfo) : Prop where
  lt : ∀ k ∈ K, k < push.count
  nalType : info.nalType = push.kind
  seqs : info.receivedPacketSeqs = K.image push.seqAt
  startReceived : info.startReceived = true ↔ 0 ∈ K
  sSeq : 0 ∈ K → info.sSeq = push.seqAt 0
  endReceived : info.endReceived = true ↔ push.count - 1 ∈ K
  eSeq : push.count - 1 ∈ K → info.eSeq = push.seqAt (push.count - 1)
  totalSize : info.totalSize = K.sum fun k => (push.piece k).length
  slots : ∀ k ∈ K, fragments (push.seqAt k) = some (push.fragment k)

theorem pending_newInfo (push : Push) (fragments : UInt16 → Option Frame) (now : Nat) :
    Pending push ∅ fragments (newInfo push.kind now) where
  lt k hk := absurd hk (Finset.notMem_empty k)
  nalType := rfl
  seqs := rfl
  startReceived := iff_of_false Bool.false_ne_true (Finset.notMem_empty 0)
  sSeq h := absurd h (Finset.notMem_empty 0)
  endReceived := iff_of_false Bool.false_ne_true (Finset.notMem_empty _)
  eSeq h := absurd h (Finset.notMem_empty _)
  totalSize := rfl
  slots k hk := absurd hk (Finset.notMem_empty k)

variable {K : Finset Nat} {fragments : UInt16 → Option Frame} {info : H26xInfo}

theorem Push.seqAt_inj (hfew : push.count ≤ maxMsgCount) {j k : Nat} (hj : j < push.count)
    (hk : k < push.count) : push.seqAt j = push.seqAt k ↔ j = k := by
  rw [maxMsgCount] at hfew
  exact after_inj (by omega) (by omega)

theorem Pending.mem_iff (h : Pending push K fragments info) (hfew : push.count ≤ maxMsgCount)
    (hk : k < push.count) : push.seqAt k ∈ info.receivedPacketSeqs ↔ k ∈ K := by
  rw [h.seqs, Finset.mem_image]
  constructor
  · rintro ⟨j, hj, heq⟩
    rwa [(Push.seqAt_inj hfew (h.lt j hj) hk).mp heq] at hj
  · exact fun hin => ⟨k, hin, rfl⟩

theorem Pending.congr (h : Pending push K fragments info) {fragments' : UInt16 → Option Frame}
    (hsame : ∀ seq ∈ info.receivedPacketSeqs, fragments' seq = fragments seq) :
    Pending push K fragments' info where
  lt := h.lt
  nalType := h.nalType
  seqs := h.seqs
  startReceived := h.startReceived
  sSeq := h.sSeq
  endReceived := h.endReceived
  eSeq := h.eSeq
  totalSize := h.totalSize
  slots k hk := by
    rw [hsame _ (h.seqs ▸ Finset.mem_image_of_mem _ hk)]
    exact h.slots k hk

/-- The entry after one more fragment. -/
theorem Pending.receive (h : Pending push K fragments info) (hfew : push.count ≤ maxMsgCount)
    (hcount : 1 < push.count) (hk : k < push.count) (hnew : k ∉ K) :
    Pending push (insert k K) (Function.update fragments (push.seqAt k) (some (push.fragment k)))
      (info.received (fragType push.count k) (push.seqAt k)
        ((push.fragment k).payload.length - 2)) := by
  have hslots : ∀ j ∈ insert k K,
      Function.update fragments (push.seqAt k) (some (push.fragment k)) (push.seqAt j) =
        some (push.fragment j) := by
    intro j hj
    by_cases hjk : j = k
    · rw [hjk, Function.update_self]
    · have hj := Finset.mem_of_mem_insert_of_ne hj hjk
      rw [Function.update_of_ne fun heq => hjk ((Push.seqAt_inj hfew (h.lt j hj) hk).mp heq)]
      exact h.slots j hj
  have hlt : ∀ j ∈ insert k K, j < push.count := by
    intro j hj
    rcases Finset.mem_insert.mp hj with rfl | hj
    · exact hk
    · exact h.lt j hj
  have hseqs : insert (push.seqAt k) info.receivedPacketSeqs = (insert k K).image push.seqAt := by
    rw [h.seqs, Finset.image_insert]
  have htotal : info.totalSize + ((push.fragment k).payload.length - 2) =
      (insert k K).sum fun j => (push.piece j).length := by
    rw [Finset.sum_insert hnew, h.totalSize, Nat.add_comm]
    rfl
  -- The kinds of fragments differ in the marks they leave.
  rw [fragType]
  by_cases hlast : k + 1 = push.count
  · have hzero : 0 ∈ insert k K ↔ 0 ∈ K := by
      rw [Finset.mem_insert]
      exact or_iff_right (by omega)
    rw [if_pos hlast]
    refine ⟨hlt, h.nalType, hseqs, ?_, ?_, ?_, ?_, htotal, hslots⟩
    · exact h.startReceived.trans hzero.symm
    · exact fun hin => h.sSeq (hzero.mp hin)
    · exact iff_of_true rfl (Finset.mem_insert.mpr (.inl (by omega)))
    · exact fun _ => congrArg push.seqAt (by omega)
  rw [if_neg hlast]
  have hend : push.count - 1 ∈ insert k K ↔ push.count - 1 ∈ K := by
    rw [Finset.mem_insert]
    exact or_iff_right (by omega)
  by_cases hfirst : k = 0
  · rw [if_pos hfirst]
    refine ⟨hlt, h.nalType, hseqs, ?_, ?_, ?_, ?_, htotal, hslots⟩
    · exact iff_of_true rfl (Finset.mem_insert.mpr (.inl hfirst.symm))
    · exact fun _ => congrArg push.seqAt hfirst
    · exact h.endReceived.trans hend.symm
    · exact fun hin => h.eSeq (hend.mp hin)
  · have hzero : 0 ∈ insert k K ↔ 0 ∈ K := by
      rw [Finset.mem_insert]
      exact or_iff_right (by omega)
    rw [if_neg hfirst]
    refine ⟨hlt, h.nalType, hseqs, ?_, ?_, ?_, ?_, htotal, hslots⟩
    · exact h.startReceived.trans hzero.symm
    · exact fun hin => h.sSeq (hzero.mp hin)
    · exact h.endReceived.trans hend.symm
    · exact fun hin => h.eSeq (hend.mp hin)

/-! ## The last fragment -/

theorem Pending.card_eq (h : Pending push K fragments info) (hfew : push.count ≤ maxMsgCount) :
    info.receivedPacketSeqs.card = K.card := by
  rw [h.seqs]
  refine Finset.card_image_of_injOn fun j hj k hk heq => ?_
  exact (Push.seqAt_inj hfew (h.lt j hj) (h.lt k hk)).mp heq

theorem Pending.expectedFus_eq (h : Pending push K fragments info)
    (hfew : push.count ≤ maxMsgCount) (hcount : 1 < push.count) (hfirst : 0 ∈ K)
    (hlast : push.count - 1 ∈ K) : info.expectedFus = push.count := by
  have hlt := push.header.seq.toNat_lt
  rw [maxMsgCount] at hfew
  rw [H26xInfo.expectedFus, h.sSeq hfirst, h.eSeq hlast, Push.seqAt, Push.seqAt, toNat_after,
    toNat_after]
  split <;> omega

/-- The receiver finds a frame complete when all its fragments have come. -/
theorem Pending.complete_iff (h : Pending push K fragments info) (hfew : push.count ≤ maxMsgCount)
    (hcount : 1 < push.count) :
    (info.startReceived ∧ info.endReceived ∧ info.expectedFus = info.receivedPacketSeqs.card) ↔
      K = Finset.range push.count := by
  rw [h.startReceived, h.endReceived, h.card_eq hfew]
  constructor
  · rintro ⟨hfirst, hlast, hcard⟩
    rw [h.expectedFus_eq hfew hcount hfirst hlast] at hcard
    refine Finset.eq_of_subset_of_card_le (fun k hk => Finset.mem_range.mpr (h.lt k hk)) ?_
    rw [Finset.card_range, hcard]
  · intro hK
    have hfirst : 0 ∈ K := by
      rw [hK, Finset.mem_range]
      omega
    have hlast : push.count - 1 ∈ K := by
      rw [hK, Finset.mem_range]
      omega
    refine ⟨hfirst, hlast, ?_⟩
    rw [h.expectedFus_eq hfew hcount hfirst hlast, hK, Finset.card_range]

theorem length_flatMap_range (f : Nat → List UInt8) (n : Nat) :
    ((List.range n).flatMap f).length = (Finset.range n).sum fun k => (f k).length := by
  induction n with
  | zero => rfl
  | succ n ih =>
    rw [List.range_succ, List.flatMap_append, List.length_append, ih, Finset.sum_range_succ,
      List.flatMap_singleton]

theorem Sent.flatMap_piece (h : Sent push) :
    (List.range push.count).flatMap push.piece = push.data.tail := by
  rw [List.flatMap_def]
  exact flatten_chunks h.fuPayloadSize_pos push.data.tail

theorem Pending.upTo_eq (h : Pending push (Finset.range push.count) fragments info)
    (hfew : push.count ≤ maxMsgCount) (hcount : 1 < push.count) :
    upTo info.sSeq (info.eSeq + 1) = (List.range push.count).map push.seqAt := by
  rw [h.sSeq (Finset.mem_range.mpr (by omega)), h.eSeq (Finset.mem_range.mpr (by omega)),
    Push.seqAt, Push.seqAt, after_zero, ← after_succ, Nat.sub_add_cancel (by omega)]
  rw [maxMsgCount] at hfew
  exact upTo_after _ (by omega)

/-- All fragments are there: they are copied out and their places are free again. -/
theorem Pending.copyFragments_eq (h : Pending push (Finset.range push.count) fragments info)
    (hsent : Sent push) (hfew : push.count ≤ maxMsgCount) (hcount : 1 < push.count) :
    copyFragments fragments info.totalSize (upTo info.sSeq (info.eSeq + 1)) =
      .ok (fun seq => if seq ∈ info.receivedPacketSeqs then none else fragments seq,
        some push.data.tail) := by
  let piece := fun seq => ((fragments seq).map fun f => f.payload.drop 2).getD []
  have hslot : ∀ k ∈ List.range push.count,
      fragments (push.seqAt k) = some (push.fragment k) :=
    fun k hk => h.slots k (Finset.mem_range.mpr (List.mem_range.mp hk))
  have hcopied : ((List.range push.count).map push.seqAt).flatMap piece = push.data.tail := by
    rw [← hsent.flatMap_piece, List.flatMap_map]
    refine List.flatMap_congr fun k hk => ?_
    simp only [piece, hslot k hk]
    rfl
  have hroom : push.data.tail.length = info.totalSize := by
    rw [← hsent.flatMap_piece, length_flatMap_range, h.totalSize]
  have hnodup : ((List.range push.count).map push.seqAt).Nodup := by
    refine List.nodup_range.map_on fun j hj k hk heq => ?_
    exact (Push.seqAt_inj hfew (List.mem_range.mp hj) (List.mem_range.mp hk)).mp heq
  rw [h.upTo_eq hfew hcount, Uvgrtp.copyFragments_eq hnodup piece]
  · rw [hcopied]
    refine congrArg Except.ok (Prod.ext (funext fun seq => ?_) rfl)
    have hmem : seq ∈ (List.range push.count).map push.seqAt ↔ seq ∈ info.receivedPacketSeqs := by
      rw [h.seqs, List.mem_map, Finset.mem_image]
      simp only [List.mem_range, Finset.mem_range]
    simp only [hmem]
  · intro seq hseq
    obtain ⟨k, hk, rfl⟩ := List.mem_map.mp hseq
    refine ⟨push.fragment k, hslot k hk, ?_⟩
    simp only [piece, hslot k hk]
    rfl
  · rw [hcopied, hroom]

/-- The frame put together is the NAL unit that was pushed. -/
theorem Pending.completeFrame_eq (h : Pending push (Finset.range push.count) fragments info)
    (hsent : Sent push) (cfg : Settings) (k : Nat) :
    (completeFrame cfg (push.fragment k) info.totalSize push.data.tail).payload =
      startCode cfg ++ push.data := by
  have hroom : info.totalSize = push.data.tail.length := by
    rw [← hsent.flatMap_piece, length_flatMap_range, h.totalSize]
  rw [completeFrame, nalHeaderFromFuHeaders_fragment, hroom, Nat.sub_self, List.replicate_zero,
    List.append_nil]
  match hd : push.data, hsent.data with
  | nalHeader :: rest, _ => rfl

end ConnectUdp.Uvgrtp
