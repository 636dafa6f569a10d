import ConnectUdp.Chunks
import ConnectUdp.SequenceNumber
import ConnectUdp.Uvgrtp.Rtp

/-!
# Sending a NAL unit

`h26x::push_media_frame` with `RTP_NO_H26X_SCL`: the data is one NAL unit.  It is sent as it is when
it fits in a packet and cut into fragmentation units otherwise.  `frame_queue` collects the packets
of one push and gives them their headers.
-/

namespace ConnectUdp.Uvgrtp

open NetworkOrder RtpHeader SequenceNumber Chunks

/-! ## The frame queue -/

def maxMsgCount : Nat := 5000

-- `rtphdr_ptr` is the number of packets; `rtp_headers` has room for `maxMsgCount` of them.
structure Transaction where
  rtpCommon : Header
  packets : List (Header × List UInt8)
  deriving DecidableEq, Repr

def initTransaction (r : Rtp) (now : Nat) (random : UInt32) : Rtp × Transaction :=
  ((r.fillHeader now random).1, ⟨(r.fillHeader now random).2, []⟩)

def enqueueMessage (r : Rtp) (t : Transaction) (message : List UInt8) :
    Except Fault (Rtp × Transaction) :=
  if t.packets.length < maxMsgCount then
    .ok (r.incSequence,
      { t with packets := t.packets ++ [(r.updateRtpHeader t.rtpCommon, message)] })
  else .error .heapOverflow

-- The marker bit of the last packet is set when there is more than one.
def withMarker : List (Header × List UInt8) → List (Header × List UInt8)
  | [] => []
  | [(h, payload)] => [({ h with marker := 1 }, payload)]
  | packet :: packets => packet :: withMarker packets

def flushQueue (t : Transaction) : List (List UInt8) :=
  let packets := if t.packets.length > 1 then withMarker t.packets else t.packets
  packets.map fun (h, payload) => headerBytes h ++ payload

/-! ## Fragmentation units -/

def pktFrag : UInt8 := 28

def fuIndicator (nalHeader : UInt8) : UInt8 := (nalHeader &&& 0xe0) ||| pktFrag

def nalType (nalHeader : UInt8) : UInt8 := nalHeader &&& 0x1f

def fuStart (nalType : UInt8) : UInt8 := 0x80 ||| nalType
def fuMiddle (nalType : UInt8) : UInt8 := nalType
def fuEnd (nalType : UInt8) : UInt8 := 0x40 ||| nalType

/-- `divide_frame_to_fus` once the NAL header is skipped.  Every turn of the loop enqueues a packet,
so that the headers run out after `maxMsgCount` turns if the loop does not end before. -/
def divideFrameToFus (fuPayloadSize : Nat) (indicator type : UInt8) :
    Nat → UInt8 → List UInt8 → Rtp → Transaction → Except Fault (Rtp × Transaction)
  | 0, _, _, _, _ => .error .heapOverflow
  | turns + 1, fuHeader, dataLeft, r, t =>
    if fuPayloadSize < dataLeft.length then
      match enqueueMessage r t (indicator :: fuHeader :: dataLeft.take fuPayloadSize) with
      | .error fault => .error fault
      | .ok (r, t) =>
        divideFrameToFus fuPayloadSize indicator type turns (fuMiddle type)
          (dataLeft.drop fuPayloadSize) r t
    else enqueueMessage r t (indicator :: fuEnd type :: dataLeft)

-- The payload header and the FU header come off the payload size, in `size_t`.
def fuPayloadSize (payloadSize : UInt64) : Nat :=
  (payloadSize - 1 - 1).toNat

def fuDivision (r : Rtp) (t : Transaction) (nalHeader : UInt8) (rest : List UInt8) :
    Except Fault (Rtp × Transaction) :=
  divideFrameToFus (fuPayloadSize r.payloadSize) (fuIndicator nalHeader) (nalType nalHeader)
    (maxMsgCount + 1) (fuStart (nalType nalHeader)) rest r t

def flushed (sent : Rtp × Transaction) : Rtp × List (List UInt8) :=
  (sent.1, flushQueue sent.2)

/-- The datagrams handed to the socket.  Nothing is sent for empty data. -/
def pushMediaFrame (r : Rtp) (now : Nat) (random : UInt32) :
    List UInt8 → Except Fault (Rtp × List (List UInt8))
  | [] => .ok (r, [])
  | nalHeader :: rest =>
    let (r, t) := initTransaction r now random
    let sent :=
      if (nalHeader :: rest).length ≤ r.payloadSize.toNat then
        enqueueMessage r t (nalHeader :: rest)
      else fuDivision r t nalHeader rest
    sent.map flushed

/-! ## What a push enqueues -/

-- The payloads, each with the shared header and a number of its own.
def numbered (common : Header) (payloads : List (List UInt8)) : List (Header × List UInt8) :=
  payloads.zipIdx.map fun (payload, k) => ({ common with seq := after common.seq k }, payload)

theorem numbered_append_singleton (common : Header) (payloads : List (List UInt8))
    (payload : List UInt8) : numbered common (payloads ++ [payload]) =
      numbered common payloads ++
        [({ common with seq := after common.seq payloads.length }, payload)] := by
  rw [numbered, numbered, List.zipIdx_append, List.map_append, Nat.zero_add]
  rfl

theorem length_numbered (common : Header) (payloads : List (List UInt8)) :
    (numbered common payloads).length = payloads.length := by
  rw [numbered, List.length_map, List.length_zipIdx]

-- Everything enqueued so far is `payloads`, numbered from `common.seq` on.
structure Enqueued (common : Header) (payloads : List (List UInt8)) (r : Rtp) (t : Transaction) :
    Prop where
  rtpCommon : t.rtpCommon = common
  packets : t.packets = numbered common payloads
  seq : r.seq = after common.seq payloads.length

variable {common : Header} {payloads : List (List UInt8)} {r r' : Rtp} {t t' : Transaction}

theorem enqueued_initTransaction (r : Rtp) (now : Nat) (random : UInt32) :
    Enqueued (r.fillHeader now random).2 [] (initTransaction r now random).1
      (initTransaction r now random).2 :=
  ⟨rfl, rfl, (after_zero _).symm⟩

theorem Enqueued.push (h : Enqueued common payloads r t) (payload : List UInt8) :
    enqueueMessage r t payload =
      if payloads.length < maxMsgCount then
        .ok ({ r with seq := r.seq + 1 }, ⟨common, numbered common (payloads ++ [payload])⟩)
      else .error .heapOverflow := by
  have hlength : t.packets.length = payloads.length := by rw [h.packets, length_numbered]
  rw [enqueueMessage, hlength, Rtp.incSequence_eq, h.rtpCommon, h.packets,
    numbered_append_singleton, Rtp.updateRtpHeader, h.seq]

theorem Enqueued.next (h : Enqueued common payloads r t) (payload : List UInt8) :
    Enqueued common (payloads ++ [payload]) { r with seq := r.seq + 1 }
      ⟨common, numbered common (payloads ++ [payload])⟩ := by
  refine ⟨rfl, rfl, ?_⟩
  rw [List.length_append, List.length_singleton, after_succ, h.seq]

/-! ## The loop over the fragments -/

-- The last fragment has the end bit, the first one the start bit.
def fuHeader (type : UInt8) (count k : Nat) : UInt8 :=
  if k + 1 = count then fuEnd type else if k = 0 then fuStart type else fuMiddle type

def fuPayload (n : Nat) (nalHeader : UInt8) (rest : List UInt8) (k : Nat) : List UInt8 :=
  fuIndicator nalHeader :: fuHeader (nalType nalHeader) (count n rest.length) k :: chunk n rest k

def fuPayloads (n : Nat) (nalHeader : UInt8) (rest : List UInt8) : List (List UInt8) :=
  (List.range (count n rest.length)).map (fuPayload n nalHeader rest)

variable {n : Nat}

theorem take_drop_eq_chunk (n : Nat) (l : List UInt8) (j : Nat) :
    (l.drop (j * n)).take n = chunk n l j := rfl

/-- The loop at fragment `j`, with `m` more to come after it. -/
theorem divideFrameToFus_eq (nalHeader : UInt8) (rest : List UInt8) (hn : 0 < n)
    (turns j m : Nat) {payloads : List (List UInt8)}
    {r : Rtp} {t : Transaction} (h : Enqueued common payloads r t)
    (hcount : count n rest.length = j + m + 1) (hroom : payloads.length ≤ maxMsgCount)
    (hturns : maxMsgCount < payloads.length + turns) :
    divideFrameToFus n (fuIndicator nalHeader) (nalType nalHeader) turns
        (if j = 0 then fuStart (nalType nalHeader) else fuMiddle (nalType nalHeader))
        (rest.drop (j * n)) r t =
      if payloads.length + (m + 1) ≤ maxMsgCount then
        .ok ({ r with seq := after r.seq (m + 1) }, ⟨common, numbered common
          (payloads ++ (List.range' j (m + 1)).map (fuPayload n nalHeader rest))⟩)
      else .error .heapOverflow := by
  induction turns generalizing j m payloads r t with
  | zero => omega
  | succ turns ih =>
    have hhere : j < count n rest.length := by omega
    have hleft : j * n < rest.length := (lt_count_iff hn).mp hhere
    rw [divideFrameToFus, List.length_drop]
    cases m with
    | zero =>
      -- The last fragment: what is left fits.
      have hlast : ¬ (j + 1) * n < rest.length := by
        rw [← lt_count_iff hn]
        omega
      have hle : rest.length - j * n ≤ n := by
        rw [Nat.add_mul, Nat.one_mul] at hlast
        omega
      have hchunk : rest.drop (j * n) = chunk n rest j := by
        rw [chunk, List.take_of_length_le (by rwa [List.length_drop])]
      have hheader : fuHeader (nalType nalHeader) (count n rest.length) j =
          fuEnd (nalType nalHeader) := if_pos (by omega)
      rw [if_neg (by omega), hchunk, h.push, Nat.zero_add, List.range'_one, List.map_singleton,
        fuPayload, hheader, after_succ, after_zero]
      rfl
    | succ m =>
      have hmore : (j + 1) * n < rest.length := (lt_count_iff hn).mp (by omega)
      have hlt : n < rest.length - j * n := by
        rw [Nat.add_mul, Nat.one_mul] at hmore
        omega
      have hheader : fuHeader (nalType nalHeader) (count n rest.length) j =
          if j = 0 then fuStart (nalType nalHeader) else fuMiddle (nalType nalHeader) :=
        if_neg (by omega)
      rw [if_pos hlt, take_drop_eq_chunk, ← hheader, ← fuPayload, h.push]
      by_cases hfull : payloads.length < maxMsgCount
      swap
      · rw [if_neg hfull, if_neg (by omega)]
      rw [if_pos hfull, List.drop_drop, ← Nat.succ_mul]
      have hlength : (payloads ++ [fuPayload n nalHeader rest j]).length = payloads.length + 1 :=
        List.length_append
      have hrec := ih (j + 1) m (h.next (fuPayload n nalHeader rest j)) (by omega) (by omega)
        (by omega)
      rw [if_neg (Nat.succ_ne_zero j), hlength] at hrec
      dsimp only
      rw [hrec, List.append_assoc, after_of_succ, List.range'_succ (n := m + 1)]
      simp only [Nat.add_assoc, Nat.add_comm 1 (m + 1), List.map_cons, List.singleton_append]

/-- Without room for a payload nothing is ever left out of the data, and the headers run out. -/
theorem divideFrameToFus_zero (indicator type : UInt8) (turns : Nat) (fuHeader : UInt8)
    {dataLeft : List UInt8} (hdata : dataLeft ≠ []) (r : Rtp) (t : Transaction)
    (hturns : maxMsgCount < t.packets.length + turns) :
    divideFrameToFus 0 indicator type turns fuHeader dataLeft r t = .error .heapOverflow := by
  induction turns generalizing fuHeader r t with
  | zero => rfl
  | succ turns ih =>
    rw [divideFrameToFus, if_pos (List.length_pos_iff.mpr hdata), enqueueMessage]
    by_cases hfull : t.packets.length < maxMsgCount
    · rw [if_pos hfull]
      apply ih
      rw [List.length_append, List.length_singleton]
      omega
    · rw [if_neg hfull]

/-! ## The datagrams of a push -/

theorem getElem?_withMarker (packets : List (Header × List UInt8)) (k : Nat) :
    (withMarker packets)[k]? = packets[k]?.map fun (h, payload) =>
      (if k + 1 = packets.length then { h with marker := 1 } else h, payload) := by
  induction packets generalizing k with
  | nil => rfl
  | cons packet packets ih =>
    cases packets with
    | nil =>
      cases k with
      | zero => rfl
      | succ k => rfl
    | cons next packets =>
      cases k with
      | zero => rfl
      | succ k =>
        rw [withMarker, List.getElem?_cons_succ, List.getElem?_cons_succ, ih]
        · simp only [List.length_cons, Nat.add_right_cancel_iff]
        · intro _ _ _ hnil
          cases hnil

def packetHeader (common : Header) (count k : Nat) : Header :=
  { common with
    seq := after common.seq k
    marker := if 1 < count ∧ k + 1 = count then 1 else common.marker }

def datagram (common : Header) (payloads : List (List UInt8)) (k : Nat) (payload : List UInt8) :
    List UInt8 :=
  headerBytes (packetHeader common payloads.length k) ++ payload

theorem getElem?_flushQueue (common : Header) (payloads : List (List UInt8)) (k : Nat) :
    (flushQueue ⟨common, numbered common payloads⟩)[k]? =
      payloads[k]?.map (datagram common payloads k) := by
  have hnumbered : (numbered common payloads)[k]? = payloads[k]?.map fun payload =>
      ({ common with seq := after common.seq k }, payload) := by
    rw [numbered, List.getElem?_map, List.getElem?_zipIdx, Option.map_map, Nat.zero_add]
    rfl
  rw [flushQueue, List.getElem?_map, length_numbered]
  by_cases hmany : 1 < payloads.length
  · rw [if_pos hmany, getElem?_withMarker, hnumbered, length_numbered, Option.map_map,
      Option.map_map]
    refine congrArg (Option.map · _) (funext fun payload => ?_)
    simp only [Function.comp_apply, datagram, packetHeader, hmany, true_and]
    by_cases hlast : k + 1 = payloads.length
    · rw [if_pos hlast, if_pos hlast]
    · rw [if_neg hlast, if_neg hlast]
  · rw [if_neg hmany, hnumbered, Option.map_map]
    refine congrArg (Option.map · _) (funext fun payload => ?_)
    simp only [Function.comp_apply, datagram, packetHeader, hmany, false_and, if_false]

/-- The payloads of the packets of a push. -/
def payloadsOf (payloadSize : UInt64) : List UInt8 → List (List UInt8)
  | [] => []
  | nalHeader :: rest =>
    if (nalHeader :: rest).length ≤ payloadSize.toNat then [nalHeader :: rest]
    else fuPayloads (fuPayloadSize payloadSize) nalHeader rest

def pushHeader (r : Rtp) (now : Nat) (random : UInt32) : Header :=
  (r.fillHeader now random).2

theorem length_fuPayloads (n : Nat) (nalHeader : UInt8) (rest : List UInt8) :
    (fuPayloads n nalHeader rest).length = count n rest.length := by
  rw [fuPayloads, List.length_map, List.length_range]

theorem fuDivision_eq (nalHeader : UInt8) {rest : List UInt8} (h : Enqueued common [] r t)
    (hn : 0 < fuPayloadSize r.payloadSize) (hrest : rest ≠ []) :
    fuDivision r t nalHeader rest =
      let payloads := fuPayloads (fuPayloadSize r.payloadSize) nalHeader rest
      if payloads.length ≤ maxMsgCount then
        .ok ({ r with seq := after r.seq payloads.length }, ⟨common, numbered common payloads⟩)
      else .error .heapOverflow := by
  have hpos : 0 < count (fuPayloadSize r.payloadSize) rest.length := by
    rw [lt_count_iff hn, Nat.zero_mul]
    exact List.length_pos_iff.mpr hrest
  obtain ⟨m, hm⟩ : ∃ m, count (fuPayloadSize r.payloadSize) rest.length = m + 1 :=
    ⟨_, (Nat.succ_pred_eq_of_pos hpos).symm⟩
  have hloop := divideFrameToFus_eq nalHeader rest hn (maxMsgCount + 1) 0 m h
    (by omega) (Nat.zero_le _) (by rw [List.length_nil]; omega)
  rw [if_pos rfl, Nat.zero_mul, List.drop_zero, List.length_nil, Nat.zero_add,
    List.nil_append, ← List.range_eq_range'] at hloop
  dsimp only
  rw [length_fuPayloads, fuDivision, hloop, fuPayloads, hm]

theorem fuPayloadSize_eq_zero_iff {payloadSize : UInt64} :
    fuPayloadSize payloadSize = 0 ↔ payloadSize = 2 := by
  have h := payloadSize.toNat_lt
  rw [fuPayloadSize, ← UInt64.toNat_inj, UInt64.toNat_sub, UInt64.toNat_sub,
    show UInt64.toNat 1 = 1 from rfl, show UInt64.toNat 2 = 2 from rfl]
  omega

theorem pushMediaFrame_of_fits (r : Rtp) (now : Nat) (random : UInt32) {nalHeader : UInt8}
    {rest : List UInt8} (hfits : (nalHeader :: rest).length ≤ r.payloadSize.toNat) :
    pushMediaFrame r now random (nalHeader :: rest) =
      (enqueueMessage (initTransaction r now random).1 (initTransaction r now random).2
        (nalHeader :: rest)).map flushed := by
  rw [← r.started_payloadSize now random] at hfits
  exact congrArg (Except.map flushed) (if_pos hfits)

theorem pushMediaFrame_of_not_fits (r : Rtp) (now : Nat) (random : UInt32) {nalHeader : UInt8}
    {rest : List UInt8} (hfits : ¬ (nalHeader :: rest).length ≤ r.payloadSize.toNat) :
    pushMediaFrame r now random (nalHeader :: rest) =
      (fuDivision (initTransaction r now random).1 (initTransaction r now random).2
        nalHeader rest).map flushed := by
  rw [← r.started_payloadSize now random] at hfits
  exact congrArg (Except.map flushed) (if_neg hfits)

/-- What a push of nonempty data sends. -/
theorem pushMediaFrame_eq (r : Rtp) (now : Nat) (random : UInt32) {data : List UInt8}
    (hdata : data ≠ []) (hzero : 0 < r.payloadSize.toNat)
    (htwo : r.payloadSize = 2 → data.length ≤ 2) :
    pushMediaFrame r now random data =
      let payloads := payloadsOf r.payloadSize data
      let common := pushHeader r now random
      if payloads.length ≤ maxMsgCount then
        .ok ({ r.started now random with seq := after r.seq payloads.length },
          flushQueue ⟨common, numbered common payloads⟩)
      else .error .heapOverflow := by
  match data, hdata with
  | nalHeader :: rest, _ =>
    have hstart := enqueued_initTransaction r now random
    by_cases hfits : (nalHeader :: rest).length ≤ r.payloadSize.toNat
    · rw [pushMediaFrame_of_fits r now random hfits, hstart.push]
      dsimp only
      rw [payloadsOf, if_pos hfits, List.length_nil, List.length_singleton, if_pos (by decide),
        if_pos (by decide), after_succ, after_zero, List.nil_append, ← r.started_seq now random]
      rfl
    · have hn : 0 < fuPayloadSize r.payloadSize := by
        apply Nat.pos_of_ne_zero
        intro hn
        have h2 := fuPayloadSize_eq_zero_iff.mp hn
        apply hfits
        rw [h2]
        exact htwo h2
      have hrest : rest ≠ [] := by
        rintro rfl
        exact hfits hzero
      have hdivide := fuDivision_eq nalHeader hstart
        (Nat.lt_of_lt_of_eq hn (congrArg _ (r.started_payloadSize now random).symm)) hrest
      rw [pushMediaFrame_of_not_fits r now random hfits, hdivide]
      dsimp only
      rw [payloadsOf, if_neg hfits, ← r.started_payloadSize now random,
        ← r.started_seq now random]
      exact apply_ite (Except.map flushed) _ _ _

/-- A push writes behind the array of headers on exactly the data that needs more than
`maxMsgCount` fragments; a payload size of two leaves no room for a fragment at all. -/
theorem pushMediaFrame_faults_iff (r : Rtp) (now : Nat) (random : UInt32) (data : List UInt8)
    (hzero : 0 < r.payloadSize.toNat) :
    (∃ fault, pushMediaFrame r now random data = .error fault) ↔
      r.payloadSize.toNat < data.length ∧
        maxMsgCount * fuPayloadSize r.payloadSize + 1 < data.length := by
  match data with
  | [] =>
    exact iff_of_false (by rintro ⟨_, h⟩; cases h) fun h => absurd h.1 (Nat.not_lt_zero _)
  | nalHeader :: rest =>
    by_cases hfits : (nalHeader :: rest).length ≤ r.payloadSize.toNat
    · rw [pushMediaFrame_eq r now random (List.cons_ne_nil _ _) hzero]
      · dsimp only
        rw [payloadsOf, if_pos hfits, List.length_singleton, if_pos (by decide)]
        exact iff_of_false (by rintro ⟨_, h⟩; cases h) fun h => absurd h.1 (not_lt.mpr hfits)
      · intro h2
        rw [h2] at hfits
        exact hfits
    by_cases htwo : r.payloadSize = 2
    · have hn := fuPayloadSize_eq_zero_iff.mpr htwo
      have hrest : rest ≠ [] := by
        rintro rfl
        exact hfits hzero
      have hnever : fuDivision (initTransaction r now random).1 (initTransaction r now random).2
          nalHeader rest = .error .heapOverflow := by
        rw [fuDivision, show (initTransaction r now random).1.payloadSize = r.payloadSize from
          r.started_payloadSize now random, hn]
        exact divideFrameToFus_zero _ _ _ _ hrest _ _ (Nat.lt_add_left _ (Nat.lt_succ_self _))
      refine iff_of_true ⟨.heapOverflow, ?_⟩ ⟨not_le.mp hfits, ?_⟩
      · rw [pushMediaFrame_of_not_fits r now random hfits, hnever]
        rfl
      · rw [hn]
        have := not_le.mp hfits
        omega
    · have hn : 0 < fuPayloadSize r.payloadSize :=
        Nat.pos_of_ne_zero fun h => htwo (fuPayloadSize_eq_zero_iff.mp h)
      rw [pushMediaFrame_eq r now random (List.cons_ne_nil _ _) hzero fun h => absurd h htwo]
      dsimp only
      rw [payloadsOf, if_neg hfits, length_fuPayloads]
      have hcount : maxMsgCount < count _ rest.length ↔ _ := lt_count_iff hn
      rw [List.length_cons] at hfits ⊢
      by_cases hmany : count (fuPayloadSize r.payloadSize) rest.length ≤ maxMsgCount
      · rw [if_pos hmany]
        exact iff_of_false (by rintro ⟨_, h⟩; cases h) (by omega)
      · rw [if_neg hmany]
        exact iff_of_true ⟨_, rfl⟩ (by omega)

theorem pushMediaFrame_faults_iff_mtu_42 : ∃ fault,
    pushMediaFrame ⟨7, 1000, 65534, 96, 90000, 0, invalidTs, 2⟩ 100 9 [0x65, 1, 2] =
      .error fault :=
  (pushMediaFrame_faults_iff _ 100 9 [0x65, 1, 2] (by decide)).mpr ⟨by decide, by decide⟩

/-! ## What a receiver reads in the datagrams -/

def sentFrame (common : Header) (count k : Nat) (payload : List UInt8) : Frame :=
  ⟨packetHeader common count k, [], none, 0, payload⟩

-- What is fixed in the headers this sender writes.
structure PlainHeader (h : Header) : Prop where
  version : h.version = 2
  padding : h.padding = 0
  ext : h.ext = 0
  cc : h.cc = 0
  marker : h.marker = 0
  payload : h.payload.toNat < 128

theorem plain_pushHeader (r : Rtp) (now : Nat) (random : UInt32) :
    PlainHeader (pushHeader r now random) :=
  ⟨rfl, rfl, rfl, rfl, rfl, (fits_of_secondByte (r.started now random).payload).2⟩

theorem PlainHeader.fits {h : Header} (hp : PlainHeader h) {marker : UInt8}
    (hmarker : marker.toNat < 2) {seq : UInt16} :
    Header.Fits { h with marker := marker, seq := seq } := by
  refine ⟨?_, ?_, ?_, ?_, hmarker, hp.payload⟩
  · show h.version.toNat < 4
    rw [hp.version]
    decide
  · show h.padding.toNat < 2
    rw [hp.padding]
    decide
  · show h.ext.toNat < 2
    rw [hp.ext]
    decide
  · show h.cc.toNat < 16
    rw [hp.cc]
    decide

/-- A datagram of a push is read back with the header and the payload it was sent with. -/
theorem packetHandler_datagram {common : Header} (h : PlainHeader common)
    (payloads : List (List UInt8)) (k : Nat) (payload : List UInt8) :
    packetHandler (datagram common payloads k payload) =
      .ok (.modified (sentFrame common payloads.length k payload)) := by
  have hmarker : (packetHeader common payloads.length k).marker.toNat < 2 := by
    simp only [packetHeader, h.marker]
    by_cases hlast : 1 < payloads.length ∧ k + 1 = payloads.length
    · rw [if_pos hlast]
      decide
    · rw [if_neg hlast]
      decide
  exact packetHandler_plain (h.fits hmarker) h.version h.padding h.ext h.cc payload

theorem fuIndicator_type (nalHeader : UInt8) : fuIndicator nalHeader &&& 0x1f = pktFrag := by
  revert nalHeader
  apply forall_byte
  decide +kernel

theorem nalHeader_of_fu (nalHeader : UInt8) (count k : Nat) :
    (fuIndicator nalHeader &&& 0xe0) ||| (fuHeader (nalType nalHeader) count k &&& 0x1f) =
      nalHeader := by
  have hall : ∀ b : UInt8, (fuIndicator b &&& 0xe0) ||| (fuStart (nalType b) &&& 0x1f) = b ∧
      (fuIndicator b &&& 0xe0) ||| (fuMiddle (nalType b) &&& 0x1f) = b ∧
      (fuIndicator b &&& 0xe0) ||| (fuEnd (nalType b) &&& 0x1f) = b := by
    apply forall_byte
    decide +kernel
  obtain ⟨hstart, hmiddle, hend⟩ := hall nalHeader
  rw [fuHeader]
  split
  · exact hend
  · split
    · exact hstart
    · exact hmiddle

theorem fuHeader_bits (nalHeader : UInt8) {count : Nat} (hcount : 1 < count) (k : Nat) :
    (fuHeader (nalType nalHeader) count k &&& 0x80 ≠ 0 ↔ k = 0) ∧
      (fuHeader (nalType nalHeader) count k &&& 0x40 ≠ 0 ↔ k + 1 = count) := by
  have hall : ∀ b : UInt8, (fuStart (nalType b) &&& 0x80 ≠ 0 ∧ fuStart (nalType b) &&& 0x40 = 0) ∧
      (fuMiddle (nalType b) &&& 0x80 = 0 ∧ fuMiddle (nalType b) &&& 0x40 = 0) ∧
      (fuEnd (nalType b) &&& 0x80 = 0 ∧ fuEnd (nalType b) &&& 0x40 ≠ 0) := by
    apply forall_byte
    decide +kernel
  obtain ⟨hstart, hmiddle, hend⟩ := hall nalHeader
  rw [fuHeader]
  by_cases hlast : k + 1 = count
  · rw [if_pos hlast]
    exact ⟨iff_of_false (not_not.mpr hend.1) (by omega), iff_of_true hend.2 hlast⟩
  rw [if_neg hlast]
  by_cases hfirst : k = 0
  · rw [if_pos hfirst]
    exact ⟨iff_of_true hstart.1 hfirst, iff_of_false (not_not.mpr hstart.2) hlast⟩
  · rw [if_neg hfirst]
    exact ⟨iff_of_false (not_not.mpr hmiddle.1) hfirst, iff_of_false (not_not.mpr hmiddle.2) hlast⟩

theorem length_flushQueue (common : Header) (payloads : List (List UInt8)) :
    (flushQueue ⟨common, numbered common payloads⟩).length = payloads.length := by
  apply le_antisymm
  · apply List.getElem?_eq_none_iff.mp
    rw [getElem?_flushQueue, List.getElem?_eq_none le_rfl]
    rfl
  · apply List.getElem?_eq_none_iff.mp
    have hnone := List.getElem?_eq_none (l := flushQueue ⟨common, numbered common payloads⟩) le_rfl
    rw [getElem?_flushQueue, Option.map_eq_none_iff] at hnone
    exact hnone

theorem getElem?_fuPayloads {nalHeader : UInt8} {rest : List UInt8} {k : Nat} {payload : List UInt8}
    (h : (fuPayloads n nalHeader rest)[k]? = some payload) :
    k < count n rest.length ∧ payload = fuPayload n nalHeader rest k := by
  rw [fuPayloads, List.getElem?_map, Option.map_eq_some_iff] at h
  obtain ⟨j, hj, rfl⟩ := h
  obtain ⟨hlt, hget⟩ := List.getElem?_eq_some_iff.mp hj
  rw [List.getElem_range] at hget
  rw [List.length_range] at hlt
  exact ⟨hlt, by rw [hget]⟩

-- The frames read from the datagrams of one push of a NAL unit that does not fit in a packet.
structure Fragments (common : Header) (payloadSize : Nat) (nalHeader : UInt8) (rest : List UInt8)
    (frames : List Frame) : Prop where
  several : 1 < frames.length
  content : frames.flatMap (fun f => f.payload.drop 2) = rest
  fragment : ∀ k f, frames[k]? = some f →
    f.header = packetHeader common frames.length k ∧
    ∃ indicator fuHeader chunk, f.payload = indicator :: fuHeader :: chunk ∧
      chunk ≠ [] ∧ f.payload.length ≤ payloadSize ∧
      indicator &&& 0x1f = pktFrag ∧
      (indicator &&& 0xe0) ||| (fuHeader &&& 0x1f) = nalHeader ∧
      (fuHeader &&& 0x80 ≠ 0 ↔ k = 0) ∧ (fuHeader &&& 0x40 ≠ 0 ↔ k + 1 = frames.length)

def fuFrames (common : Header) (n : Nat) (nalHeader : UInt8) (rest : List UInt8) : List Frame :=
  (List.range (count n rest.length)).map fun k =>
    sentFrame common (count n rest.length) k (fuPayload n nalHeader rest k)

theorem fragments_fuFrames (common : Header) {payloadSize : UInt64} (hsize : 3 ≤ payloadSize.toNat)
    (nalHeader : UInt8) {rest : List UInt8}
    (hlong : payloadSize.toNat < (nalHeader :: rest).length) :
    Fragments common payloadSize.toNat nalHeader rest
      (fuFrames common (fuPayloadSize payloadSize) nalHeader rest) := by
  have hn : fuPayloadSize payloadSize + 2 = payloadSize.toNat := by
    rw [fuPayloadSize, UInt64.toNat_sub, UInt64.toNat_sub, show UInt64.toNat 1 = 1 from rfl]
    have := payloadSize.toNat_lt
    omega
  rw [List.length_cons] at hlong
  have hpos : 0 < fuPayloadSize payloadSize := by omega
  have hcount : 1 < count (fuPayloadSize payloadSize) rest.length := one_lt_count hpos (by omega)
  have hlength : (fuFrames common (fuPayloadSize payloadSize) nalHeader rest).length =
      count (fuPayloadSize payloadSize) rest.length := by
    rw [fuFrames, List.length_map, List.length_range]
  rw [← hlength] at hcount
  refine ⟨hcount, ?_, ?_⟩
  · rw [fuFrames, List.flatMap_map, List.flatMap_def]
    exact flatten_chunks hpos rest
  · intro k f hf
    rw [fuFrames, List.getElem?_map, Option.map_eq_some_iff] at hf
    obtain ⟨j, hj, rfl⟩ := hf
    obtain ⟨hlt, hget⟩ := List.getElem?_eq_some_iff.mp hj
    rw [List.getElem_range] at hget
    rw [List.length_range] at hlt
    subst hget
    have hbits := fuHeader_bits nalHeader hcount k
    rw [hlength] at hbits ⊢
    refine ⟨rfl, _, _, _, rfl, ?_, ?_, fuIndicator_type nalHeader, nalHeader_of_fu nalHeader _ k,
      hbits⟩
    · exact List.length_pos_iff.mp (length_chunk_pos hpos hlt)
    · have := length_chunk_le (fuPayloadSize payloadSize) rest k
      change (chunk (fuPayloadSize payloadSize) rest k).length + 1 + 1 ≤ _
      omega

/-- A push of a NAL unit that does not fit in a packet hands the socket its fragments in order. -/
theorem pushMediaFrame_fragments {r r' : Rtp} {now : Nat} {random : UInt32} {nalHeader : UInt8}
    {rest : List UInt8} {sent : List (List UInt8)} (hsize : 3 ≤ r.payloadSize.toNat)
    (hlong : r.payloadSize.toNat < (nalHeader :: rest).length)
    (hok : pushMediaFrame r now random (nalHeader :: rest) = .ok (r', sent)) :
    r'.seq = after r.seq sent.length ∧ ∃ frames,
      sent.map packetHandler = frames.map (fun f => .ok (.modified f)) ∧
      Fragments (pushHeader r now random) r.payloadSize.toNat nalHeader rest frames := by
  have htwo : r.payloadSize = 2 → (nalHeader :: rest).length ≤ 2 := by
    intro h
    rw [h] at hsize
    exact absurd hsize (by decide)
  rw [pushMediaFrame_eq r now random (List.cons_ne_nil _ _) (by omega) htwo] at hok
  dsimp only at hok
  rw [payloadsOf, if_neg (not_le.mpr hlong)] at hok
  split at hok
  swap
  · cases hok
  cases hok
  refine ⟨by rw [length_flushQueue], fuFrames (pushHeader r now random)
    (fuPayloadSize r.payloadSize) nalHeader rest, ?_, fragments_fuFrames _ hsize nalHeader hlong⟩
  apply List.ext_getElem?
  intro k
  rw [List.getElem?_map, getElem?_flushQueue, Option.map_map, fuPayloads, List.getElem?_map,
    Option.map_map, List.getElem?_map, fuFrames, List.getElem?_map, Option.map_map]
  by_cases hk : k < count (fuPayloadSize r.payloadSize) rest.length
  · rw [List.getElem?_range hk]
    refine congrArg some ((packetHandler_datagram (plain_pushHeader r now random) _ k _).trans ?_)
    rw [List.length_map, List.length_range]
    rfl
  · rw [List.getElem?_eq_none (by rw [List.length_range]; omega)]
    rfl

theorem pushMediaFrame_fragments_seven_bytes :
    ∃ r' sent, pushMediaFrame ⟨7, 1000, 65534, 96, 90000, 0, invalidTs, 4⟩ 100 9
        [0x65, 1, 2, 3, 4, 5, 6] = .ok (r', sent) ∧ sent.length = 3 ∧ r'.seq = 1 ∧
      ∃ frames, sent.map packetHandler = frames.map (fun f => .ok (.modified f)) ∧
        Fragments (pushHeader ⟨7, 1000, 65534, 96, 90000, 0, invalidTs, 4⟩ 100 9) 4 0x65
          [1, 2, 3, 4, 5, 6] frames := by
  have hrun : (pushMediaFrame ⟨7, 1000, 65534, 96, 90000, 0, invalidTs, 4⟩ 100 9
      [0x65, 1, 2, 3, 4, 5, 6]).map (fun pushed => pushed.2.length) = .ok 3 := by
    decide +kernel
  obtain ⟨⟨r', sent⟩, hok, hlength⟩ := map_eq_ok hrun
  obtain ⟨hseq, hframes⟩ := pushMediaFrame_fragments (by decide) (by decide) hok
  dsimp only at hlength
  rw [hlength] at hseq
  exact ⟨r', sent, hok, hlength, hseq, hframes⟩

end ConnectUdp.Uvgrtp
