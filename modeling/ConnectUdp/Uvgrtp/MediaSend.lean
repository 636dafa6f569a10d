import ConnectUdp.Uvgrtp.H264Send

/-!
# Sending a frame of any other format

`media::push_media_frame`, which sends the audio.  A frame is one packet whatever its size, unless
the stream was created with `RCE_FRAGMENT_GENERIC`: then it is cut into pieces that fill a packet.
-/

namespace ConnectUdp.Uvgrtp.MediaFormat

open RtpHeader SequenceNumber Chunks

-- `enqueue_message` with `set_m_bit`.
def enqueueMarked (r : Rtp) (t : Transaction) (message : List UInt8) :
    Except Fault (Rtp × Transaction) :=
  if t.packets.length < maxMsgCount then
    .ok (r.incSequence,
      { t with
        packets := t.packets ++ [({ r.updateRtpHeader t.rtpCommon with marker := 1 }, message)] })
  else .error .heapOverflow

/-- The loop over the pieces.  Every turn enqueues a packet, so that the headers run out after
`maxMsgCount` turns if the loop does not end before. -/
def fragmentFrame (payloadSize : Nat) :
    Nat → List UInt8 → Rtp → Transaction → Except Fault (Rtp × Transaction)
  | 0, _, _, _ => .error .heapOverflow
  | turns + 1, dataLeft, r, t =>
    if payloadSize < dataLeft.length then
      match enqueueMessage r t (dataLeft.take payloadSize) with
      | .error fault => .error fault
      | .ok (r, t) => fragmentFrame payloadSize turns (dataLeft.drop payloadSize) r t
    else enqueueMarked r t dataLeft

/-- The datagrams handed to the socket.  Nothing is sent for empty data. -/
def pushMediaFrame (fragmentGeneric : Bool) (r : Rtp) (now : Nat) (random : UInt32)
    (data : List UInt8) : Except Fault (Rtp × List (List UInt8)) :=
  if data = [] then .ok (r, [])
  else
    let (r, t) := initTransaction r now random
    let sent :=
      if fragmentGeneric then
        if data.length ≤ r.payloadSize.toNat then enqueueMarked r t data
        else fragmentFrame r.payloadSize.toNat (maxMsgCount + 1) data r t
      else enqueueMessage r t data
    sent.map flushed

/-! ## What a push enqueues -/

variable {common : Header} {payloads : List (List UInt8)} {r : Rtp} {t : Transaction}

theorem withMarker_append_singleton (packets : List (Header × List UInt8)) (h : Header)
    (payload : List UInt8) :
    withMarker (packets ++ [(h, payload)]) = packets ++ [({ h with marker := 1 }, payload)] := by
  induction packets with
  | nil => rfl
  | cons packet packets ih =>
    cases packets with
    | nil => rfl
    | cons next packets =>
      show packet :: withMarker (next :: packets ++ [(h, payload)]) = _
      rw [ih]
      rfl

theorem withMarker_withMarker (packets : List (Header × List UInt8)) :
    withMarker (withMarker packets) = withMarker packets := by
  rcases List.eq_nil_or_concat' packets with rfl | ⟨packets, ⟨h, payload⟩, rfl⟩
  · rfl
  · rw [withMarker_append_singleton, withMarker_append_singleton]

theorem enqueueMarked_eq (h : Enqueued common payloads r t) (payload : List UInt8) :
    enqueueMarked r t payload =
      if payloads.length < maxMsgCount then
        .ok ({ r with seq := r.seq + 1 },
          ⟨common, withMarker (numbered common (payloads ++ [payload]))⟩)
      else .error .heapOverflow := by
  have hlength : t.packets.length = payloads.length := by rw [h.packets, length_numbered]
  rw [enqueueMarked, hlength, Rtp.incSequence_eq, h.rtpCommon, h.packets,
    numbered_append_singleton, withMarker_append_singleton, Rtp.updateRtpHeader, h.seq]

variable {n : Nat}

/-- The loop enqueues the pieces of what is left, the last one with the marker. -/
theorem fragmentFrame_eq (hn : 0 < n) (turns : Nat) {dataLeft : List UInt8}
    (hdata : dataLeft ≠ []) {payloads : List (List UInt8)} {r : Rtp} {t : Transaction}
    (h : Enqueued common payloads r t) (hroom : payloads.length ≤ maxMsgCount)
    (hturns : maxMsgCount < payloads.length + turns) :
    fragmentFrame n turns dataLeft r t =
      if payloads.length + (chunks n dataLeft).length ≤ maxMsgCount then
        .ok ({ r with seq := after r.seq (chunks n dataLeft).length },
          ⟨common, withMarker (numbered common (payloads ++ chunks n dataLeft))⟩)
      else .error .heapOverflow := by
  induction turns generalizing dataLeft payloads r t with
  | zero => omega
  | succ turns ih =>
    rw [fragmentFrame]
    by_cases hmore : n < dataLeft.length
    · have hrest : dataLeft.drop n ≠ [] := by
        rw [← List.length_pos_iff, List.length_drop]
        omega
      rw [if_pos hmore, h.push, chunks_of_lt hn hmore, List.length_cons]
      by_cases hfull : payloads.length < maxMsgCount
      · have hlength : (payloads ++ [dataLeft.take n]).length = payloads.length + 1 :=
          List.length_append
        have hrec := ih hrest (h.next (dataLeft.take n)) (by omega) (by omega)
        rw [hlength, List.append_assoc, List.singleton_append] at hrec
        rw [if_pos hfull]
        dsimp only
        rw [hrec, after_of_succ, Nat.add_assoc, Nat.add_comm 1]
      · rw [if_neg hfull, if_neg (by omega)]
    · rw [if_neg hmore, enqueueMarked_eq h, chunks_of_le hdata (Nat.not_lt.mp hmore),
        List.length_singleton, after_succ, after_zero]
      rfl

/-! ## The datagrams of a push -/

def payloadsOf (fragmentGeneric : Bool) (payloadSize : UInt64) (data : List UInt8) :
    List (List UInt8) :=
  if fragmentGeneric then chunks payloadSize.toNat data else [data]

-- When fragmenting, a frame that fits in a packet is marked as well.
def packetHeader (fragmentGeneric : Bool) (common : Header) (count k : Nat) : Header :=
  { common with
    seq := after common.seq k
    marker := if fragmentGeneric = true ∧ k + 1 = count then 1 else common.marker }

def datagrams (fragmentGeneric : Bool) (common : Header) (payloads : List (List UInt8)) :
    List (List UInt8) :=
  payloads.zipIdx.map fun (payload, k) =>
    headerBytes (packetHeader fragmentGeneric common payloads.length k) ++ payload

theorem getElem?_datagrams (fragmentGeneric : Bool) (common : Header)
    (payloads : List (List UInt8)) (k : Nat) :
    (datagrams fragmentGeneric common payloads)[k]? = payloads[k]?.map fun payload =>
      headerBytes (packetHeader fragmentGeneric common payloads.length k) ++ payload := by
  rw [datagrams, List.getElem?_map, List.getElem?_zipIdx, Option.map_map, Nat.zero_add]
  rfl

theorem flushQueue_withMarker (common : Header) (payloads : List (List UInt8)) :
    flushQueue ⟨common, withMarker (numbered common payloads)⟩ =
      datagrams true common payloads := by
  have hflush : flushQueue ⟨common, withMarker (numbered common payloads)⟩ =
      (withMarker (numbered common payloads)).map
        fun packet => headerBytes packet.1 ++ packet.2 := by
    rw [flushQueue]
    split
    · rw [withMarker_withMarker]
    · rfl
  apply List.ext_getElem?
  intro k
  rw [hflush, getElem?_datagrams, List.getElem?_map, getElem?_withMarker, numbered,
    List.getElem?_map, List.getElem?_zipIdx, Option.map_map, Option.map_map, Option.map_map,
    Nat.zero_add, List.length_map, List.length_zipIdx]
  refine congrArg (Option.map · _) (funext fun payload => ?_)
  simp only [Function.comp_apply, packetHeader, true_and]
  by_cases hlast : k + 1 = payloads.length
  · rw [if_pos hlast, if_pos hlast]
  · rw [if_neg hlast, if_neg hlast]

theorem flushed_withMarker (r : Rtp) (common : Header) (payloads : List (List UInt8)) :
    flushed (r, ⟨common, withMarker (numbered common payloads)⟩) =
      (r, datagrams true common payloads) :=
  congrArg (Prod.mk r) (flushQueue_withMarker common payloads)

/-- What a push of nonempty data sends. -/
theorem pushMediaFrame_eq (fragmentGeneric : Bool) (r : Rtp) (now : Nat) (random : UInt32)
    {data : List UInt8} (hdata : data ≠ []) (hsize : 0 < r.payloadSize.toNat) :
    pushMediaFrame fragmentGeneric r now random data =
      let payloads := payloadsOf fragmentGeneric r.payloadSize data
      if payloads.length ≤ maxMsgCount then
        .ok ({ r.started now random with seq := after r.seq payloads.length },
          datagrams fragmentGeneric (pushHeader r now random) payloads)
      else .error .heapOverflow := by
  have hstart := enqueued_initTransaction r now random
  rw [← r.started_payloadSize now random] at hsize ⊢
  rw [← r.started_seq now random, pushMediaFrame, if_neg hdata]
  dsimp only
  cases fragmentGeneric with
  | false =>
    rw [if_neg Bool.false_ne_true, hstart.push, if_pos (by decide)]
    rfl
  | true =>
    rw [if_pos rfl, payloadsOf, if_pos rfl]
    change Except.map flushed (if data.length ≤ (r.started now random).payloadSize.toNat then _
      else fragmentFrame (r.started now random).payloadSize.toNat _ _ _ _) = _
    by_cases hfits : data.length ≤ (r.started now random).payloadSize.toNat
    · rw [if_pos hfits, enqueueMarked_eq hstart, chunks_of_le hdata hfits, if_pos (by decide)]
      exact congrArg Except.ok (flushed_withMarker _ _ _)
    · rw [if_neg hfits, fragmentFrame_eq hsize (maxMsgCount + 1) hdata hstart (Nat.zero_le _)
        (Nat.lt_succ_of_le (Nat.le_add_left _ _)), List.length_nil, Nat.zero_add, List.nil_append]
      split
      · exact congrArg Except.ok (flushed_withMarker _ _ _)
      · rfl

/-! ## What a receiver reads in the datagrams -/

def sentFrame (fragmentGeneric : Bool) (common : Header) (count k : Nat) (payload : List UInt8) :
    Frame :=
  ⟨packetHeader fragmentGeneric common count k, [], none, 0, payload⟩

/-- However much of the payload gets through, the header is read back. -/
theorem packetHandler_datagram (fragmentGeneric : Bool) {common : Header} (h : PlainHeader common)
    (count k : Nat) (payload : List UInt8) :
    Uvgrtp.packetHandler (headerBytes (packetHeader fragmentGeneric common count k) ++ payload) =
      .ok (.modified (sentFrame fragmentGeneric common count k payload)) := by
  have hmarker : (packetHeader fragmentGeneric common count k).marker.toNat < 2 := by
    rw [packetHeader]
    dsimp only
    split
    · decide
    · rw [h.marker]
      decide
  exact packetHandler_plain (h.fits hmarker) h.version h.padding h.ext h.cc payload

end ConnectUdp.Uvgrtp.MediaFormat
