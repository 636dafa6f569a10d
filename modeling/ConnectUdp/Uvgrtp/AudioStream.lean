import ConnectUdp.Uvgrtp.MediaReceive

/-!
# From the Opus encoder to the Opus decoder

`encodeAudioData` pushes what `opus_encode` has written, `receiveAndDecodeAudioData` pulls a frame
and hands its payload to `opus_decode`.  Between them are the network and the reception flow of the
other side.
-/

namespace ConnectUdp.Uvgrtp.MediaFormat

open RtpHeader SequenceNumber Transition

def MAX_PACKET_SIZE : Nat := 1400

def DEFAULT_MTU_SIZE : Nat := 1492

-- What is left of a packet behind the headers of IP and UDP.
def MAX_IPV4_PAYLOAD : Nat := DEFAULT_MTU_SIZE - 20 - 8

-- `opusData` after `opus_encode`, which was told its size, has returned `numBytes`.
structure Encoded where
  opusData : List UInt8
  numBytes : Int
  length_eq : opusData.length = MAX_PACKET_SIZE
  numBytes_le : numBytes ≤ MAX_PACKET_SIZE

namespace Encoded

-- The packet; there is none when the encoder has failed.
def packet (e : Encoded) : List UInt8 :=
  e.opusData.take e.numBytes.toNat

theorem length_packet_le (e : Encoded) : e.packet.length ≤ MAX_PACKET_SIZE := by
  rw [packet, List.length_take, e.length_eq]
  exact Nat.min_le_right _ _

end Encoded

/-- A call of `encodeAudioData`; `now` and `random` are what the frame queue reads. -/
structure AudioCall where
  encoded : Encoded
  now : Nat
  random : UInt32

def encodeAudioData (r : Rtp) (call : AudioCall) : Except Fault (Rtp × List (List UInt8)) :=
  if call.encoded.numBytes < 0 then .ok (r, [])
  else
    pushMediaFrame false r call.now call.random
      (call.encoded.opusData.take call.encoded.numBytes.toNat)

-- The datagrams of one call after the other.
def encodeAudioCalls : Rtp → List AudioCall → Except Fault (List (List UInt8))
  | _, [] => .ok []
  | r, call :: calls =>
    match encodeAudioData r call with
    | .error fault => .error fault
    | .ok (r, sent) => (encodeAudioCalls r calls).map (sent ++ ·)

-- The packets that are sent.
def packets (calls : List AudioCall) : List (List UInt8) :=
  (calls.map fun call => call.encoded.packet).filter (· ≠ [])

/-! ## Sending -/

theorem encodeAudioData_of_empty {r : Rtp} {call : AudioCall} (hempty : call.encoded.packet = []) :
    encodeAudioData r call = .ok (r, []) := by
  rw [encodeAudioData]
  split
  next => rfl
  next => exact if_pos hempty

theorem packetHeader_single (h : Header) : packetHeader false h 1 0 = h := by
  rw [packetHeader, after_zero, if_neg fun hand => Bool.false_ne_true hand.1]

theorem encodeAudioData_eq {r : Rtp} {call : AudioCall} (hne : call.encoded.packet ≠ [])
    (hsize : 0 < r.payloadSize.toNat) :
    encodeAudioData r call = .ok ({ r.started call.now call.random with seq := r.seq + 1 },
      [headerBytes (pushHeader r call.now call.random) ++ call.encoded.packet]) := by
  have hnumBytes : ¬ call.encoded.numBytes < 0 := by
    intro hneg
    apply hne
    rw [Encoded.packet, Int.toNat_of_nonpos (Int.le_of_lt hneg), List.take_zero]
  rw [encodeAudioData, if_neg hnumBytes]
  have hpush := pushMediaFrame_eq false r call.now call.random hne hsize
  dsimp only at hpush
  rw [payloadsOf, if_neg Bool.false_ne_true, List.length_singleton, if_pos (by decide), after_succ,
    after_zero] at hpush
  refine hpush.trans ?_
  show Except.ok (_, [headerBytes (packetHeader false (pushHeader r call.now call.random) 1 0) ++
    call.encoded.packet]) = _
  rw [packetHeader_single]

theorem packets_cons (call : AudioCall) (calls : List AudioCall) :
    packets (call :: calls) =
      if call.encoded.packet = [] then packets calls
      else call.encoded.packet :: packets calls := by
  rw [packets, List.map_cons, List.filter_cons]
  by_cases hempty : call.encoded.packet = []
  · rw [if_neg (by simpa using hempty), if_pos hempty]
    rfl
  · rw [if_pos (decide_eq_true hempty), if_neg hempty]
    rfl

/-- Nothing goes wrong, and every packet is sent in a datagram with a number of its own. -/
theorem encodeAudioCalls_eq (calls : List AudioCall) {r : Rtp} (hsize : 0 < r.payloadSize.toNat)
    {first : UInt16} {j : Nat} (hseq : r.seq = after first j) :
    ∃ datagrams, encodeAudioCalls r calls = .ok datagrams ∧
      List.Forall₂ (fun numbered datagram => ∃ h, PlainHeader h ∧
        h.seq = after first numbered.2 ∧ datagram = headerBytes h ++ numbered.1)
        ((packets calls).zipIdx j) datagrams := by
  induction calls generalizing r j with
  | nil => exact ⟨[], rfl, .nil⟩
  | cons call calls ih =>
    rw [encodeAudioCalls, packets_cons]
    by_cases hempty : call.encoded.packet = []
    · obtain ⟨datagrams, hrun, hall⟩ := ih hsize hseq
      rw [encodeAudioData_of_empty hempty, if_pos hempty]
      dsimp only
      rw [hrun]
      exact ⟨datagrams, rfl, hall⟩
    · have hsize' : 0 < ({ r.started call.now call.random with
          seq := r.seq + 1 } : Rtp).payloadSize.toNat := by
        show 0 < (r.started call.now call.random).payloadSize.toNat
        rwa [r.started_payloadSize]
      have hseq' : ({ r.started call.now call.random with seq := r.seq + 1 } : Rtp).seq =
          after first (j + 1) := by
        rw [after_succ, ← hseq]
      obtain ⟨datagrams, hrun, hall⟩ := ih hsize' hseq'
      rw [encodeAudioData_eq hempty hsize, if_neg hempty]
      dsimp only at hrun ⊢
      rw [hrun]
      refine ⟨_, rfl, .cons ⟨_, plain_pushHeader r call.now call.random, ?_, rfl⟩ hall⟩
      exact (r.started_seq call.now call.random).trans hseq

/-! ## Receiving -/

/-- Without fragmentation every packet that is read is a frame, whatever came before. -/
theorem runHandlers_frames {entries : List ((Nat → UInt8) × List UInt8)} {frames : List Frame}
    (hframes : List.Forall₂ (fun e frame =>
      Uvgrtp.packetHandler e.2 = .ok (.modified frame)) entries frames) (table : Table MediaInfo) :
    Flow.runHandlers (handlers false) (.ok table) entries = (.ok table, frames) := by
  induction hframes with
  | nil => rfl
  | @cons e frame entries frames hhere _ ih =>
    have hnow : handlers false (.ok table) e.1 e.2 = (.ok table, [frame]) := by
      rw [handlers, hhere]
      rfl
    rw [Flow.runHandlers, hnow]
    dsimp only
    rw [ih]
    rfl

-- What `opus_decode` is to get of packet `k`.
def Carries (calls : List AudioCall) (first : UInt16) (k : Nat) (frame : Frame) : Prop :=
  (packets calls)[k]? = some frame.payload ∧ frame.header.seq = after first k

theorem frame_of_datagram {calls : List AudioCall} {r : Rtp} {datagrams : List (List UInt8)}
    (hsize : 0 < r.payloadSize.toNat) (hsent : encodeAudioCalls r calls = .ok datagrams) {k : Nat}
    {datagram : List UInt8} (hk : datagrams[k]? = some datagram) :
    ∃ frame, Carries calls r.seq k frame ∧
      Uvgrtp.packetHandler (datagram.take MAX_IPV4_PAYLOAD) = .ok (.modified frame) := by
  obtain ⟨datagrams', hrun, hall⟩ := encodeAudioCalls_eq calls hsize (after_zero r.seq).symm
  rw [hsent] at hrun
  cases hrun
  obtain ⟨hlength, hget⟩ := List.forall₂_iff_get.mp hall
  obtain ⟨hlt, rfl⟩ := List.getElem?_eq_some_iff.mp hk
  have hlt' : k < (packets calls).length := by
    rwa [← hlength, List.length_zipIdx] at hlt
  obtain ⟨h, hplain, hseq, hbytes⟩ := hget k (by rwa [List.length_zipIdx]) hlt
  simp only [List.get_eq_getElem, List.getElem_zipIdx, Nat.zero_add] at hseq hbytes
  have hfits : (packets calls)[k].length ≤ MAX_PACKET_SIZE := by
    have hmem := List.getElem_mem hlt'
    obtain ⟨call, -, heq⟩ := List.mem_map.mp (List.mem_filter.mp hmem).1
    rw [← heq]
    exact call.encoded.length_packet_le
  have hwhole : (headerBytes h ++ (packets calls)[k]).length ≤ MAX_IPV4_PAYLOAD := by
    rw [List.length_append, length_headerBytes]
    rw [MAX_PACKET_SIZE] at hfits
    rw [MAX_IPV4_PAYLOAD, DEFAULT_MTU_SIZE]
    omega
  have hread := packetHandler_datagram false hplain 1 0 (packets calls)[k]
  rw [sentFrame, packetHeader_single] at hread
  refine ⟨⟨h, [], none, 0, (packets calls)[k]⟩, ⟨List.getElem?_eq_getElem hlt', hseq⟩, ?_⟩
  rw [hbytes, List.take_of_length_le hwhole]
  exact hread

theorem exists_frames {calls : List AudioCall} {first : UInt16} {ks : List Nat}
    {entries : List ((Nat → UInt8) × List UInt8)}
    (hall : List.Forall₂ (fun k e => ∃ frame, Carries calls first k frame ∧
      Uvgrtp.packetHandler e.2 = .ok (.modified frame)) ks entries) :
    ∃ frames, List.Forall₂ (Carries calls first) ks frames ∧ List.Forall₂ (fun e frame =>
      Uvgrtp.packetHandler e.2 = .ok (.modified frame)) entries frames := by
  induction hall with
  | nil => exact ⟨[], .nil, .nil⟩
  | cons hhere _ ih =>
    obtain ⟨frame, hcarries, hread⟩ := hhere
    obtain ⟨frames, hks, hentries⟩ := ih
    exact ⟨frame :: frames, .cons hcarries hks, .cons hread hentries⟩

/-- The frames that have been pulled are, one for each datagram from the first arrival on, the
packets that `opus_encode` has made, byte for byte; and nothing that was handled is lost before
`stop` clears the queue. -/
theorem decoded_as_encoded {calls : List AudioCall} {r : Rtp} {datagrams : List (List UInt8)}
    {flow : Flow (Except Fault (Table MediaInfo)) (Nat → UInt8) Frame} {ks : List Nat}
    (hsize : 0 < r.payloadSize.toNat) (hsent : encodeAudioCalls r calls = .ok datagrams)
    (hflow : (Flow.machine (handlers false) (.ok ∅)).ReachableBy Flow.RoomOk flow)
    (hpayload : flow.payloadSize = MAX_IPV4_PAYLOAD)
    (harrived : List.Forall₂ (fun k received => ∃ datagram ∈ datagrams[k]?,
      received = datagram.take flow.payloadSize) ks flow.received) :
    List.Forall₂ (Carries calls r.seq) (ks.take flow.pulled.length) flow.pulled ∧
      (flow.stopper ≠ .cleared →
        (flow.pulled ++ flow.frames ++ flow.processor.leaving).length = flow.handled.length) := by
  have hring := Flow.ringInv_of_reachable hflow
  have hqueue := Flow.queueInv_of_reachable hflow
  have hhandled : List.Forall₂ (fun k e => ∃ frame, Carries calls r.seq k frame ∧
      Uvgrtp.packetHandler e.2 = .ok (.modified frame))
      (ks.take flow.handled.length) flow.handled := by
    have htake := List.forall₂_take flow.handled.length harrived
    rw [← hring.order, List.forall₂_map_right_iff] at htake
    refine htake.imp ?_
    rintro k e ⟨datagram, hdatagram, hreceived⟩
    rw [hreceived, hpayload]
    exact frame_of_datagram hsize hsent hdatagram
  obtain ⟨frames, hcarries, hread⟩ := exists_frames hhandled
  have hrun := runHandlers_frames hread ∅
  have hlength := hread.length_eq
  have hpulled := hqueue.pulled
  rw [hrun] at hpulled
  constructor
  · have htake := List.forall₂_take flow.pulled.length hcarries
    rwa [List.take_take, Nat.min_eq_left (hlength ▸ hpulled.length_le),
      ← List.prefix_iff_eq_take.mp hpulled] at htake
  · intro hne
    have hall := hqueue.queue hne
    rw [hrun] at hall
    rw [← hall, hlength]

-- The encoder has written `bytes` into the vector.
def written (bytes : List UInt8) (hle : bytes.length ≤ MAX_PACKET_SIZE) : Encoded where
  opusData := bytes ++ List.replicate (MAX_PACKET_SIZE - bytes.length) 0
  numBytes := bytes.length
  length_eq := by
    rw [List.length_append, List.length_replicate]
    omega
  numBytes_le := Int.ofNat_le.mpr hle

-- The second call fails.
def threeCalls : List AudioCall :=
  [⟨written [1, 2, 3] (by decide), 0, 9⟩,
    ⟨⟨List.replicate MAX_PACKET_SIZE 0, -1, List.length_replicate, by decide⟩, 20000, 9⟩,
    ⟨written [4, 5] (by decide), 40000, 9⟩]

def twoPackets : List (List UInt8) :=
  [[128, 105, 255, 255, 0, 0, 3, 232, 0, 0, 0, 7, 1, 2, 3],
    [128, 105, 0, 0, 0, 0, 11, 104, 0, 0, 0, 7, 4, 5]]

-- The second packet overtakes the first, which arrives twice.
def overtaking : List (FlowAct (Nat → UInt8)) :=
  [.processor, .processor, .receiver, .poll true, .receiver] ++
    [1, 0, 0].flatMap (fun k =>
      [.recvfrom (.datagram (twoPackets.getD k [])), .receiver, .receiver]) ++
    [.recvfrom .interrupted, .receiver, .processor] ++
    (List.replicate 3 [.processor, .handle fun _ => 0, .processor, .processor]).flatten ++
    [.pull, .pull]

theorem decoded_as_encoded_overtaking :
    ∃ flow, (Flow.machine (handlers false) (.ok ∅)).exec
        (Flow.start 8 MAX_IPV4_PAYLOAD (.ok ∅)) overtaking = some flow ∧
      flow.pulled.length = 2 ∧ List.Forall₂ (Carries threeCalls 65535) [1, 0] flow.pulled := by
  have hsent : encodeAudioCalls ⟨7, 1000, 65535, 105, 48000, 0, invalidTs, 1360⟩ threeCalls =
      .ok twoPackets := by
    decide +kernel
  have hrun : ((Flow.machine (handlers false) (.ok ∅)).exec
      (Flow.start 8 MAX_IPV4_PAYLOAD (.ok ∅)) overtaking).map
        (fun flow => (flow.received, flow.payloadSize, flow.pulled.length)) =
      some ([1, 0, 0].map fun k => twoPackets.getD k [], MAX_IPV4_PAYLOAD, 2) := by
    decide +kernel
  have hroom : (Flow.machine (handlers false) (.ok ∅)).StepsMeet Flow.RoomOk
      (Flow.start 8 MAX_IPV4_PAYLOAD (.ok ∅)) overtaking := by
    decide +kernel
  have hstart : (Flow.machine (handlers false) (.ok ∅)).init
      (Flow.start 8 MAX_IPV4_PAYLOAD (.ok ∅)) := ⟨8, MAX_IPV4_PAYLOAD, by decide, rfl⟩
  obtain ⟨flow, hflow, hresult⟩ := Option.map_eq_some_iff.mp hrun
  obtain ⟨hreceived, hresult⟩ := Prod.mk.inj hresult
  obtain ⟨hpayload, hpulled⟩ := Prod.mk.inj hresult
  have harrived : List.Forall₂ (fun k received => ∃ datagram ∈ twoPackets[k]?,
      received = datagram.take flow.payloadSize) [1, 0, 0] flow.received := by
    rw [hreceived, hpayload]
    exact .cons ⟨_, rfl, rfl⟩ (.cons ⟨_, rfl, rfl⟩ (.cons ⟨_, rfl, rfl⟩ .nil))
  have hdecoded := decoded_as_encoded (by decide) hsent
    ((Machine.ReachableBy.start hstart).of_exec hroom hflow) hpayload harrived
  rw [hpulled] at hdecoded
  exact ⟨flow, hflow, hpulled, hdecoded.1⟩

end ConnectUdp.Uvgrtp.MediaFormat
