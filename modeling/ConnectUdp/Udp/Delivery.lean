import ConnectUdp.Udp.Library

/-!
# What arrives of a sequence of datagrams

`buffer` is cleared before every `recvfrom`, which leaves room for the terminator, so a receipt
depends on its own datagram only.  The run lemmas follow from one equation for each call.
-/

namespace ConnectUdp.Udp

-- A datagram with the source that `recvfrom` stores for it.
structure Datagram where
  data : List UInt8
  source : SockAddr
  deriving DecidableEq, Repr

def receiveAll (lib : Library) (datagrams : List Datagram) : Except Fault Library :=
  datagrams.foldlM (fun lib d => receiveUDPMessage lib (.datagram d.data d.source)) lib

-- The arguments of one call of `sendUDPMessage` with the results of its system calls.
structure Send where
  calls : SendCalls
  port : Int
  text : List UInt8
  deriving DecidableEq, Repr

def sendAll (lib : Library) (sends : List Send) : Except Fault Library :=
  sends.foldlM (fun lib s => sendUDPMessage lib s.calls s.port (.own s.text)) lib

/-! ## Receiving -/

-- One datagram adds one receipt and leaves the callbacks in place.
theorem receiveUDPMessage_receipts {lib : Library} (hdebug : lib.debugCallback = true)
    (hreceive : lib.receiveCallback = true) (d : Datagram) :
    ∃ lib', receiveUDPMessage lib (.datagram d.data d.source) = .ok lib' ∧
      lib'.debugCallback = true ∧ lib'.receiveCallback = true ∧
      lib'.receipts = lib.receipts ++ [receiptOf d.data] := by
  refine ⟨_, receiveUDPMessage_of_datagram hdebug hreceive d.data d.source, hdebug, hreceive, ?_⟩
  simp [Library.receipts_emit, Event.receipt?]

theorem receiveAll_receipts {lib : Library} (hdebug : lib.debugCallback = true)
    (hreceive : lib.receiveCallback = true) (datagrams : List Datagram) :
    ∃ lib', receiveAll lib datagrams = .ok lib' ∧
      lib'.receipts = lib.receipts ++ datagrams.map fun d => receiptOf d.data := by
  induction datagrams generalizing lib with
  | nil => exact ⟨lib, rfl, (List.append_nil _).symm⟩
  | cons d ds ih =>
    obtain ⟨mid, hmid, hdebug', hreceive', hreceipts⟩ :=
      receiveUDPMessage_receipts hdebug hreceive d
    obtain ⟨lib', hrest, hreceipts'⟩ := ih hdebug' hreceive'
    refine ⟨lib', ?_, ?_⟩
    · rw [receiveAll, List.foldlM_cons, hmid]
      exact hrest
    · rw [hreceipts', hreceipts, List.append_assoc, List.map_cons, List.singleton_append]

theorem receiptOf_size (data : List UInt8) :
    (receiptOf data).size = (min data.length (bufferSize - 1) : Nat) :=
  congrArg Int.ofNat (received_length data)

theorem receiptOf_data (data : List UInt8) :
    (receiptOf data).data.bytes.take (min data.length (bufferSize - 1)) =
      data.take (min data.length (bufferSize - 1)) := by
  have htake := CharArray.padded_take (received_lt data).le
  rw [received_length] at htake
  refine htake.trans (List.take_eq_take_iff.mpr ?_)
  omega

theorem receiptOf_rest (data : List UInt8) {j : Nat}
    (hj : j < (receiptOf data).data.bytes.length) (h : min data.length (bufferSize - 1) ≤ j) :
    (receiptOf data).data.bytes[j] = 0 :=
  CharArray.padded_getElem_of_ge (received_lt data).le (received_length data ▸ h) hj

/-- A message that fits and holds no NUL arrives as the C string it was. -/
theorem receiptOf_message {text : List UInt8} (hnul : 0 ∉ text)
    (hlen : text.length ≤ bufferSize - 1) :
    cstring (receiptOf text).data.bytes = text ∧ (receiptOf text).size = text.length := by
  have hall : received text = text := List.take_of_length_le hlen
  refine ⟨?_, by rw [receiptOf, hall]⟩
  have h := CharArray.cstring_padded (hall.symm ▸ hnul) (received_lt text)
  exact h.trans hall

/-! ## Sending -/

/-- What the caller of `sendUDPMessage` passes and the system grants: a text without NUL that fits
the receiver's buffer, and system calls that succeed. -/
structure Send.Delivered (s : Send) : Prop where
  no_nul : 0 ∉ s.text
  fits : s.text.length ≤ bufferSize - 1
  socket : 0 ≤ s.calls.socket
  sendto : 0 ≤ s.calls.sendto

theorem sendUDPMessage_datagrams {lib : Library} (hdebug : lib.debugCallback = true) {s : Send}
    (h : s.Delivered) : ∃ lib', sendUDPMessage lib s.calls s.port (.own s.text) = .ok lib' ∧
      lib'.debugCallback = true ∧ lib'.datagrams = lib.datagrams ++ [s.text] := by
  refine ⟨_, sendUDPMessage_of_success hdebug h.socket h.sendto s.port _, hdebug, ?_⟩
  rw [Message.chars_clearBuffer_own, cstring_of_no_nul h.no_nul]
  simp [Library.datagrams_emit, Event.datagram?, h.sendto]

theorem sendAll_datagrams {lib : Library} (hdebug : lib.debugCallback = true) {sends : List Send}
    (h : ∀ s ∈ sends, s.Delivered) : ∃ lib', sendAll lib sends = .ok lib' ∧
      lib'.datagrams = lib.datagrams ++ sends.map Send.text := by
  induction sends generalizing lib with
  | nil => exact ⟨lib, rfl, (List.append_nil _).symm⟩
  | cons s ss ih =>
    obtain ⟨mid, hmid, hdebug', hsent⟩ :=
      sendUDPMessage_datagrams hdebug (h s List.mem_cons_self)
    obtain ⟨lib', hrest, hsent'⟩ := ih hdebug' fun t ht => h t (List.mem_cons_of_mem _ ht)
    refine ⟨lib', ?_, ?_⟩
    · rw [sendAll, List.foldlM_cons, hmid]
      exact hrest
    · rw [hsent', hsent, List.append_assoc, List.map_cons, List.singleton_append]

/-! ## Delivery -/

/-- From any contents of `buffer`, `k` datagrams give `k` receipts in order, each with the stored
length, the stored bytes and zeros after them.  The datagrams of successful sends of texts that
fit are the texts, and so such texts arrive as the same C strings. -/
theorem receipts_of_datagrams (lib : Library) (hdebug : lib.debugCallback = true)
    (hreceive : lib.receiveCallback = true) :
    (∀ datagrams : List Datagram, ∃ lib' receipts,
      receiveAll lib datagrams = .ok lib' ∧ lib'.receipts = lib.receipts ++ receipts ∧
      receipts.length = datagrams.length ∧
      ∀ i (hi : i < datagrams.length) (hi' : i < receipts.length),
        let n := min datagrams[i].data.length 1023
        receipts[i].size = n ∧
        receipts[i].data.bytes.take n = datagrams[i].data.take n ∧
        receipts[i].data.bytes.length = 1024 ∧
        ∀ j (hj : j < receipts[i].data.bytes.length), n ≤ j → receipts[i].data.bytes[j] = 0) ∧
    ∀ (sender : Library) (sends : List Send), sender.debugCallback = true →
      (∀ s ∈ sends, s.Delivered) → ∃ sender', sendAll sender sends = .ok sender' ∧
      sender'.datagrams = sender.datagrams ++ sends.map Send.text ∧
      ∀ datagrams : List Datagram, datagrams.map Datagram.data = sends.map Send.text →
        ∃ lib' receipts, receiveAll lib datagrams = .ok lib' ∧
          lib'.receipts = lib.receipts ++ receipts ∧
          receipts.map (fun r => (cstring r.data.bytes, r.size)) =
            sends.map fun s => (s.text, (s.text.length : Int)) := by
  constructor
  · intro datagrams
    obtain ⟨lib', hrun, hreceipts⟩ := receiveAll_receipts hdebug hreceive datagrams
    refine ⟨lib', _, hrun, hreceipts, List.length_map _, fun i hi hi' => ?_⟩
    rw [List.getElem_map]
    exact ⟨receiptOf_size _, receiptOf_data _, (receiptOf _).data.length_eq,
      fun j hj h => receiptOf_rest _ hj h⟩
  · intro sender sends hsender hsends
    obtain ⟨sender', hsent, hdatagrams⟩ := sendAll_datagrams hsender hsends
    refine ⟨sender', hsent, hdatagrams, fun datagrams hsame => ?_⟩
    obtain ⟨lib', hrun, hreceipts⟩ := receiveAll_receipts hdebug hreceive datagrams
    refine ⟨lib', _, hrun, hreceipts, ?_⟩
    have htexts : (datagrams.map fun d => receiptOf d.data) =
        sends.map fun s => receiptOf s.text := by
      have h := congrArg (List.map receiptOf) hsame
      rw [List.map_map, List.map_map] at h
      exact h
    rw [htexts, List.map_map]
    refine List.map_congr_left fun s hs => ?_
    obtain ⟨hchars, hsize⟩ := receiptOf_message (hsends s hs).no_nul (hsends s hs).fits
    exact Prod.ext hchars hsize

-- A library whose buffer is full of an older message.
def fullLibrary : Library where
  debugCallback := true
  receiveCallback := true
  startCallback := false
  servaddr := ⟨0, 0⟩
  sockfd := 3
  buffer := ⟨List.replicate bufferSize 7, List.length_replicate⟩
  log := []

-- A text, and a shorter one after it.
def shrinkingSends : List Send :=
  [⟨⟨4, 0, 3⟩, 50000, [72, 105, 33]⟩, ⟨⟨4, 0, 1⟩, 50000, [72]⟩]

theorem receipts_of_datagrams_run :
    ∃ lib' receipts, receiveAll fullLibrary [⟨[72, 105, 33], ⟨9, 9⟩⟩, ⟨[72], ⟨9, 9⟩⟩] = .ok lib' ∧
      lib'.receipts = receipts ∧
      receipts.map (fun r => (cstring r.data.bytes, r.size)) = [([72, 105, 33], 3), ([72], 1)] := by
  have hsends : ∀ s ∈ shrinkingSends, s.Delivered := by
    intro s hs
    rcases List.mem_cons.mp hs with rfl | hs
    · exact ⟨by decide, by decide, by decide, by decide⟩
    · rw [List.mem_singleton.mp hs]
      exact ⟨by decide, by decide, by decide, by decide⟩
  obtain ⟨_, -, -, hrun⟩ :=
    (receipts_of_datagrams fullLibrary rfl rfl).2 fullLibrary shrinkingSends rfl hsends
  exact hrun [⟨[72, 105, 33], ⟨9, 9⟩⟩, ⟨[72], ⟨9, 9⟩⟩] rfl

end ConnectUdp.Udp
