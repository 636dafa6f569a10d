import ConnectUdp.CharArray

/-!
# The UDP library of `lib.cpp`

Every function takes the globals and the results of the system calls it makes, and returns the
globals after it, with what it did appended to `log`.  Calling a null function pointer ends the
process.
-/

namespace ConnectUdp.Udp

-- `sizeof(buffer)`.
def bufferSize : Nat := 1024

-- The fields of `sockaddr_in` that the library sets.
structure SockAddr where
  sin_port : UInt16
  sin_addr : UInt32
  deriving DecidableEq, Repr

/-- The arguments of one call of `receive_callback`; `data` is the array that its first argument
points to, as it stands at the call. -/
structure Receipt where
  data : CharArray bufferSize
  size : Int
  type : Int
  deriving DecidableEq, Repr

inductive Event
  -- `debug_callback` on a literal with a C string behind it.
  | debug (text : String) (message : List UInt8)
  | start (text : String)
  | receive (receipt : Receipt)
  -- A byte is stored at `buffer[index]`.
  | write (index : Int)
  | sendto (sockfd : Int) (data : List UInt8) (servaddr : SockAddr) (ret : Int)
  | close (sockfd : Int)
  deriving DecidableEq, Repr

def Event.receipt? : Event → Option Receipt
  | .receive receipt => some receipt
  | _ => none

-- The index that `receiveUDPMessage` has stored its terminator at.
def Event.index? : Event → Option Int
  | .write index => some index
  | _ => none

def Event.datagram? : Event → Option (List UInt8)
  | .sendto _ data _ ret => if 0 ≤ ret then some data else none
  | _ => none

inductive Fault
  | nullCallback
  deriving DecidableEq, Repr

/-- The globals of `lib.cpp`.  Of a function pointer it only matters whether it is null. -/
structure Library where
  debugCallback : Bool
  receiveCallback : Bool
  startCallback : Bool
  servaddr : SockAddr
  sockfd : Int
  buffer : CharArray bufferSize
  log : List Event
  deriving DecidableEq, Repr

namespace Library

def emit (lib : Library) (event : Event) : Library :=
  { lib with log := lib.log ++ [event] }

-- `debug_callback((text + std::string(message)).c_str())`.
def debug (lib : Library) (text : String) (message : List UInt8) : Except Fault Library :=
  if lib.debugCallback then .ok (lib.emit (.debug text message)) else .error .nullCallback

-- `memset(buffer, 0, sizeof(buffer))`.
def clearBuffer (lib : Library) : Library :=
  { lib with buffer := .zero bufferSize }

def receipts (lib : Library) : List Receipt :=
  lib.log.filterMap Event.receipt?

def datagrams (lib : Library) : List (List UInt8) :=
  lib.log.filterMap Event.datagram?

def writes (lib : Library) : List Int :=
  lib.log.filterMap Event.index?

end Library

/-! ## Sending -/

/-- The argument `message`: the caller's own memory up to its terminator, or the pointer that
`receive_callback` gets. -/
inductive Message
  | own (text : List UInt8)
  | buffer
  deriving DecidableEq, Repr

-- The C string that `message` holds now.
def Message.chars (message : Message) (lib : Library) : List UInt8 :=
  match message with
  | .own text => cstring text
  | .buffer => cstring lib.buffer.bytes

structure SendCalls where
  socket : Int
  inetAddr : UInt32
  sendto : Int
  deriving DecidableEq, Repr

-- `sockfd` and `servaddr` are locals here; `buffer` is the global.
def sendUDPMessage (lib : Library) (calls : SendCalls) (port : Int) (message : Message) :
    Except Fault Library := do
  let lib ← lib.debug "C++ 送信前段階：" (message.chars lib)
  let lib := lib.clearBuffer
  let sockfd := calls.socket
  let lib ← if sockfd < 0 then lib.debug "ソケット作成失敗" [] else pure lib
  let servaddr : SockAddr := ⟨UInt16.ofInt port, calls.inetAddr⟩
  let lib ← lib.debug "C++ 送信前段階：" (message.chars lib)
  let lib := lib.emit (.sendto sockfd (message.chars lib) servaddr calls.sendto)
  let lib ← if calls.sendto < 0 then lib.debug "送信失敗" [] else pure lib
  return lib.emit (.close sockfd)

/-! ## Receiving -/

/-- What `recvfrom` finds: a datagram with what it stores as its source (`len` is not
initialised), or a failure. -/
inductive Recvfrom
  | datagram (data : List UInt8) (source : SockAddr)
  | failed
  deriving DecidableEq, Repr

namespace Library

-- `recvfrom(sockfd, buffer, sizeof(buffer) - 1, ...)` with its result.
def recvfrom (lib : Library) : Recvfrom → Int × Library
  | .datagram data source =>
    let stored := data.take (bufferSize - 1)
    (stored.length, { lib with buffer := lib.buffer.store stored, servaddr := source })
  | .failed => (-1, lib)

/-- `buffer[n] = '\0'`; an index outside the array hits memory that is not modelled. -/
def terminate (lib : Library) (n : Int) : Library :=
  { lib.emit (.write n) with buffer := (lib.buffer.set? n 0).getD lib.buffer }

-- `receive_callback(buffer, n, 0)`, once the pointer has been tested.
def receive (lib : Library) (n : Int) : Library :=
  lib.emit (.receive ⟨lib.buffer, n, 0⟩)

end Library

def receiveUDPMessage (lib : Library) (call : Recvfrom) : Except Fault Library := do
  let lib := lib.clearBuffer
  let lib ← lib.debug "receiveUDPMessageが実行開始されました。" []
  let (n, lib) := lib.recvfrom call
  let lib := lib.terminate n
  let lib ← if lib.receiveCallback then do
      let lib ← lib.debug "C++ 受信後段階：" (cstring lib.buffer.bytes)
      pure (lib.receive n)
    else pure lib
  lib.debug "receiveUDPMessageが完了しました。" []

/-! ## What a call does when the system calls succeed -/

section success

variable {lib : Library}

@[simp] theorem Library.clearBuffer_emit (event : Event) :
    (lib.emit event).clearBuffer = lib.clearBuffer.emit event := rfl

@[simp] theorem Library.clearBuffer_datagrams : lib.clearBuffer.datagrams = lib.datagrams := rfl

@[simp] theorem Library.emit_debugCallback (event : Event) :
    (lib.emit event).debugCallback = lib.debugCallback := rfl

@[simp] theorem Library.emit_receiveCallback (event : Event) :
    (lib.emit event).receiveCallback = lib.receiveCallback := rfl

theorem Library.receipts_emit (event : Event) :
    (lib.emit event).receipts = lib.receipts ++ event.receipt?.toList := by
  rw [Library.receipts, Library.emit, List.filterMap_append]
  cases hevent : event.receipt? <;> simp [Library.receipts, hevent]

theorem Library.datagrams_emit (event : Event) :
    (lib.emit event).datagrams = lib.datagrams ++ event.datagram?.toList := by
  rw [Library.datagrams, Library.emit, List.filterMap_append]
  cases hevent : event.datagram? <;> simp [Library.datagrams, hevent]

theorem Library.writes_emit (event : Event) :
    (lib.emit event).writes = lib.writes ++ event.index?.toList := by
  rw [Library.writes, Library.emit, List.filterMap_append]
  cases hevent : event.index? <;> simp [Library.writes, hevent]

@[simp] theorem Message.chars_emit (message : Message) (event : Event) :
    message.chars (lib.emit event) = message.chars lib := by
  cases message <;> rfl

theorem Message.chars_clearBuffer_own (text : List UInt8) :
    (Message.own text).chars lib.clearBuffer = cstring text := rfl

theorem Library.debug_of_set (h : lib.debugCallback = true) (text : String)
    (message : List UInt8) : lib.debug text message = .ok (lib.emit (.debug text message)) :=
  if_pos h

theorem Library.debug_of_null (h : ¬ lib.debugCallback = true) (text : String)
    (message : List UInt8) : lib.debug text message = .error .nullCallback :=
  if_neg h

def Library.emitAll (lib : Library) (events : List Event) : Library :=
  { lib with log := lib.log ++ events }

theorem Library.receipts_emitAll (events : List Event) :
    (lib.emitAll events).receipts = lib.receipts ++ events.filterMap Event.receipt? :=
  List.filterMap_append

theorem Library.writes_emitAll (events : List Event) :
    (lib.emitAll events).writes = lib.writes ++ events.filterMap Event.index? :=
  List.filterMap_append

-- Neither a byte of `buffer` nor a call of `receive_callback`.
def Event.Outgoing (event : Event) : Prop :=
  event.receipt? = none ∧ event.index? = none

/-- From `lib` to `lib'` nothing happens but events that go out. -/
def Library.Outgoing (lib lib' : Library) : Prop :=
  ∃ events, (∀ event ∈ events, event.Outgoing) ∧ lib' = lib.emitAll events

theorem Library.Outgoing.refl (lib : Library) : lib.Outgoing lib :=
  ⟨[], fun _ hmem => (by cases hmem), congrArg (fun log => { lib with log := log })
    (List.append_nil lib.log).symm⟩

theorem Library.Outgoing.emit {lib' : Library} (h : lib.Outgoing lib') {event : Event}
    (hevent : event.Outgoing) : lib.Outgoing (lib'.emit event) := by
  obtain ⟨events, hevents, rfl⟩ := h
  refine ⟨events ++ [event], ?_, ?_⟩
  · exact List.forall_mem_append.mpr ⟨hevents, List.forall_mem_singleton.mpr hevent⟩
  · rw [Library.emit, Library.emitAll, Library.emitAll, List.append_assoc]

theorem Library.Outgoing.receipts {lib' : Library} (h : lib.Outgoing lib') :
    lib'.receipts = lib.receipts := by
  obtain ⟨events, hevents, rfl⟩ := h
  rw [Library.receipts_emitAll, List.filterMap_eq_nil_iff.mpr fun e he => (hevents e he).1,
    List.append_nil]

theorem Library.Outgoing.writes {lib' : Library} (h : lib.Outgoing lib') :
    lib'.writes = lib.writes := by
  obtain ⟨events, hevents, rfl⟩ := h
  rw [Library.writes_emitAll, List.filterMap_eq_nil_iff.mpr fun e he => (hevents e he).2,
    List.append_nil]

/-- Whatever the system calls answer, a send clears `buffer` and sends events out. -/
theorem sendUDPMessage_outgoing (h : lib.debugCallback = true) (calls : SendCalls) (port : Int)
    (message : Message) : ∃ lib', sendUDPMessage lib calls port message = .ok lib' ∧
      lib.clearBuffer.Outgoing lib' := by
  have hcleared : lib.clearBuffer.debugCallback = true := h
  rw [sendUDPMessage, Library.debug_of_set h]
  simp only [bind, Except.bind, pure, Except.pure, Library.debug, Library.clearBuffer_emit]
  have hbase : lib.clearBuffer.Outgoing
      (lib.clearBuffer.emit (.debug "C++ 送信前段階：" (message.chars lib))) :=
    (Library.Outgoing.refl _).emit ⟨rfl, rfl⟩
  by_cases hsocket : calls.socket < 0 <;> by_cases hsendto : calls.sendto < 0 <;>
    simp only [Library.emit_debugCallback, hcleared, hsocket, hsendto, if_true, if_false]
  · exact ⟨_, rfl, ((((hbase.emit ⟨rfl, rfl⟩).emit ⟨rfl, rfl⟩).emit ⟨rfl, rfl⟩).emit
      ⟨rfl, rfl⟩).emit ⟨rfl, rfl⟩⟩
  · exact ⟨_, rfl, (((hbase.emit ⟨rfl, rfl⟩).emit ⟨rfl, rfl⟩).emit ⟨rfl, rfl⟩).emit ⟨rfl, rfl⟩⟩
  · exact ⟨_, rfl, (((hbase.emit ⟨rfl, rfl⟩).emit ⟨rfl, rfl⟩).emit ⟨rfl, rfl⟩).emit ⟨rfl, rfl⟩⟩
  · exact ⟨_, rfl, ((hbase.emit ⟨rfl, rfl⟩).emit ⟨rfl, rfl⟩).emit ⟨rfl, rfl⟩⟩

/-- A send clears `buffer` before it reads the message for the datagram. -/
theorem sendUDPMessage_of_success (h : lib.debugCallback = true) {calls : SendCalls}
    (hsocket : 0 ≤ calls.socket) (hsendto : 0 ≤ calls.sendto) (port : Int) (message : Message) :
    sendUDPMessage lib calls port message = .ok ((((lib.clearBuffer.emit
      (.debug "C++ 送信前段階：" (message.chars lib))).emit
      (.debug "C++ 送信前段階：" (message.chars lib.clearBuffer))).emit
      (.sendto calls.socket (message.chars lib.clearBuffer)
        ⟨UInt16.ofInt port, calls.inetAddr⟩ calls.sendto)).emit
      (.close calls.socket)) := by
  have hsocket' : ¬ calls.socket < 0 := by omega
  have hsendto' : ¬ calls.sendto < 0 := by omega
  rw [sendUDPMessage, Library.debug_of_set h]
  change Except.bind _ _ = _
  simp only [bind, Except.bind, pure, Except.pure, if_neg hsocket', if_neg hsendto',
    Library.clearBuffer_emit, Message.chars_emit]
  have hcleared : lib.clearBuffer.debugCallback = true := h
  simp only [Library.debug, Library.emit_debugCallback, hcleared, if_true, Message.chars_emit]

-- The bytes that `recvfrom` stores of a datagram.
def received (data : List UInt8) : List UInt8 :=
  data.take (bufferSize - 1)

theorem received_length (data : List UInt8) :
    (received data).length = min data.length (bufferSize - 1) := by
  rw [received, List.length_take, Nat.min_comm]

theorem received_lt (data : List UInt8) : (received data).length < bufferSize := by
  rw [received_length]
  exact Nat.lt_of_le_of_lt (Nat.min_le_right _ _) (by decide)

-- The arguments of `receive_callback` for a datagram.
def receiptOf (data : List UInt8) : Receipt :=
  ⟨.padded bufferSize (received data), (received data).length, 0⟩

-- The globals after `recvfrom` has stored a datagram in the cleared buffer.
def Library.holding (lib : Library) (data : List UInt8) (source : SockAddr) : Library :=
  { lib with buffer := .padded bufferSize (received data), servaddr := source }

@[simp] theorem Library.holding_debugCallback (data : List UInt8) (source : SockAddr) :
    (lib.holding data source).debugCallback = lib.debugCallback := rfl

@[simp] theorem Library.holding_receiveCallback (data : List UInt8) (source : SockAddr) :
    (lib.holding data source).receiveCallback = lib.receiveCallback := rfl

@[simp] theorem Library.holding_receipts (data : List UInt8) (source : SockAddr) :
    (lib.holding data source).receipts = lib.receipts := rfl

theorem Library.recvfrom_clearBuffer (data : List UInt8) (source : SockAddr) :
    lib.clearBuffer.recvfrom (.datagram data source) =
      (((received data).length : Int), lib.holding data source) := rfl

/-- In a buffer that was cleared before the datagram the terminator is already there. -/
theorem Library.terminate_received {data : List UInt8}
    (h : lib.buffer = .padded bufferSize (received data)) :
    lib.terminate (received data).length = lib.emit (.write (received data).length) := by
  rw [Library.terminate, h, CharArray.padded_set?_terminator (received_lt data), Option.getD_some,
    ← h]
  rfl

theorem Library.terminate_holding (data : List UInt8) (source : SockAddr) :
    (lib.holding data source).terminate (received data).length =
      (lib.holding data source).emit (.write (received data).length) :=
  Library.terminate_received rfl

theorem receiveUDPMessage_of_datagram (hdebug : lib.debugCallback = true)
    (hreceive : lib.receiveCallback = true) (data : List UInt8) (source : SockAddr) :
    receiveUDPMessage lib (.datagram data source) =
      .ok ((((((lib.emit (.debug "receiveUDPMessageが実行開始されました。" [])).holding data
        source).emit (.write (received data).length)).emit
        (.debug "C++ 受信後段階：" (cstring (receiptOf data).data.bytes))).emit
        (.receive (receiptOf data))).emit (.debug "receiveUDPMessageが完了しました。" [])) := by
  rw [receiveUDPMessage,
    Library.debug_of_set (show lib.clearBuffer.debugCallback = true from hdebug)]
  change Except.bind (.ok _) _ = _
  rw [← Library.clearBuffer_emit]
  simp only [Except.bind, Library.recvfrom_clearBuffer, Library.terminate_holding, bind,
    Library.debug, Library.receive, Library.emit_debugCallback, Library.emit_receiveCallback,
    Library.holding_debugCallback, Library.holding_receiveCallback, hdebug, hreceive, if_true,
    pure, Except.pure]
  rfl

end success

end ConnectUdp.Udp
