import ConnectUdp.Transition
import ConnectUdp.Udp.Library

/-!
# Sending while a receive is under way

`sendUDPMessage` shadows `sockfd` and `servaddr` with locals but clears the `buffer` that
`receiveUDPMessage` uses.  Here the receive is cut into its steps and a send may fall between any
two of them, or come from inside `receive_callback`.
-/

namespace ConnectUdp.Udp

open Transition

/-! ## The steps -/

/-- Where `receiveUDPMessage` stands; `data` is the datagram of this call and `n` the local. -/
inductive ReceivePc
  | idle
  | cleared
  | started
  | stored (data : List UInt8) (n : Int)
  | terminated (data : List UInt8) (n : Int)
  | reported (data : List UInt8) (n : Int)
  | callback (data : List UInt8)
  | returned
  deriving DecidableEq, Repr

structure State where
  lib : Library
  pc : ReceivePc
  -- The datagrams for which `receive_callback` has been invoked, in order.
  delivered : List (List UInt8)
  deriving DecidableEq, Repr

inductive Act
  | receive
  | recvfrom (data : List UInt8) (source : SockAddr)
  | send (calls : SendCalls) (port : Int) (message : Message)
  deriving DecidableEq, Repr

/-- The next step of `receiveUDPMessage` other than `recvfrom`. -/
def receiveStep (s : State) : Except Fault (Option State) :=
  match s.pc with
  | .idle => .ok (some { s with lib := s.lib.clearBuffer, pc := .cleared })
  | .cleared => do
    let lib ← s.lib.debug "receiveUDPMessageが実行開始されました。" []
    return some { s with lib := lib, pc := .started }
  | .started => .ok none
  | .stored data n => .ok (some { s with lib := s.lib.terminate n, pc := .terminated data n })
  | .terminated data n =>
    if s.lib.receiveCallback then do
      let lib ← s.lib.debug "C++ 受信後段階：" (cstring s.lib.buffer.bytes)
      return some { s with lib := lib, pc := .reported data n }
    else .ok (some { s with pc := .returned })
  | .reported data n => .ok (some { s with
      lib := s.lib.receive n, pc := .callback data, delivered := s.delivered ++ [data] })
  | .callback _ => .ok (some { s with pc := .returned })
  | .returned => do
    let lib ← s.lib.debug "receiveUDPMessageが完了しました。" []
    return some { s with lib := lib, pc := .idle }

-- A process that has called a null pointer takes no further step.
def next (s : State) : Act → Option State
  | .receive => (receiveStep s).toOption.join
  | .recvfrom data source =>
    if s.pc = .started then
      let (n, lib) := s.lib.recvfrom (.datagram data source)
      some { s with lib := lib, pc := .stored data n }
    else none
  | .send calls port message =>
    (sendUDPMessage s.lib calls port message).toOption.map fun lib => { s with lib := lib }

/-- The library as it is loaded, once `setCallback` has set a debug callback. -/
def machine : Machine State Act where
  init s := s.lib.debugCallback = true ∧ s.lib.buffer = .zero bufferSize ∧ s.lib.log = [] ∧
    s.pc = .idle ∧ s.delivered = []
  next := next

/-- Without sends the steps are those of `receiveUDPMessage`. -/
theorem exec_receive {s : State} (hpc : s.pc = .idle) (hdebug : s.lib.debugCallback = true)
    (hreceive : s.lib.receiveCallback = true) (data : List UInt8) (source : SockAddr) :
    machine.exec s [.receive, .receive, .recvfrom data source, .receive, .receive, .receive,
        .receive, .receive] =
      (receiveUDPMessage s.lib (.datagram data source)).toOption.map fun lib =>
        ⟨lib, .idle, s.delivered ++ [data]⟩ := by
  obtain ⟨lib, pc, delivered⟩ := s
  cases hpc
  change lib.debugCallback = true at hdebug
  change lib.receiveCallback = true at hreceive
  rw [receiveUDPMessage_of_datagram hdebug hreceive]
  have hcleared : lib.clearBuffer.debugCallback = true := hdebug
  simp only [Machine.exec, machine, next, receiveStep, Option.bind, Option.join_some,
    Except.toOption, Library.debug, Library.receive, hcleared, if_true, bind, Except.bind, pure,
    Except.pure, Library.recvfrom_clearBuffer, ← Library.clearBuffer_emit,
    Library.terminate_holding, Library.emit_debugCallback, Library.emit_receiveCallback,
    Library.holding_debugCallback, Library.holding_receiveCallback, hdebug, hreceive]
  rfl

/-! ## What a send changes -/

section send

variable {lib : Library}

/-- The effect on the receive-side globals, whatever the system calls answer: `buffer` is all
zero and everything else is as it was. -/
structure AfterSend (lib lib' : Library) : Prop where
  buffer : lib'.buffer = .zero bufferSize
  sockfd : lib'.sockfd = lib.sockfd
  servaddr : lib'.servaddr = lib.servaddr
  debugCallback : lib'.debugCallback = lib.debugCallback
  receipts : lib'.receipts = lib.receipts

theorem sendUDPMessage_effect (h : lib.debugCallback = true) (calls : SendCalls) (port : Int)
    (message : Message) :
    ∃ lib', sendUDPMessage lib calls port message = .ok lib' ∧ AfterSend lib lib' := by
  obtain ⟨lib', hsend, hout⟩ := sendUDPMessage_outgoing h calls port message
  have hreceipts : lib'.receipts = lib.receipts := hout.receipts
  obtain ⟨events, -, rfl⟩ := hout
  exact ⟨_, hsend, ⟨rfl, rfl, rfl, rfl, hreceipts⟩⟩

end send

/-! ## Runs whose sends find the buffer empty -/

-- The buffer holds nothing when a send is made.
def quiet (s : State) : Act → Prop
  | .send .. => s.lib.buffer = .zero bufferSize
  | .receive | .recvfrom .. => True

instance quiet.decidable (s : State) : (a : Act) → Decidable (quiet s a)
  | .send .. => inferInstanceAs (Decidable (_ = _))
  | .receive | .recvfrom .. => .isTrue trivial

/-- What `buffer` holds at each step of a receive that nothing disturbs. -/
def ReceivePc.Holds (buffer : CharArray bufferSize) : ReceivePc → Prop
  | .idle | .returned => True
  | .cleared | .started => buffer = .zero bufferSize
  | .stored data n | .terminated data n | .reported data n =>
    buffer = (receiptOf data).data ∧ n = (received data).length
  | .callback data => buffer = (receiptOf data).data

structure Inv (s : State) : Prop where
  debugCallback : s.lib.debugCallback = true
  receipts : s.lib.receipts = s.delivered.map receiptOf
  buffer : s.pc.Holds s.lib.buffer

theorem Inv.send {s t : State} (h : Inv s) {calls : SendCalls} {port : Int} {message : Message}
    (hquiet : s.lib.buffer = .zero bufferSize) (hn : next s (.send calls port message) = some t) :
    Inv t := by
  obtain ⟨lib', hsend, hafter⟩ := sendUDPMessage_effect h.debugCallback calls port message
  simp only [next, hsend, Except.toOption, Option.map_some, Option.some.injEq] at hn
  subst hn
  refine ⟨hafter.debugCallback.trans h.debugCallback, hafter.receipts.trans h.receipts, ?_⟩
  -- clearing a buffer that was all zero leaves what this step relies on
  change s.pc.Holds lib'.buffer
  rw [hafter.buffer, ← hquiet]
  exact h.buffer

theorem Inv.recvfrom {s t : State} (h : Inv s) {data : List UInt8} {source : SockAddr}
    (hn : next s (.recvfrom data source) = some t) : Inv t := by
  simp only [next] at hn
  split at hn
  · next hpc =>
    have hzero : s.lib.buffer = .zero bufferSize := by
      have hbuffer := h.buffer
      rw [hpc] at hbuffer
      exact hbuffer
    cases hn
    refine ⟨h.debugCallback, h.receipts, ?_, rfl⟩
    change s.lib.buffer.store (received data) = (CharArray.zero bufferSize).store (received data)
    rw [hzero]
  · cases hn

theorem Inv.receive {s t : State} (h : Inv s) (hn : next s .receive = some t) : Inv t := by
  have hbuffer := h.buffer
  obtain ⟨lib, pc, delivered⟩ := s
  have hdebug : lib.debugCallback = true := h.debugCallback
  have hreceipts : lib.receipts = delivered.map receiptOf := h.receipts
  cases pc with
  | idle =>
    cases hn
    exact ⟨hdebug, hreceipts, rfl⟩
  | cleared =>
    simp only [next, receiveStep, Library.debug_of_set hdebug] at hn
    cases hn
    exact ⟨hdebug, by simp [Library.receipts_emit, Event.receipt?, hreceipts], hbuffer⟩
  | started => cases hn
  | stored data n =>
    obtain ⟨hdata, rfl⟩ := hbuffer
    simp only [next, receiveStep, Library.terminate_received hdata] at hn
    cases hn
    exact ⟨hdebug, by simp [Library.receipts_emit, Event.receipt?, hreceipts], hdata, rfl⟩
  | terminated data n =>
    simp only [next, receiveStep, Library.debug_of_set hdebug] at hn
    split at hn <;> cases hn
    · exact ⟨hdebug, by simp [Library.receipts_emit, Event.receipt?, hreceipts], hbuffer⟩
    · exact ⟨hdebug, hreceipts, trivial⟩
  | reported data n =>
    obtain ⟨hdata, rfl⟩ := hbuffer
    have hreceipt : (⟨lib.buffer, (received data).length, 0⟩ : Receipt) = receiptOf data := by
      rw [show lib.buffer = _ from hdata]
      rfl
    simp only [next, receiveStep, Library.receive, hreceipt] at hn
    cases hn
    exact ⟨hdebug, by simp [Library.receipts_emit, Event.receipt?, hreceipts], hdata⟩
  | callback data =>
    cases hn
    exact ⟨hdebug, hreceipts, trivial⟩
  | returned =>
    simp only [next, receiveStep, Library.debug_of_set hdebug] at hn
    cases hn
    exact ⟨hdebug, by simp [Library.receipts_emit, Event.receipt?, hreceipts], trivial⟩

theorem inv_of_reachableBy {s : State} (h : machine.ReachableBy quiet s) : Inv s := by
  refine h.invariant (fun s hinit => ?_) fun s a t hi hquiet hn => ?_
  · obtain ⟨hdebug, -, hlog, hpc, hdelivered⟩ := hinit
    refine ⟨hdebug, ?_, ?_⟩
    · rw [Library.receipts, hlog, hdelivered]
      rfl
    · rw [hpc]
      trivial
  · cases a with
    | receive => exact hi.receive hn
    | recvfrom data source => exact hi.recvfrom hn
    | send calls port message => exact hi.send hquiet hn

/-- Every receipt of such a run shows the stored bytes of its datagram, and they stay in place
while `receive_callback` runs. -/
theorem receipts_of_quiet {s : State} (h : machine.ReachableBy quiet s) :
    s.lib.receipts = s.delivered.map receiptOf ∧
      ∀ data, s.pc = .callback data → s.lib.buffer = (receiptOf data).data := by
  have hinv := inv_of_reachableBy h
  refine ⟨hinv.receipts, fun data hpc => ?_⟩
  have hbuffer := hinv.buffer
  rw [hpc] at hbuffer
  exact hbuffer

/-! ## The condition for a send to disturb nothing -/

theorem next_debugCallback {s t : State} {a : Act} (h : s.lib.debugCallback = true)
    (hn : next s a = some t) : t.lib.debugCallback = true := by
  obtain ⟨lib, pc, delivered⟩ := s
  change lib.debugCallback = true at h
  cases a with
  | receive =>
    cases pc <;> simp only [next, receiveStep, Library.debug_of_set h] at hn
    case terminated data n => split at hn <;> cases hn <;> exact h
    case started => cases hn
    all_goals
      cases hn
      exact h
  | recvfrom data source =>
    simp only [next] at hn
    split at hn <;> cases hn
    exact h
  | send calls port message =>
    obtain ⟨lib', hsend, hafter⟩ := sendUDPMessage_effect h calls port message
    simp only [next, hsend, Except.toOption, Option.map_some, Option.some.injEq] at hn
    subst hn
    exact hafter.debugCallback.trans h

theorem debugCallback_of_reachable {s : State} (h : machine.Reachable s) :
    s.lib.debugCallback = true :=
  Machine.Reachable.invariant (fun _ (hinit : machine.init _) => hinit.1)
    (fun _ _ _ => next_debugCallback) h

/-- A call of `sendUDPMessage` leaves the receive-side globals alone and sends what its message
held when it was called. -/
def Undisturbed (lib : Library) (message : Message) (lib' : Library) : Prop :=
  lib'.sockfd = lib.sockfd ∧ lib'.servaddr = lib.servaddr ∧ lib'.buffer = lib.buffer ∧
    lib'.datagrams = lib.datagrams ++ [message.chars lib]

/-- In an all-zero buffer the `memset` changes nothing, and no message is lost behind the shared
pointer; in any other the bytes are gone. -/
theorem undisturbed_iff {lib lib' : Library} (h : lib.debugCallback = true) {calls : SendCalls}
    (hsocket : 0 ≤ calls.socket) (hsendto : 0 ≤ calls.sendto) {port : Int} {message : Message}
    (hsend : sendUDPMessage lib calls port message = .ok lib') :
    Undisturbed lib message lib' ↔ lib.buffer = .zero bufferSize := by
  rw [sendUDPMessage_of_success h hsocket hsendto] at hsend
  cases hsend
  constructor
  · rintro ⟨-, -, hbuffer, -⟩
    exact hbuffer.symm
  · intro hzero
    have hchars : message.chars lib.clearBuffer = message.chars lib := by
      cases message with
      | own text => rfl
      | buffer =>
        change cstring (CharArray.zero bufferSize).bytes = cstring lib.buffer.bytes
        rw [hzero]
    refine ⟨rfl, rfl, hzero.symm, ?_⟩
    rw [hchars]
    simp [Library.datagrams_emit, Event.datagram?, hsendto]

/-- In every reachable state a send disturbs nothing exactly when the buffer is all zero, and in
runs whose sends find it so, `receive_callback` sees the bytes that `recvfrom` stored. -/
theorem send_undisturbed_iff_buffer_zero (s : State) :
    (machine.Reachable s → ∀ (calls : SendCalls) (port : Int) (message : Message),
      0 ≤ calls.socket → 0 ≤ calls.sendto →
      ∃ lib', sendUDPMessage s.lib calls port message = .ok lib' ∧
        (Undisturbed s.lib message lib' ↔ s.lib.buffer = .zero bufferSize)) ∧
    (machine.ReachableBy quiet s →
      s.lib.receipts = s.delivered.map receiptOf ∧
        ∀ data, s.pc = .callback data → s.lib.buffer = (receiptOf data).data) := by
  refine ⟨fun h calls port message hsocket hsendto => ?_, receipts_of_quiet⟩
  have hdebug := debugCallback_of_reachable h
  obtain ⟨lib', hsend, -⟩ := sendUDPMessage_effect hdebug calls port message
  exact ⟨lib', hsend, undisturbed_iff hdebug hsocket hsendto hsend⟩

-- The library after `setCallback` and `preReceiveUDPMessage`.
def listening : State where
  lib := ⟨true, true, true, ⟨5000, 0⟩, 3, .zero bufferSize, []⟩
  pc := .idle
  delivered := []

-- Sends before the receive and before its datagram, and none after.
def quietRun : List Act :=
  [.send ⟨4, 1, 0⟩ 6000 (.own [1]), .receive, .receive, .send ⟨4, 1, 0⟩ 6000 .buffer,
    .recvfrom [72, 105] ⟨6000, 1⟩, .receive, .receive, .receive]

theorem send_undisturbed_iff_buffer_zero_run :
    (∃ lib', sendUDPMessage listening.lib ⟨4, 1, 0⟩ 6000 (.own [1]) = .ok lib' ∧
      Undisturbed listening.lib (.own [1]) lib') ∧
    ∃ s, machine.exec listening quietRun = some s ∧ s.lib.receipts = [receiptOf [72, 105]] ∧
      s.lib.buffer = (receiptOf [72, 105]).data := by
  have hinit : machine.init listening := ⟨rfl, rfl, rfl, rfl, rfl⟩
  constructor
  · obtain ⟨lib', hsend, h⟩ := (send_undisturbed_iff_buffer_zero listening).1 (.start hinit)
      ⟨4, 1, 0⟩ 6000 (.own [1]) (by decide) (by decide)
    exact ⟨lib', hsend, h.mpr rfl⟩
  · have hsteps : machine.StepsMeet quiet listening quietRun :=
      .cons rfl rfl <| .cons rfl trivial <| .cons rfl trivial <| .cons rfl rfl <|
        .cons rfl trivial <| .cons rfl trivial <| .cons rfl trivial <| .cons rfl trivial <| .nil _
    have hreach := Machine.ReachableBy.of_exec (.start hinit) hsteps rfl
    obtain ⟨hreceipts, hbuffer⟩ := (send_undisturbed_iff_buffer_zero _).2 hreach
    exact ⟨_, rfl, hreceipts, hbuffer _ rfl⟩

/-! ## An echo reply -/

-- A datagram of two bytes, up to the call of `receive_callback`.
def echoRun : List Act :=
  [.receive, .receive, .recvfrom [72, 105] ⟨6000, 1⟩, .receive, .receive, .receive]

/-- Replying with the pointer it was given, `receive_callback` sends an empty datagram and finds
its own data gone. -/
theorem echo_reply_is_empty : ∃ s lib', machine.exec listening echoRun = some s ∧
    s.pc = .callback [72, 105] ∧ Message.buffer.chars s.lib = [72, 105] ∧
    sendUDPMessage s.lib ⟨4, 1, 0⟩ 6000 .buffer = .ok lib' ∧
    lib'.datagrams = [[]] ∧ lib'.buffer ≠ s.lib.buffer ∧ ¬ Undisturbed s.lib .buffer lib' := by
  refine ⟨_, _, rfl, rfl, rfl, rfl, rfl, ?_, ?_⟩
  · intro h
    have hhead := congrArg (fun buffer => buffer.bytes.head?) h
    exact absurd hhead (by decide)
  · rintro ⟨-, -, h, -⟩
    have hhead := congrArg (fun buffer => buffer.bytes.head?) h
    exact absurd hhead (by decide)

end ConnectUdp.Udp
