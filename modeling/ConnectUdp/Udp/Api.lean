import ConnectUdp.Transition
import ConnectUdp.Udp.Library

/-!
# The UDP library under any sequence of calls

The functions of `lib.cpp` called in any order from the initial state, with every combination of
null callbacks and every outcome of the system calls.
-/

namespace ConnectUdp.Udp

open Transition

/-! ## The other functions of the library -/

def triggerCallback (lib : Library) : Library :=
  if lib.debugCallback then lib.emit (.debug "debugコールバック" []) else lib

-- The arguments tell which of the pointers are set.
def setCallback (lib : Library) (debug receive start : Bool) : Library :=
  triggerCallback
    { lib with debugCallback := debug, receiveCallback := receive, startCallback := start }

def Library.start (lib : Library) (text : String) : Except Fault Library :=
  if lib.startCallback then .ok (lib.emit (.start text)) else .error .nullCallback

structure PreReceiveCalls where
  socket : Int
  setsockopt : Int
  bind : Int
  deriving DecidableEq, Repr

-- `INADDR_ANY` is 0; the global `sockfd` keeps what `socket` returned on every path.
def preReceiveUDPMessage (lib : Library) (calls : PreReceiveCalls) (port : Int) :
    Except Fault Library :=
  let lib := { lib with sockfd := calls.socket }
  if calls.socket < 0 then lib.debug "socket creation failed 1" []
  else if calls.setsockopt < 0 then lib.debug "setsockopt(SO_REUSEADDR) failed" []
  else
    let lib := { lib with servaddr := ⟨UInt16.ofInt port, 0⟩ }
    if calls.bind < 0 then lib.debug "socket creation failed 2" []
    else lib.start "正常に受信を開始しました。"

def socketClose (lib : Library) : Library :=
  lib.emit (.close lib.sockfd)

/-! ## Runs -/

inductive Call
  | setCallback (debug receive start : Bool)
  | triggerCallback
  | preReceiveUDPMessage (calls : PreReceiveCalls) (port : Int)
  | receiveUDPMessage (call : Recvfrom)
  | sendUDPMessage (calls : SendCalls) (port : Int) (message : Message)
  | socketClose
  deriving DecidableEq, Repr

def run (lib : Library) : Call → Except Fault Library
  | .setCallback debug receive start => .ok (setCallback lib debug receive start)
  | .triggerCallback => .ok (triggerCallback lib)
  | .preReceiveUDPMessage calls port => preReceiveUDPMessage lib calls port
  | .receiveUDPMessage call => receiveUDPMessage lib call
  | .sendUDPMessage calls port message => sendUDPMessage lib calls port message
  | .socketClose => .ok (socketClose lib)

/-- `invoked` lists the calls with the receipts that `receive_callback` got during each. -/
structure Session where
  lib : Library
  invoked : List (Call × List Receipt)
  fault : Option Fault
  deriving DecidableEq, Repr

namespace Session

-- The globals as they are loaded.
def start : Session where
  lib := ⟨false, false, false, ⟨0, 0⟩, 0, .zero bufferSize, []⟩
  invoked := []
  fault := none

def after (s : Session) (call : Call) : Except Fault Library → Session
  | .ok lib => { s with
      lib := lib
      invoked := s.invoked ++ [(call, lib.receipts.drop s.lib.receipts.length)] }
  | .error fault => { s with fault := some fault }

def machine : Machine Session Call where
  init s := s = start
  next s call := if s.fault = none then some (s.after call (run s.lib call)) else none

end Session

/-- The receipt is one of a datagram that this call has received. -/
def Receipt.Genuine (receipt : Receipt) (call : Call) : Prop :=
  (∃ data source, call = .receiveUDPMessage (.datagram data source)) ∧
    0 ≤ receipt.size ∧ receipt.size ≤ 1023

namespace Session

structure Safe (s : Session) : Prop where
  noNullCall : s.fault = none
  writes : ∀ index ∈ s.lib.writes, 0 ≤ index ∧ index ≤ 1023
  receipts : ∀ entry ∈ s.invoked, ∀ receipt ∈ entry.2, receipt.Genuine entry.1

/-- The callbacks that the call uses without a test are set, and `recvfrom` does not fail. -/
def Careful (s : Session) : Call → Prop
  | .setCallback .. | .triggerCallback | .socketClose => True
  | .preReceiveUDPMessage calls _ =>
    if calls.socket < 0 ∨ calls.setsockopt < 0 ∨ calls.bind < 0 then s.lib.debugCallback = true
    else s.lib.startCallback = true
  | .receiveUDPMessage call => s.lib.debugCallback = true ∧ call ≠ .failed
  | .sendUDPMessage .. => s.lib.debugCallback = true

end Session

/-! ## What each call does -/

section calls

variable {lib : Library}

-- What `recvfrom` returns.
def Recvfrom.count : Recvfrom → Int
  | .datagram data _ => (received data).length
  | .failed => -1

theorem count_datagram (data : List UInt8) (source : SockAddr) :
    0 ≤ (Recvfrom.datagram data source).count ∧ (Recvfrom.datagram data source).count ≤ 1023 :=
  ⟨Int.natCast_nonneg _, Int.ofNat_le.mpr (Nat.le_of_lt_succ (received_lt data))⟩

-- The globals when `recvfrom` has returned and the terminator is stored.
def Library.terminated (lib : Library) (call : Recvfrom) : Library :=
  (lib.recvfrom call).2.terminate call.count

theorem terminated_debugCallback (call : Recvfrom) :
    (lib.terminated call).debugCallback = lib.debugCallback := by
  cases call <;> rfl

theorem terminated_log (call : Recvfrom) :
    (lib.terminated call).log = lib.log ++ [.write call.count] := by
  cases call <;> rfl

theorem terminated_writes (call : Recvfrom) :
    (lib.terminated call).writes = lib.writes ++ [call.count] := by
  rw [Library.writes, terminated_log, List.filterMap_append]
  rfl

theorem terminated_receipts (call : Recvfrom) :
    (lib.terminated call).receipts = lib.receipts := by
  rw [Library.receipts, terminated_log, List.filterMap_append]
  exact List.append_nil _

/-- What `receiveUDPMessage` does behind `recvfrom`. -/
def Library.notify (lib : Library) (n : Int) : Except Fault Library := do
  let lib ← if lib.receiveCallback then do
      let lib ← lib.debug "C++ 受信後段階：" (cstring lib.buffer.bytes)
      pure (lib.receive n)
    else pure lib
  lib.debug "receiveUDPMessageが完了しました。" []

theorem receiveUDPMessage_eq (call : Recvfrom) : receiveUDPMessage lib call =
    (lib.clearBuffer.debug "receiveUDPMessageが実行開始されました。" []).bind fun lib =>
      (lib.terminated call).notify call.count := by
  cases call <;> rfl

theorem notify_effect (h : lib.debugCallback = true) (n : Int) :
    ∃ lib', lib.notify n = .ok lib' ∧ lib'.writes = lib.writes ∧
      ∃ receipts, lib'.receipts = lib.receipts ++ receipts ∧
        ∀ receipt ∈ receipts, receipt.size = n := by
  unfold Library.notify
  by_cases hreceive : lib.receiveCallback = true
  · rw [if_pos hreceive, Library.debug_of_set h]
    have hset : ((lib.emit (.debug "C++ 受信後段階：" (cstring lib.buffer.bytes))).receive
        n).debugCallback = true := h
    refine ⟨_, Library.debug_of_set hset _ _, ?_, [⟨lib.buffer, n, 0⟩], ?_, ?_⟩
    · simp only [Library.receive, Library.writes_emit, Event.index?, Option.toList_none,
        List.append_nil]
    · simp only [Library.receive, Library.receipts_emit, Event.receipt?, Option.toList_none,
        Option.toList_some, List.append_nil]
      rfl
    · exact fun receipt hmem => List.mem_singleton.mp hmem ▸ rfl
  · rw [if_neg hreceive]
    refine ⟨lib.emit _, Library.debug_of_set h _ _, ?_, [], ?_, ?_⟩
    · exact (Library.writes_emit _).trans (List.append_nil _)
    · exact Library.receipts_emit _
    · exact fun _ hmem => by cases hmem

/-- A receive that may call `debug_callback` stores one byte, at the index that `recvfrom` has
returned, and passes this number on to `receive_callback`. -/
theorem receiveUDPMessage_effect (h : lib.debugCallback = true) (call : Recvfrom) :
    ∃ lib', receiveUDPMessage lib call = .ok lib' ∧
      lib'.writes = lib.writes ++ [call.count] ∧
      ∃ receipts, lib'.receipts = lib.receipts ++ receipts ∧
        ∀ receipt ∈ receipts, receipt.size = call.count := by
  have hcleared : lib.clearBuffer.debugCallback = true := h
  have hset : ((lib.clearBuffer.emit
      (.debug "receiveUDPMessageが実行開始されました。" [])).terminated call).debugCallback = true :=
    (terminated_debugCallback call).trans h
  obtain ⟨lib', hnotify, hwrites, receipts, hreceipts, hsize⟩ := notify_effect hset call.count
  refine ⟨lib', ?_, ?_, receipts, ?_, hsize⟩
  · rw [receiveUDPMessage_eq, Library.debug_of_set hcleared]
    exact hnotify
  · rw [hwrites, terminated_writes, Library.writes_emit]
    exact congrArg (· ++ [call.count]) (List.append_nil lib.writes)
  · rw [hreceipts, terminated_receipts, Library.receipts_emit]
    exact congrArg (· ++ receipts) (List.append_nil lib.receipts)

theorem start_of_set (h : lib.startCallback = true) (text : String) :
    lib.start text = .ok (lib.emit (.start text)) :=
  if_pos h

theorem debug_outgoing (h : lib.debugCallback = true) (text : String) (message : List UInt8) :
    ∃ lib', lib.debug text message = .ok lib' ∧ lib.Outgoing lib' :=
  ⟨_, Library.debug_of_set h text message, (Library.Outgoing.refl lib).emit ⟨rfl, rfl⟩⟩

theorem triggerCallback_outgoing (lib : Library) : lib.Outgoing (triggerCallback lib) := by
  unfold triggerCallback
  split
  · exact (Library.Outgoing.refl lib).emit ⟨rfl, rfl⟩
  · exact Library.Outgoing.refl lib

end calls

/-! ## One call -/

/-- What a call may add: bytes stored inside `buffer` and genuine receipts. -/
structure Library.Extends (lib lib' : Library) (call : Call) : Prop where
  writes : ∀ index ∈ lib'.writes, index ∈ lib.writes ∨ 0 ≤ index ∧ index ≤ 1023
  receipts : ∃ receipts, lib'.receipts = lib.receipts ++ receipts ∧
    ∀ receipt ∈ receipts, receipt.Genuine call

section step

variable {lib lib' : Library} {s t : Session} {call : Call}

-- The globals from which the events go out may differ from `lib` in what is not logged.
theorem Library.Outgoing.extends {mid : Library} (h : mid.Outgoing lib') (lib : Library)
    (hlog : mid.log = lib.log) (call : Call) : lib.Extends lib' call where
  writes index hindex := by
    rw [h.writes, Library.writes, hlog] at hindex
    exact .inl hindex
  receipts := ⟨[], by rw [h.receipts, List.append_nil, Library.receipts, hlog]; rfl,
    fun _ hmem => (by cases hmem)⟩

/-- `preReceiveUDPMessage` ends in one call of `debug_callback` or of `start_callback`. -/
theorem preReceiveUDPMessage_cases (lib : Library) (calls : PreReceiveCalls) (port : Int) :
    ∃ (mid : Library) (text : String), mid.log = lib.log ∧
      ((calls.socket < 0 ∨ calls.setsockopt < 0 ∨ calls.bind < 0) ∧
          mid.debugCallback = lib.debugCallback ∧
          preReceiveUDPMessage lib calls port = mid.debug text [] ∨
        ¬ (calls.socket < 0 ∨ calls.setsockopt < 0 ∨ calls.bind < 0) ∧
          mid.startCallback = lib.startCallback ∧
          preReceiveUDPMessage lib calls port = mid.start text) := by
  let opened : Library := { lib with sockfd := calls.socket }
  let bound : Library := { opened with servaddr := ⟨UInt16.ofInt port, 0⟩ }
  unfold preReceiveUDPMessage
  by_cases hsocket : calls.socket < 0
  · exact ⟨opened, _, rfl, .inl ⟨.inl hsocket, rfl, if_pos hsocket⟩⟩
  · by_cases hsetsockopt : calls.setsockopt < 0
    · exact ⟨opened, _, rfl, .inl ⟨.inr (.inl hsetsockopt), rfl,
        (if_neg hsocket).trans (if_pos hsetsockopt)⟩⟩
    · by_cases hbind : calls.bind < 0
      · exact ⟨bound, _, rfl, .inl ⟨.inr (.inr hbind), rfl,
          (if_neg hsocket).trans ((if_neg hsetsockopt).trans (if_pos hbind))⟩⟩
      · exact ⟨bound, _, rfl, .inr ⟨by omega, rfl,
          (if_neg hsocket).trans ((if_neg hsetsockopt).trans (if_neg hbind))⟩⟩

theorem preReceiveUDPMessage_extends {calls : PreReceiveCalls} {port : Int}
    (h : s.Careful (.preReceiveUDPMessage calls port)) :
    ∃ lib', preReceiveUDPMessage s.lib calls port = .ok lib' ∧
      s.lib.Extends lib' (.preReceiveUDPMessage calls port) := by
  obtain ⟨mid, text, hlog, ⟨hfail, hset, hrun⟩ | ⟨hfail, hset, hrun⟩⟩ :=
    preReceiveUDPMessage_cases s.lib calls port
  · have hdebug : mid.debugCallback = true := hset.trans ((if_pos hfail).mp h)
    obtain ⟨lib', hlib, hout⟩ := debug_outgoing hdebug text []
    exact ⟨lib', hrun.trans hlib, hout.extends s.lib hlog _⟩
  · have hstart : mid.startCallback = true := hset.trans ((if_neg hfail).mp h)
    refine ⟨_, hrun.trans (start_of_set hstart text), ?_⟩
    exact ((Library.Outgoing.refl mid).emit ⟨rfl, rfl⟩).extends s.lib hlog _

theorem receiveUDPMessage_extends {call : Recvfrom} (h : s.Careful (.receiveUDPMessage call)) :
    ∃ lib', receiveUDPMessage s.lib call = .ok lib' ∧
      s.lib.Extends lib' (.receiveUDPMessage call) := by
  obtain ⟨hdebug, hcall⟩ := h
  obtain ⟨lib', hrun, hwrites, receipts, hreceipts, hsize⟩ := receiveUDPMessage_effect hdebug call
  cases call with
  | failed => exact absurd rfl hcall
  | datagram data source =>
    have hcount := count_datagram data source
    refine ⟨lib', hrun, ?_, receipts, hreceipts, fun receipt hmem => ?_⟩
    · rw [hwrites]
      refine List.forall_mem_append.mpr ⟨fun index hold => .inl hold, ?_⟩
      exact List.forall_mem_singleton.mpr (.inr hcount)
    · exact ⟨⟨data, source, rfl⟩, hsize receipt hmem ▸ hcount⟩

theorem run_extends (h : s.Careful call) :
    ∃ lib', run s.lib call = .ok lib' ∧ s.lib.Extends lib' call := by
  cases call with
  | setCallback debug receive start =>
    have hout := triggerCallback_outgoing
      { s.lib with debugCallback := debug, receiveCallback := receive, startCallback := start }
    exact ⟨_, rfl, hout.extends s.lib rfl _⟩
  | triggerCallback => exact ⟨_, rfl, (triggerCallback_outgoing _).extends s.lib rfl _⟩
  | preReceiveUDPMessage calls port => exact preReceiveUDPMessage_extends h
  | receiveUDPMessage call => exact receiveUDPMessage_extends h
  | sendUDPMessage calls port message =>
    obtain ⟨lib', hrun, hout⟩ := sendUDPMessage_outgoing h calls port message
    exact ⟨lib', hrun, hout.extends s.lib rfl _⟩
  | socketClose =>
    exact ⟨_, rfl, ((Library.Outgoing.refl s.lib).emit ⟨rfl, rfl⟩).extends s.lib rfl _⟩

theorem Session.Safe.after (h : s.Safe) (hext : s.lib.Extends lib' call) :
    (s.after call (.ok lib')).Safe := by
  refine ⟨h.noNullCall, fun index hindex => ?_, fun entry hentry => ?_⟩
  · rcases hext.writes index hindex with hold | hnew
    · exact h.writes index hold
    · exact hnew
  · rcases List.mem_append.mp hentry with hold | hnew
    · exact h.receipts entry hold
    · obtain ⟨receipts, hreceipts, hgenuine⟩ := hext.receipts
      rcases List.mem_singleton.mp hnew with rfl
      rw [hreceipts, List.drop_left]
      exact hgenuine

-- When `recvfrom` fails, its -1 is the index that the terminator is stored at.
theorem not_safe_of_failed (hdebug : s.lib.debugCallback = true) :
    ¬ (s.after (.receiveUDPMessage .failed) (receiveUDPMessage s.lib .failed)).Safe := by
  obtain ⟨lib', hrun, hwrites, -⟩ := receiveUDPMessage_effect hdebug .failed
  rw [hrun]
  intro hsafe
  have hmem : -1 ∈ lib'.writes := by
    rw [hwrites]
    exact List.mem_append_right _ (List.mem_singleton.mpr rfl)
  exact absurd (hsafe.writes (-1) hmem).1 (by decide)

/-- A call that is not careful calls a null pointer, or stores its terminator at index -1. -/
theorem not_safe_of_not_careful (h : ¬ s.Careful call) :
    ¬ (s.after call (run s.lib call)).Safe := by
  have hfault : ∀ fault, run s.lib call = .error fault →
      ¬ (s.after call (run s.lib call)).Safe := by
    intro fault hrun hsafe
    rw [hrun] at hsafe
    cases hsafe.noNullCall
  cases call with
  | setCallback debug receive start => exact absurd trivial h
  | triggerCallback => exact absurd trivial h
  | socketClose => exact absurd trivial h
  | preReceiveUDPMessage calls port =>
    obtain ⟨mid, text, hlog, ⟨hfail, hset, hrun⟩ | ⟨hfail, hset, hrun⟩⟩ :=
      preReceiveUDPMessage_cases s.lib calls port
    · apply hfault .nullCallback
      refine hrun.trans (Library.debug_of_null ?_ text [])
      exact fun hdebug => h ((if_pos hfail).mpr (hset.symm.trans hdebug))
    · apply hfault .nullCallback
      refine hrun.trans (if_neg ?_)
      exact fun hstart => h ((if_neg hfail).mpr (hset.symm.trans hstart))
  | sendUDPMessage calls port message =>
    apply hfault .nullCallback
    change sendUDPMessage s.lib calls port message = _
    rw [sendUDPMessage, Library.debug_of_null h]
    rfl
  | receiveUDPMessage call =>
    by_cases hdebug : s.lib.debugCallback = true
    · have hfailed : call = .failed := by
        by_contra hne
        exact h ⟨hdebug, hne⟩
      rw [hfailed]
      exact not_safe_of_failed hdebug
    · apply hfault .nullCallback
      change receiveUDPMessage s.lib call = _
      have hcleared : ¬ s.lib.clearBuffer.debugCallback = true := hdebug
      rw [receiveUDPMessage_eq, Library.debug_of_null hcleared]
      rfl

end step

namespace Session

theorem safe_start : start.Safe :=
  ⟨rfl, fun _ hmem => (by cases hmem), fun _ hmem => (by cases hmem)⟩

theorem machine_next {s t : Session} {call : Call} (h : s.Safe)
    (hn : machine.next s call = some t) : t = s.after call (run s.lib call) := by
  simp only [machine, h.noNullCall, if_true, Option.some.injEq] at hn
  exact hn.symm

/-- A run is safe throughout exactly when every send and receive finds `debug_callback` set, no
`recvfrom` fails, and `preReceiveUDPMessage` finds the callback set that it ends with. -/
theorem safe_iff_careful (calls : List Call) :
    machine.Throughout Safe start calls ↔ machine.StepsMeet Careful start calls := by
  refine Machine.throughout_iff_stepsMeet (I := Safe) (fun _ h => h) ?_ ?_ safe_start calls
  · intro s call t hsafe hcareful hn
    obtain ⟨lib', hrun, hext⟩ := run_extends hcareful
    rw [machine_next hsafe hn, hrun]
    exact hsafe.after hext
  · intro s call t hsafe hcareless hn
    rw [machine_next hsafe hn]
    exact not_safe_of_not_careful hcareless

/-- Receiving on a socket that could not be bound: `recvfrom` fails, the terminator is stored in
front of `buffer` and `receive_callback` is told of -1 bytes. -/
theorem receive_after_failed_bind :
    (∃ s, machine.exec start [.setCallback true true true,
      .preReceiveUDPMessage ⟨3, 0, -1⟩ 6000, .receiveUDPMessage .failed] = some s ∧
      s.lib.writes = [-1] ∧ s.lib.receipts.map Receipt.size = [-1]) ∧
    ¬ ∀ s, machine.Reachable s → s.Safe := by
  have hrun : ∃ s, machine.exec start [.setCallback true true true,
      .preReceiveUDPMessage ⟨3, 0, -1⟩ 6000, .receiveUDPMessage .failed] = some s ∧
      s.lib.writes = [-1] ∧ s.lib.receipts.map Receipt.size = [-1] := ⟨_, rfl, rfl, rfl⟩
  refine ⟨hrun, ?_⟩
  obtain ⟨s, hexec, hwrites, -⟩ := hrun
  apply Machine.not_forall_reachable rfl hexec
  intro hsafe
  have hindex := hsafe.writes (-1) (hwrites ▸ List.mem_singleton.mpr rfl)
  exact absurd hindex.1 (by decide)

end Session

end ConnectUdp.Udp
