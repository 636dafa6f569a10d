import ConnectUdp.RingBuffer
import ConnectUdp.Transition

/-!
# The reception flow

The receiver thread, the processing thread, `stop` and `pull_frame` of a flow.  The threads run one
step at a time.  The interval in which the processing thread has found the ring empty but does not
sleep yet is a state of its own.
-/

namespace ConnectUdp.Uvgrtp

open RingBuffer Transition

structure Slot where
  data : List UInt8
  read : Int
  deriving DecidableEq, Repr

-- What `recvfrom` finds in the socket.
inductive Reading
  | datagram (bytes : List UInt8)
  | interrupted
  | failed
  deriving DecidableEq, Repr

/-- Where the thread is in `receiver`. -/
inductive ReceiverPc
  | outer
  | poll
  | inner
  | recvfrom (nextWriteIndex : Int)
  | publish (nextWriteIndex : Int)
  | notify
  | exited
  deriving DecidableEq, Repr

/-- Where the thread is in `process_packet`. -/
inductive ProcessorPc (F : Type)
  | outer
  -- The test of `should_stop_` is over, the thread does not sleep yet.
  | wait
  | asleep
  | woken
  | drain
  | handle
  -- The frames the handlers made of the packet, on their way to the queue.
  | returning (frames : List F)
  | exited
  deriving DecidableEq, Repr

/-- Where the program is in `stop`. -/
inductive StopPc
  | running
  | stored
  | notified
  | receiverJoined
  | processorJoined
  | cleared
  deriving DecidableEq, Repr

structure Flow (σ ι F : Type) where
  ringSize : Nat
  payloadSize : Nat
  ring : Int → Slot
  ringReadIndex : Int
  lastRingWriteIndex : Int
  shouldStop : Bool
  receiver : ReceiverPc
  processor : ProcessorPc F
  stopper : StopPc
  -- the state of the handlers
  handlers : σ
  frames : List F
  -- history of the run
  received : List (List UInt8)
  handled : List (ι × List UInt8)
  pulled : List F

inductive FlowAct (ι : Type)
  | receiver
  | poll (ready : Bool)
  | pollFailed
  | recvfrom (reading : Reading)
  | processor
  -- The handlers run, reading the clock.
  | handle (input : ι)
  | spuriousWake
  | stop
  | pull
  deriving DecidableEq, Repr

namespace Flow

variable {σ ι F : Type}

def start (ringSize payloadSize : Nat) (handlers : σ) : Flow σ ι F where
  ringSize := ringSize
  payloadSize := payloadSize
  ring := fun _ => ⟨[], 0⟩
  ringReadIndex := -1
  lastRingWriteIndex := -1
  shouldStop := false
  receiver := .outer
  processor := .outer
  stopper := .running
  handlers := handlers
  frames := []
  received := []
  handled := []
  pulled := []

/-- `notify_one` and `notify_all` wake the processing thread if it sleeps at this moment. -/
def notify (s : Flow σ ι F) : Flow σ ι F :=
  match s.processor with
  | .asleep => { s with processor := .woken }
  | _ => s

def receiverStep (s : Flow σ ι F) : Option (Flow σ ι F) :=
  match s.receiver with
  | .outer =>
    if s.shouldStop then some { s with receiver := .exited }
    else some { s with receiver := .poll }
  | .inner =>
    if s.shouldStop then some { s with receiver := .notify }
    else some { s with receiver := .recvfrom (nextIndex s.ringSize s.lastRingWriteIndex) }
  | .publish nextWriteIndex =>
    some { s with lastRingWriteIndex := nextWriteIndex, receiver := .inner }
  | .notify => some { s.notify with receiver := .outer }
  | _ => none

def pollStep (s : Flow σ ι F) (ready : Bool) : Option (Flow σ ι F) :=
  match s.receiver with
  | .poll => some { s with receiver := if ready then .inner else .outer }
  | _ => none

def pollFailedStep (s : Flow σ ι F) : Option (Flow σ ι F) :=
  match s.receiver with
  | .poll => some { s with receiver := .exited }
  | _ => none

-- A datagram that is longer than the place is cut off; an empty one is not published.
def recvfromStep (s : Flow σ ι F) (reading : Reading) : Option (Flow σ ι F) :=
  match s.receiver with
  | .recvfrom i =>
    match reading with
    | .interrupted =>
      some { s with
        ring := Function.update s.ring i { s.ring i with read := 0 }
        receiver := .notify }
    | .failed =>
      some { s with
        ring := Function.update s.ring i { s.ring i with read := -1 }
        shouldStop := true
        receiver := .notify }
    | .datagram bytes =>
      let data := bytes.take s.payloadSize
      let ring := Function.update s.ring i ⟨data, data.length⟩
      if data.length = 0 then some { s with ring := ring, receiver := .notify }
      else some { s with ring := ring, received := s.received ++ [data], receiver := .publish i }
  | _ => none

def processorStep (s : Flow σ ι F) : Option (Flow σ ι F) :=
  match s.processor with
  | .outer =>
    if s.shouldStop then some { s with processor := .exited }
    else some { s with processor := .wait }
  | .wait => some { s with processor := .asleep }
  | .woken =>
    if s.shouldStop then some { s with processor := .exited }
    else some { s with processor := .drain }
  | .drain =>
    if s.ringReadIndex ≠ s.lastRingWriteIndex then
      some { s with
        ringReadIndex := nextIndex s.ringSize s.ringReadIndex
        processor := .handle }
    else some { s with processor := .outer }
  | .returning (frame :: frames) =>
    some { s with frames := s.frames ++ [frame], processor := .returning frames }
  | .returning [] =>
    some { s with
      ring := Function.update s.ring s.ringReadIndex { s.ring s.ringReadIndex with read := 0 }
      processor := .drain }
  | _ => none

def handleStep (handle : σ → ι → List UInt8 → σ × List F) (s : Flow σ ι F) (input : ι) :
    Option (Flow σ ι F) :=
  match s.processor with
  | .handle =>
    let slot := s.ring s.ringReadIndex
    if 0 < slot.read then
      let datagram := slot.data.take slot.read.toNat
      let (handlers, frames) := handle s.handlers input datagram
      some { s with
        handlers := handlers
        handled := s.handled ++ [(input, datagram)]
        processor := .returning frames }
    else some { s with processor := .drain }
  | _ => none

def spuriousWakeStep (s : Flow σ ι F) : Option (Flow σ ι F) :=
  match s.processor with
  | .asleep => some { s with processor := .woken }
  | _ => none

def stopStep (s : Flow σ ι F) : Option (Flow σ ι F) :=
  match s.stopper with
  | .running => some { s with shouldStop := true, stopper := .stored }
  | .stored => some { s.notify with stopper := .notified }
  | .notified =>
    match s.receiver with
    | .exited => some { s with stopper := .receiverJoined }
    | _ => none
  | .receiverJoined =>
    match s.processor with
    | .exited => some { s with stopper := .processorJoined }
    | _ => none
  | .processorJoined => some { s with frames := [], stopper := .cleared }
  | .cleared => none

-- `pull_frame`, which returns nothing once the flow is to stop.
def pullStep (s : Flow σ ι F) : Flow σ ι F :=
  match s.shouldStop, s.frames with
  | false, frame :: frames => { s with frames := frames, pulled := s.pulled ++ [frame] }
  | _, _ => s

def next (handle : σ → ι → List UInt8 → σ × List F) (s : Flow σ ι F) :
    FlowAct ι → Option (Flow σ ι F)
  | .receiver => s.receiverStep
  | .poll ready => s.pollStep ready
  | .pollFailed => s.pollFailedStep
  | .recvfrom reading => s.recvfromStep reading
  | .processor => s.processorStep
  | .handle input => s.handleStep handle input
  | .spuriousWake => s.spuriousWakeStep
  | .stop => s.stopStep
  | .pull => some s.pullStep

def machine (handle : σ → ι → List UInt8 → σ × List F) (handlers : σ) :
    Machine (Flow σ ι F) (FlowAct ι) where
  init s := ∃ ringSize payloadSize, 0 < ringSize ∧ s = start ringSize payloadSize handlers
  next := next handle

/-! ## The steps, one by one -/

variable {handle : σ → ι → List UInt8 → σ × List F}

/-- The steps of `next` with what enables each of them and the state it leads to. -/
inductive Step (handle : σ → ι → List UInt8 → σ × List F) (s : Flow σ ι F) :
    FlowAct ι → Flow σ ι F → Prop
  | leaveReceiver (hpc : s.receiver = .outer) (hstop : s.shouldStop = true) :
      Step handle s .receiver { s with receiver := .exited }
  | stayReceiver (hpc : s.receiver = .outer) (hstop : s.shouldStop = false) :
      Step handle s .receiver { s with receiver := .poll }
  | leaveReading (hpc : s.receiver = .inner) (hstop : s.shouldStop = true) :
      Step handle s .receiver { s with receiver := .notify }
  | read (hpc : s.receiver = .inner) (hstop : s.shouldStop = false) :
      Step handle s .receiver
        { s with receiver := .recvfrom (nextIndex s.ringSize s.lastRingWriteIndex) }
  | publish (i : Int) (hpc : s.receiver = .publish i) :
      Step handle s .receiver { s with lastRingWriteIndex := i, receiver := .inner }
  | notify (hpc : s.receiver = .notify) :
      Step handle s .receiver { s.notify with receiver := .outer }
  | pollReady (hpc : s.receiver = .poll) : Step handle s (.poll true) { s with receiver := .inner }
  | pollTimeout (hpc : s.receiver = .poll) :
      Step handle s (.poll false) { s with receiver := .outer }
  | pollFailed (hpc : s.receiver = .poll) :
      Step handle s .pollFailed { s with receiver := .exited }
  | interrupted (i : Int) (hpc : s.receiver = .recvfrom i) :
      Step handle s (.recvfrom .interrupted) { s with
        ring := Function.update s.ring i { s.ring i with read := 0 }
        receiver := .notify }
  | failed (i : Int) (hpc : s.receiver = .recvfrom i) :
      Step handle s (.recvfrom .failed) { s with
        ring := Function.update s.ring i { s.ring i with read := -1 }
        shouldStop := true
        receiver := .notify }
  | empty (i : Int) (bytes data : List UInt8) (hpc : s.receiver = .recvfrom i)
      (hdata : data = bytes.take s.payloadSize) (hempty : data.length = 0) :
      Step handle s (.recvfrom (.datagram bytes)) { s with
        ring := Function.update s.ring i ⟨data, data.length⟩
        receiver := .notify }
  | datagram (i : Int) (bytes data : List UInt8) (hpc : s.receiver = .recvfrom i)
      (hdata : data = bytes.take s.payloadSize) (hpos : data.length ≠ 0) :
      Step handle s (.recvfrom (.datagram bytes)) { s with
        ring := Function.update s.ring i ⟨data, data.length⟩
        received := s.received ++ [data]
        receiver := .publish i }
  | leaveProcessor (hpc : s.processor = .outer ∨ s.processor = .woken)
      (hstop : s.shouldStop = true) : Step handle s .processor { s with processor := .exited }
  | lieDown (hpc : s.processor = .outer) (hstop : s.shouldStop = false) :
      Step handle s .processor { s with processor := .wait }
  | fallAsleep (hpc : s.processor = .wait) :
      Step handle s .processor { s with processor := .asleep }
  | getUp (hpc : s.processor = .woken) (hstop : s.shouldStop = false) :
      Step handle s .processor { s with processor := .drain }
  | take (hpc : s.processor = .drain) (hne : s.ringReadIndex ≠ s.lastRingWriteIndex) :
      Step handle s .processor { s with
        ringReadIndex := nextIndex s.ringSize s.ringReadIndex
        processor := .handle }
  | drained (hpc : s.processor = .drain) (heq : s.ringReadIndex = s.lastRingWriteIndex) :
      Step handle s .processor { s with processor := .outer }
  | giveBack (frame : F) (frames : List F) (hpc : s.processor = .returning (frame :: frames)) :
      Step handle s .processor { s with
        frames := s.frames ++ [frame]
        processor := .returning frames }
  | free (hpc : s.processor = .returning []) :
      Step handle s .processor { s with
        ring := Function.update s.ring s.ringReadIndex { s.ring s.ringReadIndex with read := 0 }
        processor := .drain }
  | handle (input : ι) (datagram : List UInt8) (hpc : s.processor = .handle)
      (hread : 0 < (s.ring s.ringReadIndex).read)
      (hdatagram : datagram = (s.ring s.ringReadIndex).data.take
        (s.ring s.ringReadIndex).read.toNat) :
      Step handle s (.handle input) { s with
        handlers := (handle s.handlers input datagram).1
        handled := s.handled ++ [(input, datagram)]
        processor := .returning (handle s.handlers input datagram).2 }
  | skip (input : ι) (hpc : s.processor = .handle)
      (hread : ¬ 0 < (s.ring s.ringReadIndex).read) :
      Step handle s (.handle input) { s with processor := .drain }
  | spuriousWake (hpc : s.processor = .asleep) :
      Step handle s .spuriousWake { s with processor := .woken }
  | store (hpc : s.stopper = .running) :
      Step handle s .stop { s with shouldStop := true, stopper := .stored }
  | notifyAll (hpc : s.stopper = .stored) :
      Step handle s .stop { s.notify with stopper := .notified }
  | joinReceiver (hpc : s.stopper = .notified) (hexited : s.receiver = .exited) :
      Step handle s .stop { s with stopper := .receiverJoined }
  | joinProcessor (hpc : s.stopper = .receiverJoined) (hexited : s.processor = .exited) :
      Step handle s .stop { s with stopper := .processorJoined }
  | clear (hpc : s.stopper = .processorJoined) :
      Step handle s .stop { s with frames := [], stopper := .cleared }
  | pull (frame : F) (frames : List F) (hstop : s.shouldStop = false)
      (hframes : s.frames = frame :: frames) :
      Step handle s .pull { s with frames := frames, pulled := s.pulled ++ [frame] }
  | pullNothing : Step handle s .pull s

theorem step_of_receiverStep {s t : Flow σ ι F} (hn : s.receiverStep = some t) :
    Step handle s .receiver t := by
  rw [receiverStep] at hn
  split at hn
  next hpc =>
    split at hn
    next hstop =>
      cases hn
      exact .leaveReceiver hpc hstop
    next hstop =>
      cases hn
      exact .stayReceiver hpc (Bool.eq_false_iff.mpr hstop)
  next hpc =>
    split at hn
    next hstop =>
      cases hn
      exact .leaveReading hpc hstop
    next hstop =>
      cases hn
      exact .read hpc (Bool.eq_false_iff.mpr hstop)
  next i hpc =>
    cases hn
    exact .publish i hpc
  next hpc =>
    cases hn
    exact .notify hpc
  next => cases hn

theorem step_of_recvfromStep {s t : Flow σ ι F} {reading : Reading}
    (hn : s.recvfromStep reading = some t) : Step handle s (.recvfrom reading) t := by
  rw [recvfromStep] at hn
  split at hn
  swap
  · cases hn
  next i hpc =>
    cases reading with
    | interrupted =>
      cases hn
      exact .interrupted i hpc
    | failed =>
      cases hn
      exact .failed i hpc
    | datagram bytes =>
      dsimp only at hn
      split at hn
      next hempty =>
        cases hn
        exact .empty i bytes _ hpc rfl hempty
      next hpos =>
        cases hn
        exact .datagram i bytes _ hpc rfl hpos

theorem step_of_processorStep {s t : Flow σ ι F} (hn : s.processorStep = some t) :
    Step handle s .processor t := by
  rw [processorStep] at hn
  split at hn
  next hpc =>
    split at hn
    next hstop =>
      cases hn
      exact .leaveProcessor (.inl hpc) hstop
    next hstop =>
      cases hn
      exact .lieDown hpc (Bool.eq_false_iff.mpr hstop)
  next hpc =>
    cases hn
    exact .fallAsleep hpc
  next hpc =>
    split at hn
    next hstop =>
      cases hn
      exact .leaveProcessor (.inr hpc) hstop
    next hstop =>
      cases hn
      exact .getUp hpc (Bool.eq_false_iff.mpr hstop)
  next hpc =>
    split at hn
    next hne =>
      cases hn
      exact .take hpc hne
    next heq =>
      cases hn
      exact .drained hpc (not_not.mp heq)
  next frame frames hpc =>
    cases hn
    exact .giveBack frame frames hpc
  next hpc =>
    cases hn
    exact .free hpc
  next => cases hn

theorem step_of_stopStep {s t : Flow σ ι F} (hn : s.stopStep = some t) :
    Step handle s .stop t := by
  rw [stopStep] at hn
  split at hn
  next hpc =>
    cases hn
    exact .store hpc
  next hpc =>
    cases hn
    exact .notifyAll hpc
  next hpc =>
    split at hn
    next hexited =>
      cases hn
      exact .joinReceiver hpc hexited
    next => cases hn
  next hpc =>
    split at hn
    next hexited =>
      cases hn
      exact .joinProcessor hpc hexited
    next => cases hn
  next hpc =>
    cases hn
    exact .clear hpc
  next => cases hn

theorem step_of_next {s t : Flow σ ι F} {a : FlowAct ι} (hn : s.next handle a = some t) :
    Step handle s a t := by
  cases a with
  | receiver => exact step_of_receiverStep hn
  | poll ready =>
    rw [next, pollStep] at hn
    split at hn
    next hpc =>
      cases hn
      cases ready with
      | true => exact .pollReady hpc
      | false => exact .pollTimeout hpc
    next => cases hn
  | pollFailed =>
    rw [next, pollFailedStep] at hn
    split at hn
    next hpc =>
      cases hn
      exact .pollFailed hpc
    next => cases hn
  | recvfrom reading => exact step_of_recvfromStep hn
  | processor => exact step_of_processorStep hn
  | handle input =>
    rw [next, handleStep] at hn
    split at hn
    next hpc =>
      dsimp only at hn
      split at hn
      next hread =>
        cases hn
        exact .handle input _ hpc hread rfl
      next hread =>
        cases hn
        exact .skip input hpc hread
    next => cases hn
  | spuriousWake =>
    rw [next, spuriousWakeStep] at hn
    split at hn
    next hpc =>
      cases hn
      exact .spuriousWake hpc
    next => cases hn
  | stop => exact step_of_stopStep hn
  | pull =>
    rw [next, Option.some.injEq, pullStep] at hn
    split at hn
    next hstop hframes =>
      cases hn
      exact .pull _ _ hstop hframes
    next =>
      cases hn
      exact .pullNothing

end Flow

end ConnectUdp.Uvgrtp
