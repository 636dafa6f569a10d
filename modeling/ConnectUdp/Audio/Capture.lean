import Mathlib.Logic.Basic
import ConnectUdp.Channel

/-!
# The audio capture queue of the sending programs

`recordCallback`, the loop of `sendAudio` and the end of `main` in `testSender.cpp`.  The loops of
`testEncoder.cpp` (`encodeAndSend`) and `testSenderJrtp.cpp` differ only in the call that takes the
encoded packet.  The three threads run one step at a time; `queueMutex` and the condition variable
are part of the state, so the interval in which `wait` has found its predicate false but has not
blocked yet is a state of its own.
-/

namespace ConnectUdp.Capture

open Transition

-- A block of `opus_int16` samples.
abbrev Block := List Int16

def channels : Nat := 1

inductive Thread
  | record
  | audio
  deriving DecidableEq, Repr

/-- Where the PortAudio thread is in `recordCallback`. -/
inductive RecordPc
  | outside
  | lock (samples : Block)
  | push (samples : Block)
  | notify
  | unlock
  deriving DecidableEq, Repr

/-- Where the audio thread is in the loop of `sendAudio`. -/
inductive AudioPc
  | lock
  -- Lock held, the predicate of `wait` is evaluated next.
  | predicate
  -- The predicate was false; lock still held, not blocked yet.
  | sleep
  | blocked
  -- Notified or woken spuriously; the lock is not reacquired yet.
  | woken
  | stopTest
  | front
  | unlock (samples : Block)
  | encode (samples : Block)
  | exited
  -- `front()` was called on an empty queue.
  | undefined
  deriving DecidableEq, Repr

inductive MainPc
  | running
  | stopStored
  | notified
  | joined
  deriving DecidableEq, Repr

structure State where
  sampleQueue : List Block
  queueMutex : Option Thread
  stopSignal : Bool
  record : RecordPc
  audio : AudioPc
  main : MainPc
  -- history of the run
  pushed : List Block
  encoded : List Block
  pushedAtExit : Option (List Block)
  deriving DecidableEq, Repr

def start : State where
  sampleQueue := []
  queueMutex := none
  stopSignal := false
  record := .outside
  audio := .lock
  main := .running
  pushed := []
  encoded := []
  pushedAtExit := none

/-! ## The steps of the three threads -/

/-- `notify_one` wakes the audio thread if it is blocked at this moment. -/
def notifyOne (s : State) : State :=
  if s.audio = .blocked then { s with audio := .woken } else s

-- PortAudio enters `recordCallback`; a null input buffer returns at once.
def recordCallback (s : State) (inputBuffer : Option (List Int16)) (framesPerBuffer : Nat) :
    Option State :=
  if s.record = .outside then
    match inputBuffer with
    | none => some s
    | some input => some { s with record := .lock (input.take (framesPerBuffer * channels)) }
  else none

def recordStep (s : State) : Option State :=
  match s.record with
  | .outside => none
  | .lock samples =>
    if s.queueMutex = none then
      some { s with queueMutex := some .record, record := .push samples }
    else none
  | .push samples =>
    some { s with
      sampleQueue := s.sampleQueue ++ [samples]
      pushed := s.pushed ++ [samples]
      record := .notify }
  | .notify => some { notifyOne s with record := .unlock }
  | .unlock => some { s with queueMutex := none, record := .outside }

def waitPredicate (s : State) : Bool :=
  !s.sampleQueue.isEmpty || s.stopSignal

def sendAudioStep (s : State) : Option State :=
  match s.audio with
  | .lock =>
    if s.queueMutex = none then
      some { s with queueMutex := some .audio, audio := .predicate }
    else none
  | .predicate =>
    if waitPredicate s then some { s with audio := .stopTest }
    else some { s with audio := .sleep }
  | .sleep => some { s with queueMutex := none, audio := .blocked }
  | .blocked => none
  | .woken =>
    if s.queueMutex = none then
      some { s with queueMutex := some .audio, audio := .predicate }
    else none
  | .stopTest =>
    if s.stopSignal && s.sampleQueue.isEmpty then
      -- `break` leaves the scope of the `unique_lock`
      some { s with queueMutex := none, audio := .exited, pushedAtExit := some s.pushed }
    else some { s with audio := .front }
  | .front =>
    match s.sampleQueue with
    | [] => some { s with audio := .undefined }
    | samples :: rest => some { s with sampleQueue := rest, audio := .unlock samples }
  | .unlock samples => some { s with queueMutex := none, audio := .encode samples }
  | .encode samples => some { s with encoded := s.encoded ++ [samples], audio := .lock }
  | .exited => none
  | .undefined => none

-- `stopSignal = true; notify_one(); join()`; `main` takes no lock.
def mainStep (s : State) : Option State :=
  match s.main with
  | .running => some { s with stopSignal := true, main := .stopStored }
  | .stopStored => some { notifyOne s with main := .notified }
  | .notified => if s.audio = .exited then some { s with main := .joined } else none
  | .joined => none

inductive Act
  | recordCallback (inputBuffer : Option (List Int16)) (framesPerBuffer : Nat)
  | record
  | audio
  | spuriousWake
  | main
  deriving DecidableEq, Repr

def next (s : State) : Act → Option State
  | .recordCallback inputBuffer framesPerBuffer => recordCallback s inputBuffer framesPerBuffer
  | .record => recordStep s
  | .audio => sendAudioStep s
  | .spuriousWake => if s.audio = .blocked then some { s with audio := .woken } else none
  | .main => mainStep s

def machine : Machine State Act where
  init s := s = start
  next := next

/-- The block popped under the lock and not yet encoded. -/
def AudioPc.held : AudioPc → List Block
  | .unlock samples => [samples]
  | .encode samples => [samples]
  | _ => []

-- The program points of the audio thread at which it owns `queueMutex`.
def AudioPc.owns : AudioPc → Bool
  | .predicate | .sleep | .stopTest | .front | .unlock _ | .undefined => true
  | _ => false

def RecordPc.owns : RecordPc → Bool
  | .push _ | .notify | .unlock => true
  | _ => false

/-! ## What one step can do -/

section notifyOne

variable (s : State)

@[simp] theorem notifyOne_sampleQueue : (notifyOne s).sampleQueue = s.sampleQueue := by
  unfold notifyOne; split <;> rfl

@[simp] theorem notifyOne_queueMutex : (notifyOne s).queueMutex = s.queueMutex := by
  unfold notifyOne; split <;> rfl

@[simp] theorem notifyOne_stopSignal : (notifyOne s).stopSignal = s.stopSignal := by
  unfold notifyOne; split <;> rfl

@[simp] theorem notifyOne_record : (notifyOne s).record = s.record := by
  unfold notifyOne; split <;> rfl

@[simp] theorem notifyOne_main : (notifyOne s).main = s.main := by
  unfold notifyOne; split <;> rfl

@[simp] theorem notifyOne_pushed : (notifyOne s).pushed = s.pushed := by
  unfold notifyOne; split <;> rfl

@[simp] theorem notifyOne_encoded : (notifyOne s).encoded = s.encoded := by
  unfold notifyOne; split <;> rfl

@[simp] theorem notifyOne_owns : (notifyOne s).audio.owns = s.audio.owns := by
  unfold notifyOne
  split
  · next hb => rw [hb]; rfl
  · rfl

theorem notifyOne_not_blocked : (notifyOne s).audio ≠ .blocked := by
  unfold notifyOne
  split
  · exact nofun
  · next hb => exact hb

/-- A notification only moves a blocked thread, and only to `woken`. -/
theorem notifyOne_audio {pc : AudioPc} (hpc : pc ≠ .woken) (h : (notifyOne s).audio = pc) :
    s.audio = pc := by
  unfold notifyOne at h
  split at h
  · exact absurd h.symm hpc
  · exact h

end notifyOne

inductive Step (s : State) : Act → State → Prop
  | callNull (framesPerBuffer : Nat) (hpc : s.record = .outside) :
      Step s (.recordCallback none framesPerBuffer) s
  | call (input : List Int16) (framesPerBuffer : Nat) (hpc : s.record = .outside) :
      Step s (.recordCallback (some input) framesPerBuffer)
        { s with record := .lock (input.take (framesPerBuffer * channels)) }
  | recordLock (samples : Block) (hpc : s.record = .lock samples) (hfree : s.queueMutex = none) :
      Step s .record { s with queueMutex := some .record, record := .push samples }
  | push (samples : Block) (hpc : s.record = .push samples) :
      Step s .record { s with
        sampleQueue := s.sampleQueue ++ [samples]
        pushed := s.pushed ++ [samples]
        record := .notify }
  | recordNotify (hpc : s.record = .notify) :
      Step s .record { notifyOne s with record := .unlock }
  | recordUnlock (hpc : s.record = .unlock) :
      Step s .record { s with queueMutex := none, record := .outside }
  | audioLock (hpc : s.audio = .lock ∨ s.audio = .woken) (hfree : s.queueMutex = none) :
      Step s .audio { s with queueMutex := some .audio, audio := .predicate }
  | proceed (hpc : s.audio = .predicate) (hp : waitPredicate s = true) :
      Step s .audio { s with audio := .stopTest }
  | decline (hpc : s.audio = .predicate) (hp : waitPredicate s = false) :
      Step s .audio { s with audio := .sleep }
  | block (hpc : s.audio = .sleep) :
      Step s .audio { s with queueMutex := none, audio := .blocked }
  | leave (hpc : s.audio = .stopTest) (hstop : s.stopSignal = true) (hempty : s.sampleQueue = []) :
      Step s .audio { s with
        queueMutex := none, audio := .exited, pushedAtExit := some s.pushed }
  | stay (hpc : s.audio = .stopTest) (hgo : s.stopSignal = false ∨ s.sampleQueue ≠ []) :
      Step s .audio { s with audio := .front }
  | underflow (hpc : s.audio = .front) (hempty : s.sampleQueue = []) :
      Step s .audio { s with audio := .undefined }
  | pop (samples : Block) (rest : List Block) (hpc : s.audio = .front)
      (hqueue : s.sampleQueue = samples :: rest) :
      Step s .audio { s with sampleQueue := rest, audio := .unlock samples }
  | audioUnlock (samples : Block) (hpc : s.audio = .unlock samples) :
      Step s .audio { s with queueMutex := none, audio := .encode samples }
  | encode (samples : Block) (hpc : s.audio = .encode samples) :
      Step s .audio { s with encoded := s.encoded ++ [samples], audio := .lock }
  | spuriousWake (hpc : s.audio = .blocked) : Step s .spuriousWake { s with audio := .woken }
  | store (hpc : s.main = .running) :
      Step s .main { s with stopSignal := true, main := .stopStored }
  | mainNotify (hpc : s.main = .stopStored) :
      Step s .main { notifyOne s with main := .notified }
  | join (hpc : s.main = .notified) (hexit : s.audio = .exited) :
      Step s .main { s with main := .joined }

theorem step_of_recordStep {s t : State} (hn : recordStep s = some t) : Step s .record t := by
  cases hpc : s.record <;> simp only [recordStep, hpc] at hn
  case outside => cases hn
  case lock samples =>
    split at hn <;> cases hn
    next hfree => exact .recordLock samples hpc hfree
  case push samples => cases hn; exact .push samples hpc
  case notify => cases hn; exact .recordNotify hpc
  case unlock => cases hn; exact .recordUnlock hpc

theorem step_of_sendAudioStep {s t : State} (hn : sendAudioStep s = some t) :
    Step s .audio t := by
  cases hpc : s.audio <;> simp only [sendAudioStep, hpc] at hn
  case lock =>
    split at hn <;> cases hn
    next hfree => exact .audioLock (.inl hpc) hfree
  case predicate =>
    split at hn <;> cases hn
    · next hp => exact .proceed hpc hp
    · next hp => exact .decline hpc (Bool.eq_false_iff.mpr hp)
  case sleep => cases hn; exact .block hpc
  case woken =>
    split at hn <;> cases hn
    next hfree => exact .audioLock (.inr hpc) hfree
  case stopTest =>
    split at hn <;> cases hn
    · next hstop =>
      rw [Bool.and_eq_true, List.isEmpty_iff] at hstop
      exact .leave hpc hstop.1 hstop.2
    · next hgo =>
      rw [Bool.and_eq_true, List.isEmpty_iff, not_and_or, Bool.not_eq_true] at hgo
      exact .stay hpc hgo
  case front =>
    split at hn <;> cases hn
    · next hempty => exact .underflow hpc hempty
    · next samples rest hqueue => exact .pop samples rest hpc hqueue
  case unlock samples => cases hn; exact .audioUnlock samples hpc
  case encode samples => cases hn; exact .encode samples hpc
  all_goals cases hn

theorem step_of_next {s t : State} {a : Act} (hn : next s a = some t) : Step s a t := by
  cases a with
  | recordCallback inputBuffer framesPerBuffer =>
    simp only [next, recordCallback] at hn
    split at hn
    · next hpc =>
      cases inputBuffer <;> cases hn
      · exact .callNull framesPerBuffer hpc
      · exact .call _ framesPerBuffer hpc
    · cases hn
  | record => exact step_of_recordStep hn
  | audio => exact step_of_sendAudioStep hn
  | spuriousWake =>
    simp only [next] at hn
    split at hn <;> cases hn
    next hpc => exact .spuriousWake hpc
  | main =>
    cases hpc : s.main <;> simp only [next, mainStep, hpc] at hn
    case running => cases hn; exact .store hpc
    case stopStored => cases hn; exact .mainNotify hpc
    case notified =>
      split at hn <;> cases hn
      next hexit => exact .join hpc hexit
    case joined => cases hn

end ConnectUdp.Capture
