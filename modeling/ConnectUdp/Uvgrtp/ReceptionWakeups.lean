import ConnectUdp.Uvgrtp.ReceptionOrder

/-!
# Notifications that nobody hears

`process_packet` waits without a predicate, and the receiver and `stop` notify without the mutex.
A notification that falls between the last test of the processing thread and its sleep is lost.
-/

namespace ConnectUdp.Uvgrtp

open RingBuffer Transition

-- The ring has been found empty and will not be looked at again before the next notification.
def ProcessorPc.rests {F : Type} : ProcessorPc F → Bool
  | .outer | .wait | .asleep => true
  | _ => false

-- The ring will be looked at before the thread rests.
def ProcessorPc.awake {F : Type} : ProcessorPc F → Bool
  | .woken | .drain | .handle | .returning _ => true
  | .outer | .wait | .asleep | .exited => false

-- `notify_one` comes next, whatever else happens.
def ReceiverPc.willNotify : ReceiverPc → Bool
  | .inner | .recvfrom _ | .publish _ | .notify => true
  | _ => false

-- `stop` is past its notification and joins the threads.
def StopPc.waits : StopPc → Bool
  | .notified | .receiverJoined => true
  | _ => false

-- The processing thread will not test `should_stop_` before the next notification.
def ProcessorPc.blind {F : Type} : ProcessorPc F → Bool
  | .wait | .asleep => true
  | _ => false

namespace Flow

variable {σ ι F : Type} {handle : σ → ι → List UInt8 → σ × List F} {handlers : σ}
  {s t : Flow σ ι F} {a : FlowAct ι}

/-! ## Datagrams -/

-- While datagrams wait for a thread that rests, a notification is still to come.
def RestsNotified (s : Flow σ ι F) : Prop :=
  s.processor.rests = true → s.ringReadIndex ≠ s.lastRingWriteIndex → s.receiver.willNotify = true

/-- The receiver does not notify in the window in which the processing thread rests but does not
sleep yet, unless nothing has been published since. -/
def NotifyHeard (s : Flow σ ι F) (a : FlowAct ι) : Prop :=
  a = .receiver → s.receiver = .notify → s.processor = .outer ∨ s.processor = .wait →
    s.ringReadIndex = s.lastRingWriteIndex

theorem notify_processor (s : Flow σ ι F) : s.notify.processor ≠ .asleep ∧
    (s.notify.processor.rests = true → s.processor = .outer ∨ s.processor = .wait) := by
  cases hp : s.processor with
  | asleep =>
    have heq : s.notify = { s with processor := .woken } := by rw [notify, hp]
    rw [heq]
    constructor <;> intro h <;> cases h
  | outer | wait | woken | drain | handle | returning _ | exited =>
    have heq : s.notify = s := by rw [notify, hp]
    rw [heq, hp]
    constructor
    · intro h
      cases h
    · intro h
      first | exact .inl rfl | exact .inr rfl | cases h

theorem notify_indices (s : Flow σ ι F) :
    s.notify.ringReadIndex = s.ringReadIndex ∧
      s.notify.lastRingWriteIndex = s.lastRingWriteIndex ∧ s.notify.receiver = s.receiver := by
  rw [notify]
  split <;> exact ⟨rfl, rfl, rfl⟩

theorem notify_flags (s : Flow σ ι F) :
    s.notify.shouldStop = s.shouldStop ∧ s.notify.stopper = s.stopper := by
  rw [notify]
  split <;> exact ⟨rfl, rfl⟩

theorem notify_of_awake (h : s.processor = .outer ∨ s.processor = .wait) : s.notify = s := by
  rw [notify]
  rcases h with h | h <;> rw [h]

theorem RestsNotified.step (h : RestsNotified s) (hok : NotifyHeard s a) (hs : Step handle s a t) :
    RestsNotified t := by
  cases hs with
  | leaveReceiver hpc | stayReceiver hpc | leaveReading hpc | read hpc | pollReady hpc
  | pollTimeout hpc | pollFailed hpc | interrupted _ hpc | failed _ hpc | empty _ _ _ hpc
  | datagram _ _ _ hpc =>
    intro hrests hunread
    have hnotify := h hrests hunread
    rw [hpc] at hnotify
    first | rfl | cases hnotify
  | publish => exact fun _ _ => rfl
  | notify hpc =>
    intro hrests hunread
    have hwindow := (notify_processor s).2 hrests
    obtain ⟨hread, hwrite, -⟩ := notify_indices s
    exact absurd (hread.trans ((hok rfl hpc hwindow).trans hwrite.symm)) hunread
  | leaveProcessor | getUp | take | giveBack | free | handle | skip | spuriousWake =>
    exact fun hrests => by cases hrests
  | lieDown hpc | fallAsleep hpc =>
    intro _ hunread
    exact h (by rw [hpc]; rfl) hunread
  | drained hpc heq => exact fun _ hunread => absurd heq hunread
  | store | joinReceiver | joinProcessor | clear | pull => exact h
  | notifyAll hpc =>
    intro hrests hunread
    obtain ⟨hread, hwrite, hreceiver⟩ := notify_indices s
    have hwindow := (notify_processor s).2 hrests
    change s.notify.receiver.willNotify = true
    rw [hreceiver]
    refine h (by rcases hwindow with hp | hp <;> rw [hp] <;> rfl) fun heq => hunread ?_
    exact hread.trans (heq.trans hwrite.symm)
  | pullNothing => exact h

theorem restsNotified_start (ringSize payloadSize : Nat) (handlers : σ) :
    RestsNotified (start ringSize payloadSize handlers : Flow σ ι F) :=
  fun _ hunread => absurd rfl hunread

-- A thread has only left its loop when it was to stop.
structure AttendedInv (s : Flow σ ι F) : Prop where
  rests : s.shouldStop = false → RestsNotified s
  exited : s.processor = .exited → s.shouldStop = true

theorem shouldStop_of_step (hs : Step handle s a t) (h : s.shouldStop = true) :
    t.shouldStop = true := by
  cases hs with
  | notify | notifyAll => exact (notify_flags s).1.trans h
  | failed | store => rfl
  | _ => exact h

theorem exited_of_step (hs : Step handle s a t) (h : t.processor = .exited) :
    s.processor = .exited ∨ s.shouldStop = true := by
  cases hs with
  | leaveProcessor _ hstop => exact .inr hstop
  | notify | notifyAll =>
    left
    have hnotify : s.notify.processor = .exited := h
    rw [notify] at hnotify
    split at hnotify
    · cases hnotify
    · exact hnotify
  | lieDown | fallAsleep | getUp | take | drained | giveBack | free | handle | skip
  | spuriousWake => cases h
  | _ => exact .inl h

theorem AttendedInv.step (h : AttendedInv s) (hok : s.shouldStop = false → NotifyHeard s a)
    (hs : Step handle s a t) : AttendedInv t := by
  constructor
  · intro hstop
    have hbefore : s.shouldStop = false := by
      rw [Bool.eq_false_iff]
      intro htrue
      rw [shouldStop_of_step hs htrue] at hstop
      cases hstop
    exact (h.rests hbefore).step (hok hbefore) hs
  · intro hexited
    apply shouldStop_of_step hs
    exact (exited_of_step hs hexited).elim h.exited id

/-- When both threads rest everything that was received has been handled. -/
theorem all_handled_at_rest
    (h : (machine handle handlers).ReachableBy (fun s a => RoomOk s a ∧ NotifyHeard s a) s)
    (hprocessor : s.processor.rests = true) (hreceiver : s.receiver.willNotify = false) :
    s.handled.map Prod.snd = s.received := by
  have hattended : RestsNotified s := by
    refine h.invariant ?_ fun _ _ _ hi hok hn => hi.step hok.2 (step_of_next hn)
    rintro s ⟨ringSize, payloadSize, -, rfl⟩
    exact restsNotified_start ringSize payloadSize handlers
  have hring : RingInv s := ringInv_of_reachable (h.mono fun _ _ hok => hok.1)
  have hindices : s.ringReadIndex = s.lastRingWriteIndex := by
    by_contra hunread
    rw [hattended hprocessor hunread] at hreceiver
    cases hreceiver
  refine hring.handled_eq hindices ?_ ?_
  · match hpc : s.processor with
    | .handle => rw [hpc] at hprocessor; cases hprocessor
    | .outer | .wait | .asleep | .woken | .drain | .returning _ | .exited => rfl
  · match hpc : s.receiver with
    | .publish _ => rw [hpc] at hreceiver; cases hreceiver
    | .outer | .poll | .inner | .recvfrom _ | .notify | .exited => rfl

instance NotifyHeard.decidable [DecidableEq ι] [DecidableEq F] (s : Flow σ ι F) (a : FlowAct ι) :
    Decidable (NotifyHeard s a) :=
  inferInstanceAs (Decidable (_ → _ → _ → _))

-- The processing thread sleeps before the datagram comes and again when it has handled it.
def oneDatagram : List (FlowAct Unit) :=
  [.processor, .processor, .receiver, .poll true, .receiver, .recvfrom (.datagram [1, 2]),
    .receiver, .receiver, .recvfrom .interrupted, .receiver, .processor, .processor, .handle (),
    .processor, .processor, .processor, .processor, .processor]

theorem all_handled_at_rest_oneDatagram :
    ∃ s, (machine echo ()).exec (start 4 10 ()) oneDatagram = some s ∧
      s.processor = .asleep ∧ s.received = [[1, 2]] ∧ s.handled.map Prod.snd = s.received := by
  have hrun : ((machine echo ()).exec (start 4 10 ()) oneDatagram).map
      (fun s => (s.processor, s.receiver, s.received)) =
        some (.asleep, .outer, [[1, 2]]) := by
    decide
  obtain ⟨s, hs, hresult⟩ := Option.map_eq_some_iff.mp hrun
  obtain ⟨hprocessor, hreceiver, hreceived⟩ := Prod.ext_iff.mp hresult |>.imp_right Prod.ext_iff.mp
  have hsteps : (machine echo ()).StepsMeet (fun s a => RoomOk s a ∧ NotifyHeard s a)
      (start 4 10 ()) oneDatagram := by
    decide
  have hinit : (machine echo ()).init (start 4 10 ()) := ⟨4, 10, by decide, rfl⟩
  refine ⟨s, hs, hprocessor, hreceived, all_handled_at_rest
    ((Machine.ReachableBy.start hinit).of_exec hsteps hs) ?_ ?_⟩
  · rw [show s.processor = .asleep from hprocessor]
    rfl
  · rw [show s.receiver = .outer from hreceiver]
    rfl

/-! ## The end -/

/-- While `stop` waits for a thread that does not see it, a notification is still to come. -/
def StopSeen (s : Flow σ ι F) : Prop :=
  s.stopper.waits = true → s.processor.blind = true → s.receiver.willNotify = true

/-- Neither `stop` nor, after it, the receiver notifies when the processing thread has tested
`should_stop_` and does not sleep yet, unless the receiver will notify once more. -/
def StopNotified (s : Flow σ ι F) (a : FlowAct ι) : Prop :=
  s.processor = .wait →
    (a = .stop → s.stopper = .stored → s.receiver.willNotify = true) ∧
      (a = .receiver → s.receiver = .notify → s.stopper.waits = false)

structure StopInv (s : Flow σ ι F) : Prop where
  stored : s.stopper ≠ .running → s.shouldStop = true
  seen : StopSeen s

theorem notify_blind (s : Flow σ ι F) (h : s.notify.processor.blind = true) :
    s.processor = .wait := by
  obtain ⟨hasleep, hawake⟩ := notify_processor s
  match hpc : s.notify.processor with
  | .wait =>
    rcases hawake (by rw [hpc]; rfl) with hp | hp
    · rw [notify_of_awake (.inl hp), hp] at hpc
      cases hpc
    · exact hp
  | .asleep => exact absurd hpc hasleep
  | .outer | .woken | .drain | .handle | .returning _ | .exited => rw [hpc] at h; cases h

theorem StopInv.step (h : StopInv s) (hok : StopNotified s a) (hs : Step handle s a t) :
    StopInv t := by
  cases hs with
  | leaveReceiver hpc | stayReceiver hpc | leaveReading hpc | read hpc | pollReady hpc
  | pollTimeout hpc | pollFailed hpc | interrupted _ hpc | empty _ _ _ hpc
  | datagram _ _ _ hpc =>
    refine ⟨h.stored, fun hwaits hblind => ?_⟩
    have hnotify := h.seen hwaits hblind
    rw [hpc] at hnotify
    first | rfl | cases hnotify
  | failed => exact ⟨fun _ => rfl, fun _ _ => rfl⟩
  | publish => exact ⟨h.stored, fun _ _ => rfl⟩
  | notify hpc =>
    obtain ⟨hstop, hstopper⟩ := notify_flags s
    refine ⟨fun hne => hstop.trans (h.stored fun heq => hne (hstopper.trans heq)),
      fun hwaits hblind => ?_⟩
    have hfalse := (hok (notify_blind s hblind)).2 rfl hpc
    change s.notify.stopper.waits = true at hwaits
    rw [hstopper, hfalse] at hwaits
    cases hwaits
  | leaveProcessor | getUp | take | drained | giveBack | free | handle | skip | spuriousWake =>
    exact ⟨h.stored, fun _ hblind => by cases hblind⟩
  | lieDown hpc hstop =>
    refine ⟨h.stored, fun hwaits _ => ?_⟩
    have hrunning : s.stopper ≠ .running := by
      intro hst
      change s.stopper.waits = true at hwaits
      rw [hst] at hwaits
      cases hwaits
    rw [h.stored hrunning] at hstop
    cases hstop
  | fallAsleep hpc => exact ⟨h.stored, fun hwaits _ => h.seen hwaits (by rw [hpc]; rfl)⟩
  | store => exact ⟨fun _ => rfl, fun hwaits => by cases hwaits⟩
  | notifyAll hpc =>
    obtain ⟨hstop, -⟩ := notify_flags s
    refine ⟨fun _ => hstop.trans (h.stored (by rw [hpc]; nofun)), fun _ hblind => ?_⟩
    change s.notify.receiver.willNotify = true
    rw [(notify_indices s).2.2]
    exact (hok (notify_blind s hblind)).1 rfl hpc
  | joinReceiver hpc =>
    exact ⟨fun _ => h.stored (by rw [hpc]; nofun), fun _ => h.seen (by rw [hpc]; rfl)⟩
  | joinProcessor hpc | clear hpc =>
    exact ⟨fun _ => h.stored (by rw [hpc]; nofun), fun hwaits => by cases hwaits⟩
  | pull => exact ⟨h.stored, h.seen⟩
  | pullNothing => exact h

theorem not_stopSeen_of_unheard (hok : ¬ StopNotified s a) (hs : Step handle s a t) :
    ¬ StopSeen t := by
  simp only [StopNotified, Classical.not_imp, not_and_or, Bool.not_eq_true,
    Bool.not_eq_false] at hok
  obtain ⟨hwait, ⟨rfl, hpc, hnever⟩ | ⟨rfl, hpc, hwaits⟩⟩ := hok
  · cases hs with
    | store hpc' | joinReceiver hpc' | joinProcessor hpc' | clear hpc' =>
      rw [hpc] at hpc'
      cases hpc'
    | notifyAll =>
      intro hseen
      rw [notify_of_awake (.inr hwait)] at hseen
      have hnotify := hseen rfl (by rw [show s.processor = .wait from hwait]; rfl)
      exact Bool.false_ne_true (hnever.symm.trans hnotify)
  · cases hs with
    | leaveReceiver hpc' | stayReceiver hpc' | leaveReading hpc' | read hpc' | publish _ hpc' =>
      rw [hpc] at hpc'
      cases hpc'
    | notify =>
      intro hseen
      rw [notify_of_awake (.inr hwait)] at hseen
      cases hseen hwaits (by rw [show s.processor = .wait from hwait]; rfl)

/-- `stop` is seen throughout a run exactly when no last notification falls into the window. -/
theorem stopSeen_iff_notified (handle : σ → ι → List UInt8 → σ × List F)
    (ringSize payloadSize : Nat) (handlers : σ) (as : List (FlowAct ι)) :
    (machine handle handlers).Throughout StopSeen (start ringSize payloadSize handlers) as ↔
      (machine handle handlers).StepsMeet StopNotified (start ringSize payloadSize handlers) as :=
  Machine.throughout_iff_stepsMeet (m := machine handle handlers) (I := StopInv)
    (fun _ h => h.seen) (fun _ _ _ h hok hn => h.step hok (step_of_next hn))
    (fun _ _ _ _ hok hn => not_stopSeen_of_unheard hok (step_of_next hn))
    ⟨fun hne => absurd rfl hne, fun hwaits => by cases hwaits⟩ as

end Flow

end ConnectUdp.Uvgrtp
