import ConnectUdp.Audio.CaptureOrder

/-!
# When the stop signal is lost

`main` stores `stopSignal` and notifies without `queueMutex`.  If both fall into the interval in
which the audio thread has found the predicate of `wait` false and has not blocked yet, the
notification reaches nobody and the thread blocks afterwards.  Every other interleaving is safe.
-/

namespace ConnectUdp.Capture

open Transition

/-! ## Mutual exclusion -/

-- `queueMutex` names the one thread that is inside its critical section.
structure Exclusive (s : State) : Prop where
  audio : s.queueMutex = some .audio ↔ s.audio.owns = true
  record : s.queueMutex = some .record ↔ s.record.owns = true

theorem exclusive_start : Exclusive start := by
  constructor <;> decide

theorem Exclusive.not_both {s : State} (h : Exclusive s) (ha : s.audio.owns = true) :
    s.record.owns = false := by
  by_contra hr
  rw [Bool.not_eq_false] at hr
  have hrecord := h.record.mpr hr
  rw [h.audio.mpr ha] at hrecord
  cases hrecord

theorem Exclusive.step {s t : State} {a : Act} (h : Exclusive s) (hs : Step s a t) :
    Exclusive t := by
  have ha := h.audio
  have hr := h.record
  cases hs with
  | callNull => exact h
  | call input framesPerBuffer hpc => rw [hpc] at hr; exact ⟨ha, hr⟩
  | recordLock samples hpc hfree =>
    rw [hfree] at ha
    exact ⟨⟨nofun, fun ho => nomatch ha.mpr ho⟩, ⟨fun _ => rfl, fun _ => rfl⟩⟩
  | push samples hpc => rw [hpc] at hr; exact ⟨ha, hr⟩
  | recordNotify hpc =>
    rw [hpc] at hr
    rw [← notifyOne_queueMutex s, ← notifyOne_owns s] at ha
    rw [← notifyOne_queueMutex s] at hr
    exact ⟨ha, hr⟩
  | recordUnlock hpc =>
    rw [hr.mpr (by rw [hpc]; rfl)] at ha
    exact ⟨⟨nofun, fun ho => nomatch ha.mpr ho⟩, ⟨nofun, nofun⟩⟩
  | audioLock hpc hfree =>
    rw [hfree] at hr
    exact ⟨⟨fun _ => rfl, fun _ => rfl⟩, ⟨nofun, fun ho => nomatch hr.mpr ho⟩⟩
  | proceed hpc | decline hpc | stay hpc | underflow hpc | pop _ _ hpc =>
    rw [hpc] at ha
    exact ⟨ha, hr⟩
  | block hpc | leave hpc | audioUnlock _ hpc =>
    rw [ha.mpr (by rw [hpc]; rfl)] at hr
    exact ⟨⟨nofun, nofun⟩, ⟨nofun, fun ho => nomatch hr.mpr ho⟩⟩
  | encode samples hpc => rw [hpc] at ha; exact ⟨ha, hr⟩
  | spuriousWake hpc => rw [hpc] at ha; exact ⟨ha, hr⟩
  | store | join => exact ⟨ha, hr⟩
  | mainNotify =>
    rw [← notifyOne_queueMutex s, ← notifyOne_owns s] at ha
    rw [← notifyOne_queueMutex s, ← notifyOne_record s] at hr
    exact ⟨ha, hr⟩

/-! ## The lost wake-up -/

/-- `main` is past its `notify_one` while the audio thread is blocked with an empty queue; a
notification that reached it would have moved it to `woken`. -/
def StopLost (s : State) : Prop :=
  (s.main = .notified ∨ s.main = .joined) ∧ s.audio = .blocked ∧ s.sampleQueue = []

instance (s : State) : Decidable (StopLost s) :=
  inferInstanceAs (Decidable (_ ∧ _))

/-- The step is not `main`'s `notify_one` in the interval between the false predicate and the
blocking of the audio thread. -/
def NotifyOutsideWindow (s : State) (a : Act) : Prop :=
  a = .main → s.main = .stopStored → s.audio ≠ .sleep

/-- Once the stop is notified outside the window, the audio thread neither blocks nor is about
to. -/
structure StopHeard (s : State) : Prop where
  stored : s.main ≠ .running → s.stopSignal = true
  awake : s.main = .notified ∨ s.main = .joined → s.audio ≠ .sleep ∧ s.audio ≠ .blocked

theorem StopHeard.not_lost {s : State} (h : StopHeard s) : ¬ StopLost s :=
  fun hlost => (h.awake hlost.1).2 hlost.2.1

theorem stopHeard_start : StopHeard start :=
  ⟨fun h => absurd rfl h, fun h => by rcases h with h | h <;> cases h⟩

theorem StopHeard.step {s t : State} {a : Act} (h : StopHeard s)
    (hok : NotifyOutsideWindow s a) (hs : Step s a t) : StopHeard t := by
  cases hs with
  | callNull => exact h
  | call | recordLock | push | recordUnlock => exact ⟨h.stored, h.awake⟩
  | recordNotify =>
    refine ⟨fun hm => ?_, fun hpast => ⟨fun hs => ?_, notifyOne_not_blocked s⟩⟩
    · change (notifyOne s).main ≠ .running at hm
      rw [notifyOne_main] at hm
      exact (notifyOne_stopSignal s).trans (h.stored hm)
    · change (notifyOne s).main = .notified ∨ (notifyOne s).main = .joined at hpast
      rw [notifyOne_main] at hpast
      exact (h.awake hpast).1 (notifyOne_audio s (by decide) hs)
  | decline hpc hp =>
    refine ⟨h.stored, fun hpast => ?_⟩
    -- past the notification the stored flag makes the predicate true
    have hm : s.main ≠ .running := by
      intro hrunning
      rw [show s.main = .running from hrunning] at hpast
      rcases hpast with hm | hm <;> cases hm
    rw [waitPredicate, h.stored hm, Bool.or_true] at hp
    cases hp
  | block hpc => exact ⟨h.stored, fun hpast => absurd hpc (h.awake hpast).1⟩
  | audioLock | proceed | leave | stay | underflow | pop | audioUnlock | encode | spuriousWake =>
    refine ⟨h.stored, fun _ => ⟨?_, ?_⟩⟩ <;> intro hpc <;> cases hpc
  | store => exact ⟨fun _ => rfl, fun hpast => by rcases hpast with hm | hm <;> cases hm⟩
  | mainNotify hpc =>
    have hstored : s.stopSignal = true := h.stored (by rw [hpc]; decide)
    exact ⟨fun _ => (notifyOne_stopSignal s).trans hstored,
      fun _ => ⟨fun hs => hok rfl hpc (notifyOne_audio s (by decide) hs), notifyOne_not_blocked s⟩⟩
  | join hpc =>
    have hstored : s.stopSignal = true := h.stored (by rw [hpc]; decide)
    exact ⟨fun _ => hstored, fun _ => h.awake (.inl hpc)⟩

/-- Unless `main` notifies inside the window, no run loses the stop signal. -/
theorem stop_heard_outside_window {s : State} (h : machine.ReachableBy NotifyOutsideWindow s) :
    ¬ StopLost s :=
  (h.invariant (I := StopHeard) (forall_eq.mpr stopHeard_start)
    (fun _ _ _ hi hok hn => hi.step hok (step_of_next hn))).not_lost

instance (s : State) (a : Act) : Decidable (NotifyOutsideWindow s a) :=
  inferInstanceAs (Decidable (_ → _ → _))

-- The audio thread is already blocked when the stop arrives, so the notification wakes it.
def blockedThenStop : List Act :=
  [.audio, .audio, .audio, .main, .main]

theorem stop_heard_outside_window_run :
    ∃ s, machine.exec start blockedThenStop = some s ∧ s.main = .notified ∧ s.audio = .woken ∧
      ¬ StopLost s := by
  have hrun : machine.exec start blockedThenStop =
      some { start with stopSignal := true, audio := .woken, main := .notified } := by decide
  exact ⟨_, hrun, rfl, rfl, stop_heard_outside_window
    ((Machine.ReachableBy.start (m := machine) rfl).of_exec (by decide) hrun)⟩

/-- The audio thread finds the predicate false, `main` stores the flag and notifies nobody, and
the audio thread blocks. -/
theorem stop_lost_run : ¬ ∀ s, machine.Reachable s → ¬ StopLost s := by
  have hrun : machine.exec start [.audio, .audio, .main, .main, .audio] =
      some { start with stopSignal := true, audio := .blocked, main := .notified } := by decide
  apply Machine.not_forall_reachable rfl hrun
  decide

/-! ## The window is exact -/

-- While the audio thread is about to block it owns the mutex, so the queue it found empty stays
-- empty.
structure WindowEmpty (s : State) : Prop where
  exclusive : Exclusive s
  empty : s.audio = .sleep → s.sampleQueue = []

theorem WindowEmpty.step {s t : State} {a : Act} (h : WindowEmpty s) (hs : Step s a t) :
    WindowEmpty t := by
  refine ⟨h.exclusive.step hs, fun hsleep => ?_⟩
  cases hs with
  | push samples hpc =>
    have howns : s.audio.owns = true := by rw [show s.audio = .sleep from hsleep]; rfl
    have hnot := h.exclusive.not_both howns
    rw [hpc] at hnot
    cases hnot
  | decline hpc hp =>
    rw [waitPredicate, Bool.or_eq_false_iff, Bool.not_eq_false', List.isEmpty_iff] at hp
    exact hp.1
  | recordNotify | mainNotify =>
    exact (notifyOne_sampleQueue s).trans (h.empty (notifyOne_audio s (by decide) hsleep))
  | callNull | call | recordLock | recordUnlock | store | join => exact h.empty hsleep
  | _ => cases hsleep

theorem windowEmpty_of_reachable {s : State} (h : machine.Reachable s) : WindowEmpty s :=
  h.invariant (forall_eq.mpr ⟨exclusive_start, fun h => by cases h⟩)
    (fun _ _ _ hi hn => hi.step (step_of_next hn))

/-- A notification inside the window loses the stop as soon as the audio thread blocks. -/
theorem stop_lost_inside_window {s t u : State} (h : machine.Reachable s)
    (hmain : s.main = .stopStored) (haudio : s.audio = .sleep)
    (ht : next s .main = some t) (hu : next t .audio = some u) : StopLost u := by
  have hqueue := (windowEmpty_of_reachable h).empty haudio
  have hnotify : notifyOne s = s := by
    unfold notifyOne
    rw [haudio]
    rfl
  simp only [next, mainStep, hmain, hnotify, Option.some.injEq] at ht
  subst ht
  simp only [next, sendAudioStep, haudio, Option.some.injEq] at hu
  subst hu
  exact ⟨Or.inl rfl, rfl, hqueue⟩

end ConnectUdp.Capture
