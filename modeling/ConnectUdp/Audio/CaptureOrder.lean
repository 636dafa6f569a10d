import ConnectUdp.Audio.Capture

/-!
# Every captured block is encoded once and in order

The audio thread holds at most one block outside the lock, so the blocks pushed are those encoded,
then that one, then the queue.  The stop test runs under the lock with the queue in view, which is
why leaving the loop cannot drop queued audio.
-/

namespace ConnectUdp.Capture

open Transition

/-! ## The invariant -/

structure Inv (s : State) : Prop where
  order : s.pushed = s.encoded ++ s.audio.held ++ s.sampleQueue
  stopTest : s.audio = .stopTest → waitPredicate s = true
  front : s.audio = .front → s.sampleQueue ≠ []
  defined : s.audio ≠ .undefined
  exit : s.audio = .exited → s.stopSignal = true ∧ s.pushedAtExit = some s.encoded

theorem inv_start : Inv start where
  order := rfl
  stopTest h := by cases h
  front h := by cases h
  defined h := by cases h
  exit h := by cases h

-- A state whose audio thread is at none of the program points with an obligation.
theorem inv_of_order {t : State} (horder : t.pushed = t.encoded ++ t.audio.held ++ t.sampleQueue)
    (hstop : t.audio ≠ .stopTest) (hfront : t.audio ≠ .front) (hdef : t.audio ≠ .undefined)
    (hexit : t.audio ≠ .exited) : Inv t where
  order := horder
  stopTest h := absurd h hstop
  front h := absurd h hfront
  defined := hdef
  exit h := absurd h hexit

-- A notification moves no block and leaves every program point with an obligation alone.
theorem Inv.notifyOne {s : State} (h : Inv s) : Inv (notifyOne s) := by
  unfold Capture.notifyOne
  split
  · next hpc =>
    have horder := h.order
    rw [hpc] at horder
    exact inv_of_order horder nofun nofun nofun nofun
  · exact h

theorem Inv.step {s t : State} {a : Act} (h : Inv s) (hs : Step s a t) : Inv t := by
  have horder := h.order
  cases hs with
  | callNull => exact h
  | call | recordLock | recordUnlock | join =>
    exact ⟨h.order, h.stopTest, h.front, h.defined, h.exit⟩
  | push samples =>
    refine ⟨?_, fun _ => by simp [waitPredicate], fun _ => by simp, h.defined, h.exit⟩
    change s.pushed ++ [samples] = s.encoded ++ s.audio.held ++ (s.sampleQueue ++ [samples])
    rw [horder, List.append_assoc _ s.sampleQueue]
  | recordNotify | mainNotify =>
    have hw := h.notifyOne
    exact ⟨hw.order, hw.stopTest, hw.front, hw.defined, hw.exit⟩
  | audioLock hpc =>
    rcases hpc with hpc | hpc <;> rw [hpc] at horder <;>
      exact inv_of_order horder nofun nofun nofun nofun
  | proceed hpc hp =>
    rw [hpc] at horder
    exact ⟨horder, fun _ => hp, nofun, nofun, nofun⟩
  | decline hpc | block hpc | spuriousWake hpc =>
    rw [hpc] at horder
    exact inv_of_order horder nofun nofun nofun nofun
  | leave hpc hstop hempty =>
    -- the test is read under the lock, so what was pushed by now has been encoded
    rw [hpc] at horder
    have hall : s.pushed = s.encoded := by
      simpa only [hempty, AudioPc.held, List.append_nil] using horder
    exact ⟨horder, nofun, nofun, nofun, fun _ => ⟨hstop, congrArg some hall⟩⟩
  | stay hpc hgo =>
    -- the predicate still holds here, so if the stop test fails there is a block in the queue
    have hpred := h.stopTest hpc
    rw [hpc] at horder
    refine ⟨horder, nofun, fun _ hempty => ?_, nofun, nofun⟩
    change s.sampleQueue = [] at hempty
    rcases hgo with hgo | hgo
    · rw [waitPredicate, hempty, hgo] at hpred
      cases hpred
    · exact hgo hempty
  | underflow hpc hempty => exact absurd hempty (h.front hpc)
  | pop samples rest hpc hqueue =>
    rw [hpc, hqueue] at horder
    exact inv_of_order (by simpa [AudioPc.held] using horder) nofun nofun nofun nofun
  | audioUnlock samples hpc =>
    rw [hpc] at horder
    exact inv_of_order horder nofun nofun nofun nofun
  | encode samples hpc =>
    rw [hpc] at horder
    exact inv_of_order (by simpa [AudioPc.held] using horder) nofun nofun nofun nofun
  | store =>
    refine ⟨h.order, fun _ => ?_, h.front, h.defined, fun hx => ⟨rfl, (h.exit hx).2⟩⟩
    simp [waitPredicate]

theorem inv_of_reachable {s : State} (h : machine.Reachable s) : Inv s :=
  h.invariant (forall_eq.mpr inv_start)
    (fun _ _ _ hi hn => hi.step (step_of_next hn))

/-! ## Order, exactly-once encoding and the exit -/

/-- In every reachable state the blocks pushed are those encoded, then the one the audio thread
holds, then the queue; `front()` never meets an empty queue; and once the loop is left, everything
pushed before the exit has been encoded. -/
theorem pushed_eq_encoded_append {s : State} (h : machine.Reachable s) :
    s.pushed = s.encoded ++ s.audio.held ++ s.sampleQueue ∧
      s.audio.held.length ≤ 1 ∧
      s.audio ≠ .undefined ∧
      (s.audio = .exited → s.stopSignal = true ∧
        ∃ before, s.pushedAtExit = some before ∧ s.encoded = before ∧
          s.pushed = before ++ s.sampleQueue) := by
  have hinv := inv_of_reachable h
  refine ⟨hinv.order, ?_, hinv.defined, fun hexit => ?_⟩
  · cases s.audio <;> simp [AudioPc.held]
  · obtain ⟨hstop, hbefore⟩ := hinv.exit hexit
    refine ⟨hstop, s.encoded, hbefore, rfl, ?_⟩
    simpa only [hexit, AudioPc.held, List.append_nil] using hinv.order

-- Two blocks, the second pushed while the first is being encoded; the stop arrives with the
-- second still queued, and a third block after the exit.
def twoBlocksThenStop : List Act :=
  [.recordCallback (some [1]) 1, .record, .record, .record, .record,
    .audio, .audio, .audio, .audio, .audio,
    .recordCallback (some [2]) 1, .record, .record, .record, .record, .main, .main,
    .audio, .audio, .audio, .audio, .audio, .audio, .audio, .audio, .audio, .audio,
    .recordCallback (some [3]) 1, .record, .record]

theorem pushed_eq_encoded_append_run :
    ∃ s, machine.exec start twoBlocksThenStop = some s ∧ s.audio = .exited ∧
      s.encoded = [[1], [2]] ∧ s.sampleQueue = [[3]] ∧
      s.pushed = s.encoded ++ s.audio.held ++ s.sampleQueue ∧ s.stopSignal = true := by
  have hrun : machine.exec start twoBlocksThenStop = some
      { sampleQueue := [[3]], queueMutex := some .record, stopSignal := true, record := .notify,
        audio := .exited, main := .notified, pushed := [[1], [2], [3]],
        encoded := [[1], [2]], pushedAtExit := some [[1], [2]] } := by decide
  have h := pushed_eq_encoded_append ((Machine.Reachable.start (m := machine) rfl).of_exec hrun)
  exact ⟨_, hrun, rfl, rfl, rfl, h.1, (h.2.2.2 rfl).1⟩

/-! ## The queue as a channel -/

def toChannel (s : State) : Channel Block :=
  ⟨s.pushed, s.encoded⟩

/-- Pushing is sending, encoding is receiving, and no other step is visible. -/
theorem refines_channel : machine.Refines Channel.machine toChannel where
  init := forall_eq.mpr rfl
  step s a t hreach hn := by
    have horder := (inv_of_reachable hreach).order
    have hs := step_of_next hn
    cases hs with
    | push samples => exact Or.inr ⟨.send samples, rfl⟩
    | encode samples hpc =>
      refine Or.inr ⟨.receive, ?_⟩
      have hpending : (toChannel s).pending = samples :: s.sampleQueue := by
        rw [Channel.pending, toChannel, horder, hpc, AudioPc.held, List.append_assoc,
          List.drop_left, List.singleton_append]
      change (((toChannel s).pending).head?.map _) = _
      rw [hpending]
      rfl
    | recordNotify | mainNotify =>
      left
      change Channel.mk (notifyOne s).pushed (notifyOne s).encoded = toChannel s
      rw [notifyOne_pushed, notifyOne_encoded, toChannel]
    | _ => exact Or.inl rfl

/-- The encoder receives the captured blocks in callback order, none lost and none twice. -/
theorem encoded_ordered {s : State} (h : machine.Reachable s) : (toChannel s).Ordered :=
  Channel.ordered_of_reachable (refines_channel.reachable h)

end ConnectUdp.Capture
