import ConnectUdp.Media.Lifecycle

/-!
# What the cycles leave behind

The accounts of the two pipelines, first with set-ups that may fail where `destroyDecoder` can
tell, then with set-ups that succeed.
-/

namespace ConnectUdp.Media

open Ownership Transition

/-- Every object has been destroyed exactly once, or is the one that an open cycle holds. -/
theorem Inv.accounted {s : State} (h : Inv s) (x : Site) {n : Nat}
    (hn : n < (s.globals.slot x).ledger.created) :
    (s.globals.slot x).ledger.destroyed.count n = 1 ∨
      s.isOpen x.init = true ∧ s.globals.pointer x = some n ∧
        (s.globals.slot x).ledger.destroyed.count n = 0 := by
  cases hopen : s.isOpen x.init with
  | false => exact .inl ((h.settled hopen).2 n hn)
  | true =>
    by_cases hmem : n ∈ (s.globals.slot x).ledger.destroyed
    · exact .inl (List.count_eq_one_of_mem (s.globals.slot x).ledger.nodup hmem)
    · exact .inr ⟨rfl, (h.owned x hopen n).mp ⟨hn, hmem⟩, List.count_eq_zero.mpr hmem⟩

/-! ## Set-ups that may fail -/

/-- In runs whose set-ups are careful no call uses a null or dead pointer or handle, and outside
its cycles a pipeline has released everything exactly once. -/
theorem careful_cycles_release {s : State} (h : machine.ReachableBy careful s) :
    s.fault = none ∧
      (∀ x, s.isOpen x.init = false → (s.globals.slot x).ledger.liveCount = 0 ∧
        ∀ n < (s.globals.slot x).ledger.created,
          (s.globals.slot x).ledger.destroyed.count n = 1) ∧
      s.globals.loader.refs = (s.isOpen .encodeVideo).toNat + (s.isOpen .decodeVideo).toNat :=
  have hinv := inv_of_careful h
  ⟨hinv.running, fun _ => hinv.settled, hinv.refs⟩

-- A receiver cycle whose `Initialize` fails, and one without a video stream.
def poorReceiver : List Act :=
  [.initDecodeVideoData ⟨true, .created, 1, false, false⟩, .initDecodeAudioData ⟨true, true, false⟩,
    .destroyDecoder,
    .initDecodeAudioData ⟨true, true, true⟩, .initDecodeVideoData ⟨true, .created, 0, true, false⟩,
    .destroyDecoder]

theorem careful_cycles_release_run : ∃ s, machine.exec start poorReceiver = some s ∧
    s.fault = none ∧ s.globals.loader.refs = 0 ∧
    (s.globals.slot .videoDecoder).ledger.created = 2 ∧
    (s.globals.slot .videoDecoder).ledger.liveCount = 0 := by
  have hsteps : machine.StepsMeet careful start poorReceiver := by decide
  obtain ⟨hfault, hsettled, hrefs⟩ :=
    careful_cycles_release ((Machine.ReachableBy.start rfl).of_exec hsteps rfl)
  exact ⟨_, rfl, hfault, hrefs, rfl, (hsettled .videoDecoder rfl).1⟩

/-- `dlopen` finds no library; `initEncodeVideoData` returns, and `destroyEncoder` calls
`Uninitialize` on a null pointer. -/
theorem destroyEncoder_null_run :
    (∃ s, machine.exec start [.initEncodeVideoData 1 ⟨false, .created, 0, true, true⟩,
      .initEncodeAudioData ⟨true, true, true⟩, .destroyEncoder] = some s ∧
      s.fault = some (.null .videoEncoder)) ∧ ¬ ∀ s, machine.Reachable s → s.fault = none := by
  have hrun : ∃ s, machine.exec start [.initEncodeVideoData 1 ⟨false, .created, 0, true, true⟩,
      .initEncodeAudioData ⟨true, true, true⟩, .destroyEncoder] = some s ∧
      s.fault = some (.null .videoEncoder) := ⟨_, rfl, rfl⟩
  refine ⟨hrun, ?_⟩
  obtain ⟨s, hexec, hfault⟩ := hrun
  apply Machine.not_forall_reachable rfl hexec
  rw [hfault]
  exact Option.some_ne_none _

/-! ## Set-ups that succeed -/

def allSucceed (_ : State) : Act → Prop
  | .initEncodeVideoData _ calls | .initDecodeVideoData calls => calls.AllSucceed
  | .initEncodeAudioData calls | .initDecodeAudioData calls => calls.AllSucceed
  | _ => True

instance allSucceed.decidable (s : State) : (a : Act) → Decidable (allSucceed s a)
  | .initEncodeVideoData _ calls | .initDecodeVideoData calls =>
    inferInstanceAs (Decidable calls.AllSucceed)
  | .initEncodeAudioData calls | .initDecodeAudioData calls =>
    inferInstanceAs (Decidable calls.AllSucceed)
  | .receiveAndDecodeVideoData .. | .receiveAndDecodeAudioData .. | .encodeVideoData ..
  | .encodeAudioData .. | .destroyEncoder | .destroyDecoder => .isTrue trivial

-- The receiver's streams exist in its open cycles.
def StreamsSet (s : State) : Prop :=
  (s.isOpen .decodeVideo = true → s.globals.pointer .receiveVideoStrm ≠ none) ∧
    (s.isOpen .decodeAudio = true → s.globals.pointer .receiveAudioStrm ≠ none)

theorem VideoCalls.AllSucceed.careful {calls : VideoCalls} (h : calls.AllSucceed) (m : Globals) :
    calls.Careful m := by
  obtain ⟨hopen, hcreate, hinit, hsess, -⟩ := h
  exact ⟨hopen, hcreate, by rw [if_pos hinit]; exact hsess⟩

theorem careful_of_allSucceed {s t : State} {a : Act} (hset : StreamsSet s)
    (hok : allSucceed s a) (hn : next s a = some t) : careful s a := by
  have hadmitted := (next_eq_some hn).1
  cases a with
  | initEncodeVideoData | initEncodeAudioData => exact hok
  | initDecodeVideoData calls => exact VideoCalls.AllSucceed.careful hok _
  | initDecodeAudioData calls => exact ⟨hok.1, hok.2.1⟩
  | receiveAndDecodeVideoData => exact hset.1 hadmitted
  | receiveAndDecodeAudioData => exact hset.2 hadmitted
  | encodeVideoData | encodeAudioData | destroyEncoder | destroyDecoder => trivial

-- Only its own init function opens a pipeline.
theorem isOpen_of_next {s t : State} {a : Act} (hn : next s a = some t) {i : Init}
    (h : t.isOpen i = true) : s.isOpen i = true ∨ (run s a).2 i = true := by
  obtain ⟨-, rfl⟩ := next_eq_some hn
  cases hrun : (run s a).1 with
  | ok m => rw [hrun] at h; exact .inr h
  | error fault => rw [hrun] at h; exact .inl h

theorem StreamsSet.next {s t : State} {a : Act} (hinv : Inv s) (hset : StreamsSet s)
    (hok : allSucceed s a) (hn : next s a = some t) : StreamsSet t := by
  have hkept := hinv.next (careful_of_allSucceed hset hok hn) hn
  obtain ⟨hadmitted, ht⟩ := next_eq_some hn
  constructor
  · intro ho
    by_cases hopen : s.isOpen .decodeVideo = true
    · rw [hkept.pointer .receiveVideoStrm hopen ho]
      exact hset.1 hopen
    · have hrun := (isOpen_of_next hn ho).resolve_left hopen
      cases a <;> simp [run, closing, hopen] at hrun
      case initDecodeVideoData calls =>
        obtain ⟨m', hcall, -, -, hslot⟩ := initDecodeVideoData_of_careful
          (VideoCalls.AllSucceed.careful hok s.globals)
          (hinv.idle_of_init (Bool.not_eq_true _ ▸ hopen))
        obtain ⟨-, -, hinit, -, hstream⟩ := hok
        rw [ht, run, hcall]
        change (m'.slot .receiveVideoStrm).pointer ≠ none
        rw [hslot]
        simp only [VideoCalls.assigned, if_pos hinit, hstream]
        exact Slot.assign_true_pointer
  · intro ho
    by_cases hopen : s.isOpen .decodeAudio = true
    · rw [hkept.pointer .receiveAudioStrm hopen ho]
      exact hset.2 hopen
    · have hrun := (isOpen_of_next hn ho).resolve_left hopen
      cases a <;> simp [run, closing, hopen] at hrun
      case initDecodeAudioData calls =>
        obtain ⟨m', hcall, -, -, hslot⟩ := initDecodeAudioData_of_careful hok.1 hok.2.1
          (hinv.idle_of_init (Bool.not_eq_true _ ▸ hopen))
        rw [ht, run, hcall]
        change (m'.slot .receiveAudioStrm).pointer ≠ none
        rw [hslot, if_pos (show Site.init .receiveAudioStrm = .decodeAudio from rfl), hok.2.2,
          Bool.or_true]
        exact Slot.assign_true_pointer

theorem careful_run_of_allSucceed {s : State} (h : machine.ReachableBy allSucceed s) :
    machine.ReachableBy careful s :=
  (Machine.ReachableBy.strengthen (I := StreamsSet)
    (forall_eq.mpr ⟨nofun, nofun⟩)
    (fun _ _ _ hreach hset hok hn => hset.next (inv_of_careful hreach) hok hn)
    (fun _ _ _ hset hok hn => careful_of_allSucceed hset hok hn) h).1

/-- When all set-ups succeed, no call uses a destroyed object or a closed handle, every object is
destroyed exactly once or still held by its open cycle, and where no cycle is open nothing is
left, however the cycles of the two pipelines interleave. -/
theorem all_released {s : State} (h : machine.ReachableBy allSucceed s) :
    s.fault = none ∧
      (∀ x, ∀ n < (s.globals.slot x).ledger.created,
        (s.globals.slot x).ledger.destroyed.count n = 1 ∨
          s.isOpen x.init = true ∧ s.globals.pointer x = some n ∧
            (s.globals.slot x).ledger.destroyed.count n = 0) ∧
      ((∀ i, s.isOpen i = false) →
        (∀ x, (s.globals.slot x).ledger.liveCount = 0 ∧
          ∀ n < (s.globals.slot x).ledger.created,
            (s.globals.slot x).ledger.destroyed.count n = 1) ∧
        s.globals.loader.refs = 0) := by
  have hinv := inv_of_careful (careful_run_of_allSucceed h)
  refine ⟨hinv.running, fun x n => hinv.accounted x, fun hclosed => ?_⟩
  refine ⟨fun x => hinv.settled (hclosed x.init), ?_⟩
  rw [hinv.refs, hclosed, hclosed]
  rfl

-- A receiver cycle that overlaps two sender cycles.
def overlappingCycles : List Act :=
  [.initEncodeAudioData ⟨true, true, true⟩, .initEncodeVideoData 1 ⟨true, .created, 0, true, true⟩,
    .initDecodeVideoData ⟨true, .created, 0, true, true⟩, .encodeVideoData 0 [.pushFrame 0],
    .destroyEncoder, .initDecodeAudioData ⟨true, true, true⟩,
    .initEncodeVideoData 1 ⟨true, .created, 0, true, true⟩, .receiveAndDecodeVideoData true true,
    .destroyDecoder, .initEncodeAudioData ⟨true, true, true⟩, .destroyEncoder]

theorem all_released_run : ∃ s, machine.exec start overlappingCycles = some s ∧
    s.fault = none ∧ (s.globals.slot .videoEncoder).ledger.created = 2 ∧
    (s.globals.slot .videoEncoder).ledger.liveCount = 0 ∧ s.globals.loader.refs = 0 := by
  have hsteps : machine.StepsMeet allSucceed start overlappingCycles := by decide
  obtain ⟨hfault, -, hrest⟩ := all_released ((Machine.ReachableBy.start rfl).of_exec hsteps rfl)
  obtain ⟨hsites, hrefs⟩ := hrest fun i => by cases i <;> rfl
  exact ⟨_, rfl, hfault, rfl, (hsites .videoEncoder).1, hrefs⟩

end ConnectUdp.Media
