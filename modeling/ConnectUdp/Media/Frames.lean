import ConnectUdp.Ownership
import ConnectUdp.Transition

/-!
# The RTP frames that the receiver pulls

`pull_frame` hands a frame over to its caller.  `receiveAndDecodeVideoData` gives it back on one
of its exits, `receiveAndDecodeAudioData` on none.
-/

namespace ConnectUdp.Frames

open Ownership Transition

inductive Event
  -- The decoder has read `payload_len` bytes of the frame.
  | decode (payloadLen : Nat)
  | receiveVideoCallback (size : Nat) (type : Int)
  | receiveAudioCallback (size : Nat) (type : Int)
  | debug (text : String)
  deriving DecidableEq, Repr

inductive Fault
  | null
  | deallocated
  deriving DecidableEq, Repr

/-- `frames` is the local pointer `frame` of the call that runs, with the ledger of all frames
that were handed over. -/
structure Receiver where
  frames : Slot
  log : List Event

namespace Receiver

def start : Receiver :=
  ⟨.empty, []⟩

def emit (r : Receiver) (event : Event) : Receiver :=
  { r with log := r.log ++ [event] }

-- `auto frame = strm->pull_frame(1000)`: null, or a frame with its `payload_len`.
def pullFrame (r : Receiver) (pull : Option Nat) : Receiver :=
  { r with frames := r.frames.assign pull.isSome }

-- `frame->payload` and `frame->payload_len`.
def use (r : Receiver) : Except Fault Unit :=
  if r.frames.Valid then .ok ()
  else .error (if r.frames.pointer = none then .null else .deallocated)

-- `frame::dealloc_frame(frame)`, which takes a null pointer too.
def deallocFrame (r : Receiver) : Except Fault Receiver :=
  if r.frames.pointer = none then .ok r
  else if r.frames.Valid then .ok { r with frames := r.frames.destroy }
  else .error .deallocated

end Receiver

/-- What `DecodeFrameNoDelay` returns and what it sets in `bufInfo`. -/
structure VideoDecode where
  ret : Int
  iBufferStatus : Int
  iWidth : Nat
  iHeight : Nat
  deriving DecidableEq, Repr

def VideoDecode.Picture (decode : VideoDecode) : Prop :=
  decode.ret = 0 ∧ decode.iBufferStatus = 1

instance VideoDecode.Picture.decidable (decode : VideoDecode) : Decidable decode.Picture :=
  inferInstanceAs (Decidable (_ ∧ _))

def receiveAndDecodeVideoData (r : Receiver) (pull : Option Nat) (decode : VideoDecode) :
    Except Fault Receiver := do
  let r := r.pullFrame pull
  if r.frames.pointer = none then
    return r.emit (.debug "RTPフレームの受信に失敗しました: video")
  r.use
  let r := r.emit (.decode (pull.getD 0))
  if decode.Picture then
    -- the picture is converted to RGBA and copied before the frame is given back
    let r := r.emit (.receiveVideoCallback (decode.iWidth * decode.iHeight * 4) 3)
    r.deallocFrame
  else
    return r.emit (.debug "デコードに失敗 or 1000msが経過: video")

-- `frameSize` is what `opus_decode` returns.
def receiveAndDecodeAudioData (r : Receiver) (pull : Option Nat) (frameSize : Int) :
    Except Fault Receiver := do
  let r := r.pullFrame pull
  if r.frames.pointer = none then
    return r.emit (.debug "RTPフレームの受信に失敗しました: audio")
  r.use
  let r := r.emit (.decode (pull.getD 0))
  if 0 ≤ frameSize then
    return r.emit (.receiveAudioCallback (frameSize.toNat * 2) 4)
  else
    return r.emit (.debug "デコードに失敗 or 1000msが経過: audio")

/-! ## Runs -/

structure State where
  receiver : Receiver
  fault : Option Fault

def start : State :=
  ⟨.start, none⟩

inductive Act
  | receiveAndDecodeVideoData (pull : Option Nat) (decode : VideoDecode)
  | receiveAndDecodeAudioData (pull : Option Nat) (frameSize : Int)
  deriving DecidableEq, Repr

def State.after (s : State) : Except Fault Receiver → State
  | .ok r => { s with receiver := r }
  | .error fault => { s with fault := some fault }

def run (r : Receiver) : Act → Except Fault Receiver
  | .receiveAndDecodeVideoData pull decode => receiveAndDecodeVideoData r pull decode
  | .receiveAndDecodeAudioData pull frameSize => receiveAndDecodeAudioData r pull frameSize

def machine : Machine State Act where
  init s := s = start
  next s a := if s.fault = none then some (s.after (run s.receiver a)) else none

/-- No frame was used or given back when it was gone, every frame handed over has been given back
exactly once, and none is left. -/
def Released (s : State) : Prop :=
  s.fault = none ∧
    (∀ x < s.receiver.frames.ledger.created, s.receiver.frames.ledger.destroyed.count x = 1) ∧
    s.receiver.frames.ledger.liveCount = 0

/-- The calls that leave no frame behind. -/
def GivesBack : Act → Prop
  | .receiveAndDecodeVideoData pull decode => pull = none ∨ decode.Picture
  | .receiveAndDecodeAudioData pull _ => pull = none

/-! ## What a call does to the frames -/

section call

variable {r : Receiver} {pull : Option Nat}

theorem use_of_valid (h : r.frames.Valid) : r.use = .ok () :=
  if_pos h

theorem deallocFrame_of_valid (h : r.frames.Valid) :
    r.deallocFrame = .ok { r with frames := r.frames.destroy } := by
  rw [Receiver.deallocFrame, if_neg h.pointer_ne_none, if_pos h]

theorem video_frames (h : r.frames.Idle) (decode : VideoDecode) :
    ∃ r', receiveAndDecodeVideoData r pull decode = .ok r' ∧ r'.frames =
      if pull = none then r.frames.assign false
      else if decode.Picture then (r.frames.assign true).destroy else r.frames.assign true := by
  cases pull with
  | none => exact ⟨_, rfl, rfl⟩
  | some payloadLen =>
    have hvalid : (r.pullFrame (some payloadLen)).frames.Valid := h.valid_assign
    unfold receiveAndDecodeVideoData
    rw [if_neg hvalid.pointer_ne_none, use_of_valid hvalid]
    by_cases hpicture : decode.Picture
    · simp only [hpicture, if_true, bind, Except.bind]
      rw [deallocFrame_of_valid (by exact hvalid)]
      exact ⟨_, rfl, rfl⟩
    · simp only [hpicture, if_false, bind, Except.bind]
      exact ⟨_, rfl, rfl⟩

theorem audio_frames (h : r.frames.Idle) (frameSize : Int) :
    ∃ r', receiveAndDecodeAudioData r pull frameSize = .ok r' ∧ r'.frames =
      if pull = none then r.frames.assign false else r.frames.assign true := by
  cases pull with
  | none => exact ⟨_, rfl, rfl⟩
  | some payloadLen =>
    have hvalid : (r.pullFrame (some payloadLen)).frames.Valid := h.valid_assign
    unfold receiveAndDecodeAudioData
    rw [if_neg hvalid.pointer_ne_none, use_of_valid hvalid]
    by_cases hsize : 0 ≤ frameSize
    · simp only [hsize, if_true, bind, Except.bind]
      exact ⟨_, rfl, rfl⟩
    · simp only [hsize, if_false, bind, Except.bind]
      exact ⟨_, rfl, rfl⟩

theorem idle_assign_false (h : r.frames.Idle) : (r.frames.assign false).Idle :=
  h

theorem not_idle_assign_true (h : r.frames.Idle) : ¬ (r.frames.assign true).Idle := by
  intro hidle
  obtain ⟨x, -, hlive⟩ := h.valid_assign
  exact hidle x hlive

/-- A call uses and gives back its frame at most once, and leaves it behind exactly when it is not
one of those that give it back. -/
theorem run_frames (h : r.frames.Idle) (a : Act) :
    ∃ r', run r a = .ok r' ∧ (r'.frames.Idle ↔ GivesBack a) := by
  cases a with
  | receiveAndDecodeVideoData pull decode =>
    obtain ⟨r', hrun, hframes⟩ := video_frames h decode
    refine ⟨r', hrun, ?_⟩
    rw [hframes, GivesBack]
    by_cases hpull : pull = none
    · rw [if_pos hpull]
      exact iff_of_true (idle_assign_false h) (.inl hpull)
    · by_cases hpicture : decode.Picture
      · rw [if_neg hpull, if_pos hpicture]
        exact iff_of_true (h.owned_assign true).idle_destroy (.inr hpicture)
      · rw [if_neg hpull, if_neg hpicture]
        exact iff_of_false (not_idle_assign_true h) (not_or.mpr ⟨hpull, hpicture⟩)
  | receiveAndDecodeAudioData pull frameSize =>
    obtain ⟨r', hrun, hframes⟩ := audio_frames h frameSize
    refine ⟨r', hrun, ?_⟩
    rw [hframes, GivesBack]
    by_cases hpull : pull = none
    · rw [if_pos hpull]
      exact iff_of_true (idle_assign_false h) hpull
    · rw [if_neg hpull]
      exact iff_of_false (not_idle_assign_true h) hpull

end call

/-! ## What a run leaves behind -/

structure Inv (s : State) : Prop where
  running : s.fault = none
  idle : s.receiver.frames.Idle

theorem inv_start : Inv start :=
  ⟨rfl, Slot.idle_empty⟩

theorem Inv.released {s : State} (h : Inv s) : Released s :=
  ⟨h.running, fun _ hx => Ledger.count_destroyed h.idle hx, Ledger.liveCount_eq_zero h.idle⟩

-- A frame that has been given back is not live.
theorem Released.idle {s : State} (h : Released s) : s.receiver.frames.Idle := by
  rintro x ⟨hlt, hlive⟩
  have hcount := h.2.1 x hlt
  rw [List.count_eq_zero_of_not_mem hlive] at hcount
  cases hcount

theorem next_iff {s t : State} {a : Act} (h : Inv s) (hn : machine.next s a = some t) :
    Inv t ↔ GivesBack a := by
  obtain ⟨r', hrun, hidle⟩ := run_frames h.idle a
  simp only [machine, h.running, if_true, hrun, State.after, Option.some.injEq] at hn
  rw [← hidle, ← hn]
  exact ⟨fun hinv => hinv.idle, fun hframes => ⟨rfl, hframes⟩⟩

/-- All frames of a run are given back, exactly once and before the function returns, if and only
if every pulled video frame completes a picture and no audio frame is ever pulled. -/
theorem released_iff_givesBack (as : List Act) : machine.Throughout Released start as ↔
    machine.StepsMeet (fun _ a => GivesBack a) start as := by
  refine Machine.throughout_iff_stepsMeet (I := Inv) (fun _ h => h.released) ?_ ?_ inv_start as
  · exact fun s a t h hok hn => (next_iff h hn).mpr hok
  · intro s a t h hno hn hreleased
    have hrunning : t.fault = none := hreleased.1
    exact hno ((next_iff h hn).mp ⟨hrunning, hreleased.idle⟩)

/-- A parameter set completes no picture and its frame stays behind; so does the frame of an audio
packet that is decoded and played. -/
theorem frames_left_run :
    (∃ s, machine.exec start [.receiveAndDecodeVideoData (some 20) ⟨0, 0, 0, 0⟩,
      .receiveAndDecodeAudioData (some 80) 960] = some s ∧
      s.receiver.frames.ledger.liveCount = 2) ∧ ¬ ∀ s, machine.Reachable s → Released s := by
  have hrun : ∃ s, machine.exec start [.receiveAndDecodeVideoData (some 20) ⟨0, 0, 0, 0⟩,
      .receiveAndDecodeAudioData (some 80) 960] = some s ∧
      s.receiver.frames.ledger.liveCount = 2 := ⟨_, rfl, rfl⟩
  refine ⟨hrun, ?_⟩
  obtain ⟨s, hexec, hlive⟩ := hrun
  apply Machine.not_forall_reachable rfl hexec
  intro hreleased
  rw [hreleased.2.2] at hlive
  cases hlive

end ConnectUdp.Frames
