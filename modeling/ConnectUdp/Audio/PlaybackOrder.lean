import Mathlib.Data.List.GetD
import ConnectUdp.Audio.Playback

/-!
# Every decoded block is played once and in order

The copy in `playbackCallback` trusts the length of the queued block, so the bound of the output
buffer is an invariant of the other thread: every block it pushes has `frameSize * channels`
samples, whatever the codec returned.
-/

namespace ConnectUdp.Playback

open Transition

variable {δ : Type} {r : Receiver} {codec : OpusDecoder δ} {decoder : δ}

/-! ## Decoded blocks -/

theorem decodedVector_length {pcm : List Int16} (h : pcm.length ≤ frameSize * channels) :
    (decodedVector pcm).length = frameSize * channels := by
  rw [decodedVector, List.length_append, List.length_drop, List.length_replicate]
  omega

-- What the codec has stored comes first.
theorem decodedVector_take (pcm : List Int16) : (decodedVector pcm).take pcm.length = pcm := by
  rw [decodedVector, List.take_left]

theorem decodeFrame_length {d d' : δ} {frame : Option (List UInt8)} {block : Block}
    (h : decodeFrame r codec d frame = (d', some block)) :
    block.length = frameSize * channels := by
  unfold decodeFrame at h
  split at h
  · cases h
  · next payload _ =>
    simp only [Prod.mk.injEq] at h
    obtain ⟨-, hblock⟩ := h
    split at hblock
    · cases hblock
      exact decodedVector_length (codec.stored_le d payload frameSize)
    · cases hblock

theorem decoderAfter_append (d : δ) (frames : List (Option (List UInt8)))
    (frame : Option (List UInt8)) :
    decoderAfter r codec d (frames ++ [frame]) =
      (decodeFrame r codec (decoderAfter r codec d frames) frame).1 := by
  simp only [decoderAfter, List.foldl_append, List.foldl_cons, List.foldl_nil]

theorem decodedBlocks_append (d : δ) (frames : List (Option (List UInt8)))
    (frame : Option (List UInt8)) :
    decodedBlocks r codec d (frames ++ [frame]) = decodedBlocks r codec d frames ++
      (decodeFrame r codec (decoderAfter r codec d frames) frame).2.toList := by
  induction frames generalizing d with
  | nil => simp only [List.nil_append, decodedBlocks, decoderAfter, List.foldl_nil,
      List.append_nil]
  | cons f fs ih =>
    rw [List.cons_append, decodedBlocks, decodedBlocks, ih, List.append_assoc]
    rfl

/-! ## What one step can do -/

inductive Step (r : Receiver) (codec : OpusDecoder δ) (s : State δ) : Act → State δ → Prop
  | pull (frame : Option (List UInt8)) (hpc : s.receive = .loop) (hmay : mayPull r s = true) :
      Step r codec s (.pull frame) { s with receive := .decode frame }
  | decoded (frame : Option (List UInt8)) (d : δ) (block : Block)
      (hpc : s.receive = .decode frame)
      (hdecode : decodeFrame r codec s.decoder frame = (d, some block)) :
      Step r codec s .receive { s with decoder := d, receive := .push frame block }
  | dropped (frame : Option (List UInt8)) (d : δ) (hpc : s.receive = .decode frame)
      (hdecode : decodeFrame r codec s.decoder frame = (d, none)) :
      Step r codec s .receive { s with
        decoder := d, receive := .loop, handled := s.handled ++ [frame] }
  | push (frame : Option (List UInt8)) (block : Block) (hpc : s.receive = .push frame block) :
      Step r codec s .receive { s with
        playbackQueue := s.playbackQueue ++ [block]
        receive := .loop
        handled := s.handled ++ [frame] }
  | leave (hpc : s.receive = .loop) (hstop : s.stopSignal = true) :
      Step r codec s .leave { s with receive := .finished }
  | play (front : Block) (rest : List Block) (hqueue : s.playbackQueue = front :: rest) :
      Step r codec s .playback { s with
        playbackQueue := rest
        calls := s.calls ++ [⟨front :: rest, front, false⟩] }
  | silence (hqueue : s.playbackQueue = []) :
      Step r codec s .playback { s with
        playbackQueue := []
        calls := s.calls ++ [⟨[], List.replicate (frameSize * channels) 0, true⟩] }
  | stop : Step r codec s .stop { s with stopSignal := true }

theorem step_of_next {s t : State δ} {a : Act} (hn : next r codec s a = some t) :
    Step r codec s a t := by
  cases a with
  | pull frame =>
    simp only [next] at hn
    split at hn <;> cases hn
    next h => exact .pull frame h.1 h.2
  | receive =>
    cases hpc : s.receive <;> simp only [next, receiveStep, hpc] at hn
    case decode frame =>
      rcases hdecode : decodeFrame r codec s.decoder frame with ⟨d, _ | block⟩ <;>
        rw [hdecode] at hn <;> cases hn
      · exact .dropped frame d hpc hdecode
      · exact .decoded frame d block hpc hdecode
    case push frame block => cases hn; exact .push frame block hpc
    all_goals cases hn
  | leave =>
    simp only [next] at hn
    split at hn <;> cases hn
    next h => exact .leave h.1 h.2
  | playback =>
    cases hqueue : s.playbackQueue with
    | nil =>
      simp only [next, playbackStep, hqueue, playbackCallback] at hn
      cases hn
      exact .silence hqueue
    | cons front rest =>
      simp only [next, playbackStep, hqueue, playbackCallback] at hn
      cases hn
      exact .play front rest hqueue
  | stop => cases hn; exact .stop

/-! ## The invariant -/

/-- A callback that ran as intended: silence exactly on an empty queue, otherwise its first block,
and in either case exactly `frameSize * channels` samples. -/
structure Call.Sound (call : Call) : Prop where
  silent_iff : call.output.silent = true ↔ call.queue = []
  stored : call.output.stored =
    call.queue.headD (List.replicate (frameSize * channels) 0)
  length : call.output.stored.length = frameSize * channels

structure Inv (r : Receiver) (codec : OpusDecoder δ) (decoder : δ) (s : State δ) : Prop where
  blocks : ∀ block ∈ s.playbackQueue, block.length = frameSize * channels
  order : s.played ++ s.playbackQueue = decodedBlocks r codec decoder s.handled
  calls : ∀ call ∈ s.calls, call.Sound
  -- Between `opus_decode` and the push the decoder is one frame ahead of `handled`.
  push : ∀ frame block, s.receive = .push frame block →
    decodeFrame r codec (decoderAfter r codec decoder s.handled) frame = (s.decoder, some block)
  idle : (∀ frame block, s.receive ≠ .push frame block) →
    s.decoder = decoderAfter r codec decoder s.handled

theorem inv_start : Inv r codec decoder (start decoder) where
  blocks block h := by cases h
  order := rfl
  calls call h := by cases h
  push frame block h := by cases h
  idle _ := rfl

theorem played_append (s : State δ) (call : Call) :
    ({ s with calls := s.calls ++ [call] } : State δ).played =
      s.played ++ if call.output.silent then [] else [call.output.stored] := by
  cases hsilent : call.output.silent <;> simp [State.played, List.filter_append, hsilent]

theorem Inv.step {s t : State δ} {a : Act} (h : Inv r codec decoder s)
    (hs : Step r codec s a t) : Inv r codec decoder t := by
  cases hs with
  | pull frame hpc =>
    refine ⟨h.blocks, h.order, h.calls, nofun, fun _ => h.idle ?_⟩
    rw [hpc]
    exact nofun
  | decoded frame d block hpc hdecode =>
    -- `handled` follows only after the push
    have hdec := h.idle (by rw [hpc]; exact nofun)
    refine ⟨h.blocks, h.order, h.calls, fun f b hpush => ?_, fun hno => absurd rfl (hno _ _)⟩
    cases hpush
    rw [← hdec]
    exact hdecode
  | dropped frame d hpc hdecode =>
    have hdec := h.idle (by rw [hpc]; exact nofun)
    rw [hdec] at hdecode
    refine ⟨h.blocks, ?_, h.calls, nofun, fun _ => ?_⟩
    · change s.played ++ s.playbackQueue = decodedBlocks r codec decoder (s.handled ++ [frame])
      rw [decodedBlocks_append, hdecode, h.order, Option.toList_none, List.append_nil]
    · change d = decoderAfter r codec decoder (s.handled ++ [frame])
      rw [decoderAfter_append, hdecode]
  | push frame block hpc =>
    have hdecode := h.push frame block hpc
    refine ⟨?_, ?_, h.calls, nofun, fun _ => ?_⟩
    · have hblock := decodeFrame_length hdecode
      exact List.forall_mem_append.mpr ⟨h.blocks, List.forall_mem_singleton.mpr hblock⟩
    · change s.played ++ (s.playbackQueue ++ [block]) =
        decodedBlocks r codec decoder (s.handled ++ [frame])
      rw [decodedBlocks_append, hdecode, ← List.append_assoc, h.order, Option.toList_some]
    · change s.decoder = decoderAfter r codec decoder (s.handled ++ [frame])
      rw [decoderAfter_append, hdecode]
  | leave hpc =>
    refine ⟨h.blocks, h.order, h.calls, nofun, fun _ => h.idle ?_⟩
    rw [hpc]
    exact nofun
  | play front rest hqueue =>
    have hlen := h.blocks front (by rw [hqueue]; exact List.mem_cons_self)
    refine ⟨fun b hb => h.blocks b (by rw [hqueue]; exact List.mem_cons_of_mem _ hb), ?_, ?_,
      h.push, h.idle⟩
    · -- the block moves from the head of the queue to the end of what was played
      have horder := h.order
      rw [hqueue] at horder
      rw [← horder]
      change State.played { s with calls := s.calls ++ [_] } ++ rest = _
      rw [played_append, if_neg Bool.false_ne_true, List.append_assoc, List.singleton_append]
    · refine List.forall_mem_append.mpr ⟨h.calls, List.forall_mem_singleton.mpr ?_⟩
      exact ⟨iff_of_false Bool.false_ne_true (List.cons_ne_nil _ _), rfl, hlen⟩
  | silence hqueue =>
    refine ⟨fun b hb => (nomatch hb), ?_, ?_, h.push, h.idle⟩
    · have horder := h.order
      rw [hqueue] at horder
      rw [← horder]
      change State.played { s with calls := s.calls ++ [_] } ++ [] = _
      rw [played_append, if_pos rfl, List.append_nil]
    · refine List.forall_mem_append.mpr ⟨h.calls, List.forall_mem_singleton.mpr ?_⟩
      exact ⟨iff_of_true rfl rfl, rfl, List.length_replicate⟩
  | stop => exact ⟨h.blocks, h.order, h.calls, h.push, h.idle⟩

theorem inv_of_reachable {s : State δ} (h : (machine r codec decoder).Reachable s) :
    Inv r codec decoder s :=
  h.invariant (forall_eq.mpr inv_start)
    (fun _ _ _ hi hn => hi.step (step_of_next hn))

/-! ## Order, exactly-once play and the output buffer -/

theorem Output.buffer_of_lt {o : Output} {outputBuffer : Nat → Int16} {i : Nat}
    (h : i < o.stored.length) : o.stored[i]? = some (o.buffer outputBuffer i) := by
  rw [Output.buffer, List.getD_eq_getElem _ _ h, List.getElem?_eq_getElem h]

theorem Output.buffer_of_ge {o : Output} {outputBuffer : Nat → Int16} {i : Nat}
    (h : o.stored.length ≤ i) : o.buffer outputBuffer i = outputBuffer i :=
  List.getD_eq_default _ _ h

/-- In every reachable state the blocks played and the blocks queued are the successfully decoded
ones in arrival order, every queued block fills the output buffer exactly, and every callback
wrote silence exactly on an empty queue and otherwise the first block; the first
`frameSize * channels` samples of the output buffer are what it wrote, the others are as before. -/
theorem played_append_queue (r : Receiver) (codec : OpusDecoder δ) (decoder : δ) {s : State δ}
    (h : (machine r codec decoder).Reachable s) :
    (∀ block ∈ s.playbackQueue, block.length = frameSize * channels) ∧
      s.played ++ s.playbackQueue = decodedBlocks r codec decoder s.handled ∧
      ∀ call ∈ s.calls,
        (call.output.silent = true ↔ call.queue = []) ∧
          call.output.stored = call.queue.headD (List.replicate (frameSize * channels) 0) ∧
          call.output.stored.length = frameSize * channels ∧
          (∀ outputBuffer i, i < frameSize * channels →
            call.output.stored[i]? = some (call.output.buffer outputBuffer i)) ∧
          ∀ outputBuffer i, frameSize * channels ≤ i →
            call.output.buffer outputBuffer i = outputBuffer i := by
  have hinv := inv_of_reachable h
  refine ⟨hinv.blocks, hinv.order, fun call hcall => ?_⟩
  have hsound := hinv.calls call hcall
  refine ⟨hsound.silent_iff, hsound.stored, hsound.length, fun outputBuffer i hi => ?_,
    fun outputBuffer i hi => ?_⟩
  · apply Output.buffer_of_lt
    rw [hsound.length]
    exact hi
  · apply Output.buffer_of_ge
    rw [hsound.length]
    exact hi

-- A codec for one run: it decodes each payload byte into one sample and fails on a payload
-- that starts with 255.
def byteCodec : OpusDecoder Unit where
  decode _ payload n :=
    if payload.head? = some 255 then ((), -4, [])
    else ((), min payload.length n, (payload.take n).map fun b => Int16.ofNat b.toNat)
  stored_le st payload n := by
    split
    · exact Nat.zero_le _
    · rw [List.length_map, channels, Nat.mul_one]
      exact List.length_take_le _ _

-- Silence, a decoded frame, an empty one, an undecodable one, and the first one played.
def mixedFrames : List Act :=
  [.playback, .pull (some [7, 8]), .receive, .receive, .pull (some []), .receive,
    .pull (some [255]), .receive, .pull none, .receive, .playback]

theorem played_append_queue_run :
    ∃ s, (machine .testReceiver byteCodec ()).exec (start ()) mixedFrames = some s ∧
      s.handled = [some [7, 8], some [], some [255], none] ∧ s.calls.length = 2 ∧
      s.played ++ s.playbackQueue = decodedBlocks .testReceiver byteCodec () s.handled ∧
      ∀ call ∈ s.calls, call.output.stored.length = frameSize * channels := by
  obtain ⟨s, hrun, hhandled, hcalls⟩ :
      ∃ s, (machine .testReceiver byteCodec ()).exec (start ()) mixedFrames = some s ∧
        s.handled = [some [7, 8], some [], some [255], none] ∧ s.calls.length = 2 :=
    ⟨_, rfl, rfl, rfl⟩
  have h := played_append_queue .testReceiver byteCodec ()
    ((Machine.Reachable.start rfl).of_exec hrun)
  exact ⟨s, hrun, hhandled, hcalls, h.2.1, fun call hcall => (h.2.2 call hcall).2.2.1⟩

/-! ## The queue as a channel -/

def toChannel (r : Receiver) (codec : OpusDecoder δ) (decoder : δ) (s : State δ) :
    Channel Block :=
  ⟨decodedBlocks r codec decoder s.handled, s.played⟩

/-- Pushing is sending, playing a queued block is receiving, and no other step is visible. -/
theorem refines_channel : (machine r codec decoder).Refines Channel.machine
    (toChannel r codec decoder) where
  init := forall_eq.mpr rfl
  step s a t hreach hn := by
    have hinv := inv_of_reachable hreach
    cases step_of_next hn with
    | pull | decoded | leave | stop => exact Or.inl rfl
    | dropped frame d hpc hdecode =>
      left
      rw [hinv.idle (by rw [hpc]; exact nofun)] at hdecode
      change Channel.mk (decodedBlocks r codec decoder (s.handled ++ [frame])) s.played = _
      rw [decodedBlocks_append, hdecode, Option.toList_none, List.append_nil, toChannel]
    | push frame block hpc =>
      refine Or.inr ⟨.send block, ?_⟩
      change some (Channel.mk _ s.played) =
        some ⟨decodedBlocks r codec decoder (s.handled ++ [frame]), s.played⟩
      rw [decodedBlocks_append, hinv.push frame block hpc, Option.toList_some, toChannel]
    | play front rest hqueue =>
      refine Or.inr ⟨.receive, ?_⟩
      have hpending : (toChannel r codec decoder s).pending = front :: rest := by
        rw [Channel.pending, toChannel, ← hinv.order, List.drop_left, hqueue]
      change (((toChannel r codec decoder s).pending).head?.map _) =
        some (Channel.mk _ (State.played { s with calls := s.calls ++ [_] }))
      rw [hpending, played_append, if_neg Bool.false_ne_true]
      rfl
    | silence hqueue =>
      left
      change Channel.mk _ (State.played { s with calls := s.calls ++ [_] }) = _
      rw [played_append, if_pos rfl, List.append_nil]
      rfl

/-- The audio device receives the decoded blocks in arrival order, none lost and none twice. -/
theorem played_ordered {s : State δ} (h : (machine r codec decoder).Reachable s) :
    (toChannel r codec decoder s).Ordered :=
  Channel.ordered_of_reachable (refines_channel.reachable h)

end ConnectUdp.Playback
