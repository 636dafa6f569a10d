import ConnectUdp.Channel

/-!
# The playback queue of the receiving programs

`playbackCallback` and the receive loop of `testReceiver.cpp` (`receiveAndPlayAudio`),
`testDecoder.cpp` (`receiveAndDecode`) and `testReceiverJrtp.cpp`.  The receive thread pulls a
frame, decodes it without the lock and pushes the block under it; PortAudio runs the whole
callback under it.
-/

namespace ConnectUdp.Playback

open Transition

-- A block of `opus_int16` samples.
abbrev Block := List Int16

def channels : Nat := 1

def frameSize : Nat := 960

inductive Receiver
  | testReceiver
  | testDecoder
  | testReceiverJrtp
  deriving DecidableEq, Repr

/-- `opus_decode` as the receivers call it: the new decoder state, the result, and the samples
stored in `pcm`, of which the codec promises at most `frame_size * channels`. -/
structure OpusDecoder (δ : Type) where
  decode : δ → List UInt8 → Nat → δ × Int × List Int16
  stored_le : ∀ st payload n, (decode st payload n).2.2.length ≤ n * channels

variable {δ : Type}

/-! ## The receive thread -/

-- The payload handed to `opus_decode`; the JRTPLIB program has no test for an empty one.
def Receiver.payload : Receiver → Option (List UInt8) → Option (List UInt8)
  | .testReceiverJrtp, frame => frame
  | .testReceiver, frame | .testDecoder, frame => frame.filter fun payload => 0 < payload.length

-- `vector<opus_int16> decoded(FRAME_SIZE * CHANNELS)` after the codec has stored `pcm`.
def decodedVector (pcm : List Int16) : Block :=
  pcm ++ (List.replicate (frameSize * channels) 0).drop pcm.length

/-- One turn of the loop: the decoder state after it and the block to be pushed, if any. -/
def decodeFrame (r : Receiver) (codec : OpusDecoder δ) (decoder : δ)
    (frame : Option (List UInt8)) : δ × Option Block :=
  match r.payload frame with
  | none => (decoder, none)
  | some payload =>
    let (decoder', ret, pcm) := codec.decode decoder payload frameSize
    (decoder', if 0 ≤ ret then some (decodedVector pcm) else none)

def decoderAfter (r : Receiver) (codec : OpusDecoder δ) (decoder : δ)
    (frames : List (Option (List UInt8))) : δ :=
  frames.foldl (fun d frame => (decodeFrame r codec d frame).1) decoder

/-- The successfully decoded blocks of a sequence of frames, in arrival order. -/
def decodedBlocks (r : Receiver) (codec : OpusDecoder δ) :
    δ → List (Option (List UInt8)) → List Block
  | _, [] => []
  | decoder, frame :: frames =>
    (decodeFrame r codec decoder frame).2.toList ++
      decodedBlocks r codec (decodeFrame r codec decoder frame).1 frames

/-! ## The PortAudio callback -/

/-- What one callback stores from `outputBuffer[0]` on, and by which branch. -/
structure Output where
  stored : List Int16
  silent : Bool
  deriving DecidableEq, Repr

def playbackCallback (playbackQueue : List Block) (framesPerBuffer : Nat) :
    Output × List Block :=
  match playbackQueue with
  | front :: rest => (⟨front, false⟩, rest)
  | [] => (⟨List.replicate (framesPerBuffer * channels) 0, true⟩, [])

def Output.buffer (o : Output) (outputBuffer : Nat → Int16) (i : Nat) : Int16 :=
  o.stored.getD i (outputBuffer i)

-- One run of the callback and the queue it found.
structure Call where
  queue : List Block
  output : Output
  deriving DecidableEq, Repr

/-! ## The two threads together -/

inductive ReceivePc
  | loop
  | decode (frame : Option (List UInt8))
  | push (frame : Option (List UInt8)) (block : Block)
  | finished
  deriving DecidableEq, Repr

structure State (δ : Type) where
  playbackQueue : List Block
  stopSignal : Bool
  receive : ReceivePc
  decoder : δ
  -- history of the run: the frames done with, and the callbacks
  handled : List (Option (List UInt8))
  calls : List Call
  deriving DecidableEq, Repr

def start (decoder : δ) : State δ where
  playbackQueue := []
  stopSignal := false
  receive := .loop
  decoder := decoder
  handled := []
  calls := []

inductive Act
  | pull (frame : Option (List UInt8))
  | receive
  | leave
  | playback
  | stop
  deriving DecidableEq, Repr

-- The inner loop of the JRTPLIB program takes packets without looking at `stopSignal`.
def mayPull (r : Receiver) (s : State δ) : Bool :=
  !s.stopSignal || r = .testReceiverJrtp

def receiveStep (r : Receiver) (codec : OpusDecoder δ) (s : State δ) : Option (State δ) :=
  match s.receive with
  | .decode frame =>
    let (decoder, block) := decodeFrame r codec s.decoder frame
    match block with
    | some block => some { s with decoder := decoder, receive := .push frame block }
    | none => some { s with
        decoder := decoder, receive := .loop, handled := s.handled ++ [frame] }
  | .push frame block => some { s with
      playbackQueue := s.playbackQueue ++ [block]
      receive := .loop
      handled := s.handled ++ [frame] }
  | .loop | .finished => none

def playbackStep (s : State δ) : State δ :=
  let (output, rest) := playbackCallback s.playbackQueue frameSize
  { s with playbackQueue := rest, calls := s.calls ++ [⟨s.playbackQueue, output⟩] }

def next (r : Receiver) (codec : OpusDecoder δ) (s : State δ) : Act → Option (State δ)
  | .pull frame =>
    if s.receive = .loop ∧ mayPull r s then some { s with receive := .decode frame } else none
  | .receive => receiveStep r codec s
  | .leave =>
    if s.receive = .loop ∧ s.stopSignal then some { s with receive := .finished } else none
  | .playback => some (playbackStep s)
  | .stop => some { s with stopSignal := true }

def machine (r : Receiver) (codec : OpusDecoder δ) (decoder : δ) :
    Machine (State δ) Act where
  init s := s = start decoder
  next := next r codec

-- The blocks played so far by the callbacks that found one.
def State.played (s : State δ) : List Block :=
  (s.calls.filter fun call => !call.output.silent).map fun call => call.output.stored

end ConnectUdp.Playback
