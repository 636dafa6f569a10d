import Mathlib.Algebra.Order.BigOperators.Group.List
import ConnectUdp.Slice
import ConnectUdp.Video.Layout

/-!
# What the encode functions read of the caller's buffers

`encodeVideoData` and `encodeAudioData` take a pointer and a length and do not look at the length.
-/

namespace ConnectUdp.EncodeInput

open Video

def CHANNELS : Nat := 1

def FRAME_SIZE : Nat := 960

inductive Call
  | encodeVideoData (inputData : Memory) (length : Int32)
  | encodeAudioData (audioData : Memory) (length : Int32)

namespace Call

def length : Call → Int
  | .encodeVideoData _ length => length.toInt
  | .encodeAudioData _ length => length.toInt

end Call

/-- The globals of the encoder; `cvtColor` makes an I420 picture out of an RGBA picture of the
given width and height. -/
structure Encoder where
  inputVideoFormat : Int
  width : Nat
  height : Nat
  cvtColor : Nat → Nat → Memory → Memory

namespace Encoder

variable (e : Encoder)

/-! ## Pictures -/

-- `yuv` after the test of the format: an empty `cv::Mat` has a null `data`.
def yuv (inputData : Memory) : Option Memory :=
  if e.inputVideoFormat = 1 then some (e.cvtColor e.width e.height inputData) else none

-- The bytes of `inputData` that are read: all of `frame(height, width, CV_8UC4, inputData)` when
-- it is converted.
def videoRead : Slice :=
  if e.inputVideoFormat = 1 then ⟨0, e.width * e.height * 4⟩ else ⟨0, 0⟩

/-- The picture that has to be encoded: format 0 is I420 already, format 1 is RGBA. -/
def picture (inputData : Memory) : Memory :=
  if e.inputVideoFormat = 1 then e.cvtColor e.width e.height inputData else inputData

-- The size of an I420 picture.
def pictureSize : Nat :=
  e.width * e.height * 3 / 2

/-- The planes handed to `EncodeFrame` are those of the picture to be encoded. -/
def PlanesInside (inputData : Memory) : Prop :=
  e.yuv inputData = some (e.picture inputData) ∧
    ∀ k, ∀ i ∈ (sourcePlane e.width e.height k).region, i < e.pictureSize

/-! ## Samples -/

-- Sample `i` behind `reinterpret_cast<const opus_int16 *>`, low byte first.
def sampleAt (audioData : Memory) (i : Nat) : Int16 :=
  Int16.ofNat ((audioData (2 * i)).toNat + 256 * (audioData (2 * i + 1)).toNat)

def audioRead : Slice :=
  ⟨0, FRAME_SIZE * CHANNELS * 2⟩

-- What `opus_encode` is handed.
def encodedSamples : Call → List Int16
  | .encodeVideoData .. => []
  | .encodeAudioData audioData _ => (List.range (FRAME_SIZE * CHANNELS)).map (sampleAt audioData)

-- The samples in the caller's buffer, unless it is too short for what is read.
def callerSamples : Call → List Int16
  | .encodeVideoData .. => []
  | .encodeAudioData audioData length =>
    if length.toInt < audioRead.stop then []
    else (List.range (length.toInt.toNat / 2)).map (sampleAt audioData)

/-! ## The contract -/

def read : Call → Slice
  | .encodeVideoData .. => e.videoRead
  | .encodeAudioData .. => audioRead

/-- Only the caller's bytes are read, every picture is handed to the codec from where it lies, and
the samples handed to the codec are those of the caller's buffers. -/
structure Contract (calls : List Call) : Prop where
  reads : ∀ call ∈ calls, ∀ i, (e.read call).start ≤ i → i < (e.read call).stop →
    (i : Int) < call.length
  planes : ∀ inputData length, Call.encodeVideoData inputData length ∈ calls →
    e.PlanesInside inputData
  samples : calls.flatMap encodedSamples = calls.flatMap callerSamples

/-- The format is RGBA and the buffer holds the picture, or the buffer holds one audio frame. -/
def Careful : Call → Prop
  | .encodeVideoData _ length =>
    e.inputVideoFormat = 1 ∧ e.width * e.height * 4 ≤ length.toInt.toNat
  | .encodeAudioData _ length => 1920 ≤ length.toInt ∧ length.toInt ≤ 1921

/-! ## When the contract holds -/

section contract

variable {e}

/-- The planes of any picture lie inside its `width * height * 3 / 2` bytes, for an odd width or
height too. -/
theorem sourcePlane_inside (width height : Nat) (k : Component) :
    ∀ i ∈ (sourcePlane width height k).region, i < width * height * 3 / 2 := by
  have hchroma : height / 2 * (width / 2) * 4 ≤ width * height := by
    have hheight := Nat.div_mul_le_self height 2
    have hwidth := Nat.div_mul_le_self width 2
    calc height / 2 * (width / 2) * 4 = width / 2 * 2 * (height / 2 * 2) := by ring
      _ ≤ width * height := Nat.mul_le_mul hwidth hheight
  intro i hi
  cases k with
  | y =>
    have hplane : i ∈ (Plane.View.packed 0 height width).region := hi
    rw [Plane.View.mem_region_packed, Nat.mul_comm height] at hplane
    omega
  | u =>
    have hplane : i ∈ (Plane.View.packed (width * height) (height / 2) (width / 2)).region := hi
    rw [Plane.View.mem_region_packed] at hplane
    omega
  | v =>
    have hplane : i ∈ (Plane.View.packed (width * height + width * height / 4) (height / 2)
      (width / 2)).region := hi
    rw [Plane.View.mem_region_packed] at hplane
    omega

-- Without the conversion there is no picture behind the planes.
theorem planesInside_iff (inputData : Memory) :
    e.PlanesInside inputData ↔ e.inputVideoFormat = 1 := by
  unfold PlanesInside yuv picture
  by_cases hformat : e.inputVideoFormat = 1
  · rw [if_pos hformat, if_pos hformat]
    exact iff_of_true ⟨rfl, sourcePlane_inside e.width e.height⟩ hformat
  · rw [if_neg hformat]
    exact iff_of_false (fun h => nomatch h.1) hformat

theorem reads_inside_iff (n : Nat) (length : Int) :
    (∀ i, (Slice.mk 0 n).start ≤ i → i < (Slice.mk 0 n).stop → (i : Int) < length) ↔
      n ≤ length.toNat := by
  unfold Slice.stop
  simp only [Nat.zero_le, forall_true_left, Nat.zero_add]
  constructor
  · intro h
    by_contra hlt
    have hlast := h (n - 1) (by omega)
    omega
  · intro h i hi
    omega

theorem encodedSamples_length (audioData : Memory) (length : Int32) :
    (encodedSamples (.encodeAudioData audioData length)).length = 960 := by
  rw [encodedSamples, List.length_map, List.length_range]
  rfl

theorem callerSamples_length {audioData : Memory} {length : Int32} (h : 1920 ≤ length.toInt) :
    (callerSamples (.encodeAudioData audioData length)).length = length.toInt.toNat / 2 := by
  have hstop : ¬ length.toInt < audioRead.stop := Int.not_lt.mpr h
  rw [callerSamples, if_neg hstop, List.length_map, List.length_range]

theorem samples_eq {audioData : Memory} {length : Int32} (hlo : 1920 ≤ length.toInt)
    (hhi : length.toInt ≤ 1921) : encodedSamples (.encodeAudioData audioData length) =
      callerSamples (.encodeAudioData audioData length) := by
  have hstop : ¬ length.toInt < audioRead.stop := Int.not_lt.mpr hlo
  rw [callerSamples, if_neg hstop, show length.toInt.toNat / 2 = FRAME_SIZE * CHANNELS by
    change length.toInt.toNat / 2 = 960
    omega]
  rfl

/-- Where no part is longer than its counterpart, equal concatenations have equal parts. -/
theorem length_eq_of_flatMap_eq {α β : Type*} {f g : α → List β} {l : List α}
    (hle : ∀ x ∈ l, (f x).length ≤ (g x).length) (h : l.flatMap f = l.flatMap g) :
    ∀ x ∈ l, (f x).length = (g x).length := by
  induction l with
  | nil => exact nofun
  | cons x l ih =>
    have hhead := hle x List.mem_cons_self
    have htail : ∀ y ∈ l, (f y).length ≤ (g y).length :=
      fun y hy => hle y (List.mem_cons_of_mem _ hy)
    rw [List.flatMap_cons, List.flatMap_cons] at h
    have hrest : (l.flatMap f).length ≤ (l.flatMap g).length := by
      rw [List.length_flatMap, List.length_flatMap]
      exact List.sum_le_sum htail
    have hlength := congrArg List.length h
    rw [List.length_append, List.length_append] at hlength
    have hsame : (f x).length = (g x).length := by omega
    intro y hy
    rcases List.mem_cons.mp hy with rfl | hy
    · exact hsame
    · exact ih htail (List.append_inj_right h hsame) y hy

theorem Contract.video {calls : List Call} (h : e.Contract calls) {inputData : Memory}
    {length : Int32} (hmem : Call.encodeVideoData inputData length ∈ calls) :
    e.Careful (.encodeVideoData inputData length) := by
  have hformat := (planesInside_iff inputData).mp (h.planes inputData length hmem)
  have hreads := h.reads _ hmem
  rw [show e.read (.encodeVideoData inputData length) = ⟨0, e.width * e.height * 4⟩ from
    if_pos hformat] at hreads
  exact ⟨hformat, (reads_inside_iff _ _).mp hreads⟩

theorem Contract.audio_ge {calls : List Call} (h : e.Contract calls) {audioData : Memory}
    {length : Int32} (hmem : Call.encodeAudioData audioData length ∈ calls) :
    1920 ≤ length.toInt := by
  have hreads := (reads_inside_iff 1920 length.toInt).mp (h.reads _ hmem)
  omega

theorem Contract.audio {calls : List Call} (h : e.Contract calls) {audioData : Memory}
    {length : Int32} (hmem : Call.encodeAudioData audioData length ∈ calls) :
    e.Careful (.encodeAudioData audioData length) := by
  have hle : ∀ call ∈ calls, (encodedSamples call).length ≤ (callerSamples call).length := by
    intro call hcall
    cases call with
    | encodeVideoData inputData length => exact Nat.le_refl _
    | encodeAudioData audioData length =>
      have hge := h.audio_ge hcall
      rw [encodedSamples_length, callerSamples_length hge]
      omega
  have hge := h.audio_ge hmem
  have hlength := length_eq_of_flatMap_eq hle h.samples _ hmem
  rw [encodedSamples_length, callerSamples_length hge] at hlength
  exact ⟨hge, by omega⟩

theorem Careful.reads {call : Call} (h : e.Careful call) :
    ∀ i, (e.read call).start ≤ i → i < (e.read call).stop → (i : Int) < call.length := by
  cases call with
  | encodeVideoData inputData length =>
    rw [show e.read (.encodeVideoData inputData length) = ⟨0, e.width * e.height * 4⟩ from
      if_pos h.1]
    exact (reads_inside_iff _ _).mpr h.2
  | encodeAudioData audioData length =>
    have hlo := h.1
    exact (reads_inside_iff 1920 length.toInt).mpr (by omega)

theorem Careful.samples {call : Call} (h : e.Careful call) :
    encodedSamples call = callerSamples call := by
  cases call with
  | encodeVideoData inputData length => rfl
  | encodeAudioData audioData length => exact samples_eq h.1 h.2

/-- A sequence of calls keeps the contract exactly when every picture is RGBA in a buffer that
holds it, and every audio buffer holds the 960 samples of one frame. -/
theorem contract_iff_careful (e : Encoder) (calls : List Call) :
    e.Contract calls ↔ ∀ call ∈ calls, e.Careful call := by
  constructor
  · intro h call hmem
    cases call with
    | encodeVideoData inputData length => exact h.video hmem
    | encodeAudioData audioData length => exact h.audio hmem
  · intro h
    constructor
    · exact fun call hmem => (h call hmem).reads
    · exact fun inputData length hmem => (planesInside_iff inputData).mpr (h _ hmem).1
    · exact List.flatMap_congr fun call hmem => (h call hmem).samples

/-- An I420 picture given as format 0 is not encoded: the planes start from a null pointer.  An
audio buffer of half a frame is read beyond its end. -/
theorem yuv_picture_not_encoded :
    ¬ (Encoder.mk 0 2 2 fun _ _ rgba => rgba).Contract
      [.encodeVideoData (pictureMemory [1, 2, 3, 4, 5, 6]) 6] ∧
    ¬ (Encoder.mk 1 2 2 fun _ _ rgba => rgba).Contract [.encodeAudioData (fun _ => 0) 960] := by
  constructor
  · intro h
    exact absurd (h.video List.mem_cons_self).1 (by decide)
  · intro h
    exact absurd (h.audio_ge List.mem_cons_self) (by decide)

end contract

end Encoder

end ConnectUdp.EncodeInput
