import ConnectUdp.Media.Library

/-!
# What the calls do to the slots

One equation per function: which slots it assigns or destroys, and that nothing else moves.  The
invariant of the life cycle is read off these equations.
-/

namespace ConnectUdp.Media

open Ownership

inductive Init
  | encodeVideo
  | encodeAudio
  | decodeVideo
  | decodeAudio
  deriving DecidableEq, Repr

-- The init function that assigns a pointer.
def Site.init : Site → Init
  | .videoEncoder | .sendVideoSess | .sendVideoStrm => .encodeVideo
  | .audioEncoder | .sendAudioSess | .sendAudioStrm => .encodeAudio
  | .videoDecoder | .receiveVideoSess | .receiveVideoStrm => .decodeVideo
  | .audioDecoder | .receiveAudioSess | .receiveAudioStrm => .decodeAudio

def Init.sends : Init → Bool
  | .encodeVideo | .encodeAudio => true
  | .decodeVideo | .decodeAudio => false

def VideoCalls.AllSucceed (calls : VideoCalls) : Prop :=
  calls.dlopen = true ∧ calls.create = .created ∧ calls.initRet = 0 ∧
    calls.createSession = true ∧ calls.createStream = true

def AudioCalls.AllSucceed (calls : AudioCalls) : Prop :=
  calls.create = true ∧ calls.createSession = true ∧ calls.createStream = true

instance VideoCalls.decidableAllSucceed (calls : VideoCalls) : Decidable calls.AllSucceed :=
  inferInstanceAs (Decidable (_ ∧ _))

instance AudioCalls.decidableAllSucceed (calls : AudioCalls) : Decidable calls.AllSucceed :=
  inferInstanceAs (Decidable (_ ∧ _))

structure Same (m m' : Globals) : Prop where
  slot : m'.slot = m.slot
  handle : m'.handle = m.handle
  loader : m'.loader = m.loader

section effects

variable {m : Globals}

theorem same_debug (text : String) : Same m (m.debug text) :=
  ⟨rfl, rfl, rfl⟩

theorem use_of_valid {x : Site} (h : (m.slot x).Valid) : m.use x = .ok () :=
  if_pos h

/-! ### Set-up -/

/-- With every call answered, `initEncodeVideoData` opens the library once more and fills its
three slots. -/
theorem initEncodeVideoData_of_success {calls : VideoCalls} (hcalls : calls.AllSucceed)
    (hidle : ∀ x, x.init = .encodeVideo → (m.slot x).Idle) (videoFormatNum : Int) :
    ∃ m', initEncodeVideoData m videoFormatNum calls = .ok (0, m') ∧
      m'.loader = m.loader.acquire ∧ m'.handle = some m.loader.acquire.generation ∧
      ∀ x, m'.slot x = if x.init = .encodeVideo then (m.slot x).assign true else m.slot x := by
  obtain ⟨hopen, hcreate, hinit, hsess, hstrm⟩ := hcalls
  have hencoder := (hidle .videoEncoder rfl).valid_assign
  have hsess' := (hidle .sendVideoSess rfl).valid_assign
  have hstrm' := (hidle .sendVideoStrm rfl).valid_assign
  have hvalid := m.loader.valid_acquire
  simp [initEncodeVideoData, Globals.dlopen, Globals.dlsym, Globals.create, Globals.assign,
    Globals.use, Globals.pointer, Function.update, hopen, hcreate, hinit, hsess, hstrm, hencoder,
    hsess', hstrm', hvalid, hencoder.pointer_ne_none, hsess'.pointer_ne_none,
    hstrm'.pointer_ne_none, bind, Except.bind, pure, Except.pure]
  intro x
  cases x <;> simp [Site.init]

theorem initEncodeAudioData_of_success {calls : AudioCalls} (hcalls : calls.AllSucceed)
    (hidle : ∀ x, x.init = .encodeAudio → (m.slot x).Idle) :
    ∃ m', initEncodeAudioData m calls = .ok m' ∧ m'.loader = m.loader ∧ m'.handle = m.handle ∧
      ∀ x, m'.slot x = if x.init = .encodeAudio then (m.slot x).assign true else m.slot x := by
  obtain ⟨hcreate, hsess, hstrm⟩ := hcalls
  have hsess' := (hidle .sendAudioSess rfl).valid_assign
  have hstrm' := (hidle .sendAudioStrm rfl).valid_assign
  simp [initEncodeAudioData, Globals.assign, Globals.use, Function.update, hcreate, hsess, hstrm,
    hsess', hstrm', bind, Except.bind, pure, Except.pure]
  intro x
  cases x <;> simp [Site.init]

/-- What the receiver's set-up needs: the library, a decoder, and a session or, when `Initialize`
fails, no session left over from an earlier cycle. -/
def VideoCalls.Careful (calls : VideoCalls) (m : Globals) : Prop :=
  calls.dlopen = true ∧ calls.create = .created ∧
    if calls.initRet = 0 then calls.createSession = true else m.pointer .receiveVideoSess = none

instance VideoCalls.decidableCareful (calls : VideoCalls) : Decidable (calls.Careful m) :=
  inferInstanceAs (Decidable (_ ∧ _))

-- The pointers that `initDecodeVideoData` assigns, with what the calls answered.
def VideoCalls.assigned (calls : VideoCalls) : Site → Option Bool
  | .videoDecoder => some true
  | .receiveVideoSess => if calls.initRet = 0 then some true else none
  | .receiveVideoStrm => if calls.initRet = 0 then some calls.createStream else none
  | _ => none

theorem VideoCalls.assigned_of_ne (calls : VideoCalls) {x : Site} (h : x.init ≠ .decodeVideo) :
    calls.assigned x = none := by
  cases x <;> first | rfl | exact absurd rfl h

theorem initDecodeVideoData_of_careful {calls : VideoCalls} (hcalls : calls.Careful m)
    (hidle : ∀ x, x.init = .decodeVideo → (m.slot x).Idle) :
    ∃ m', initDecodeVideoData m calls = .ok m' ∧
      m'.loader = m.loader.acquire ∧ m'.handle = some m.loader.acquire.generation ∧
      ∀ x, m'.slot x = match calls.assigned x with
        | some found => (m.slot x).assign found
        | none => m.slot x := by
  obtain ⟨hopen, hcreate, hrest⟩ := hcalls
  have hdecoder := (hidle .videoDecoder rfl).valid_assign
  have hsess' := (hidle .receiveVideoSess rfl).valid_assign
  have hvalid := m.loader.valid_acquire
  by_cases hinit : calls.initRet = 0
  · rw [if_pos hinit] at hrest
    simp [initDecodeVideoData, Globals.dlopen, Globals.dlsym, Globals.create, Globals.assign,
      Globals.use, Globals.pointer, Globals.debug, Function.update, hopen, hcreate, hinit, hrest,
      hdecoder, hsess', hvalid, hdecoder.pointer_ne_none, bind, Except.bind, pure, Except.pure]
    intro x
    cases x <;> simp [VideoCalls.assigned, hinit]
  · simp [initDecodeVideoData, Globals.dlopen, Globals.dlsym, Globals.create, Globals.assign,
      Globals.use, Globals.pointer, Globals.debug, Function.update, hopen, hcreate, hinit,
      hdecoder, hvalid, hdecoder.pointer_ne_none, bind, Except.bind, pure, Except.pure]
    intro x
    cases x <;> simp [VideoCalls.assigned, hinit]

theorem initDecodeAudioData_of_careful {calls : AudioCalls} (hcreate : calls.create = true)
    (hsess : calls.createSession = true) (hidle : ∀ x, x.init = .decodeAudio → (m.slot x).Idle) :
    ∃ m', initDecodeAudioData m calls = .ok m' ∧ m'.loader = m.loader ∧ m'.handle = m.handle ∧
      ∀ x, m'.slot x = if x.init = .decodeAudio then
        (m.slot x).assign (x ≠ .receiveAudioStrm || calls.createStream) else m.slot x := by
  have hsess' := (hidle .receiveAudioSess rfl).valid_assign
  simp [initDecodeAudioData, Globals.assign, Globals.use, Function.update, hcreate, hsess, hsess',
    bind, Except.bind, pure, Except.pure]
  intro x
  cases x <;> simp [Site.init]

/-! ### Media calls -/

theorem sendNals_same (h : (m.slot .sendVideoStrm).Valid) (nals : List Nal) :
    ∃ m', sendNals m nals = .ok m' ∧ Same m m' := by
  induction nals with
  | nil => exact ⟨m, rfl, rfl, rfl, rfl⟩
  | cons nal nals ih =>
    cases nal with
    | nullBuffer => exact ⟨_, rfl, same_debug _⟩
    | tooLarge => exact ⟨_, rfl, same_debug _⟩
    | pushFrame ret =>
      simp only [sendNals, use_of_valid h, bind, Except.bind]
      by_cases hret : ret = 0
      · rw [if_neg (not_not.mpr hret)]
        exact ih
      · rw [if_pos hret]
        exact ⟨_, rfl, same_debug _⟩

theorem encodeVideoData_same (hencoder : (m.slot .videoEncoder).Valid)
    (hstrm : (m.slot .sendVideoStrm).Valid) (ret : Int) (nals : List Nal) :
    ∃ m', encodeVideoData m ret nals = .ok m' ∧ Same m m' := by
  simp only [encodeVideoData, use_of_valid hencoder, bind, Except.bind]
  by_cases hret : ret = 0
  · rw [if_neg (not_not.mpr hret)]
    exact sendNals_same hstrm nals
  · rw [if_pos hret]
    exact ⟨_, rfl, same_debug _⟩

theorem encodeAudioData_same (hencoder : (m.slot .audioEncoder).Valid)
    (hstrm : (m.slot .sendAudioStrm).Valid) (numBytes : Int) :
    ∃ m', encodeAudioData m numBytes = .ok m' ∧ Same m m' := by
  simp only [encodeAudioData, use_of_valid hencoder, use_of_valid hstrm, bind, Except.bind]
  by_cases h : numBytes < 0
  · rw [if_pos h]
    exact ⟨_, rfl, same_debug _⟩
  · rw [if_neg h]
    exact ⟨m, rfl, rfl, rfl, rfl⟩

theorem receiveAndDecodeVideoData_same (hstrm : (m.slot .receiveVideoStrm).Valid)
    (hdecoder : (m.slot .videoDecoder).Valid) (frame decoded : Bool) :
    ∃ m', receiveAndDecodeVideoData m frame decoded = .ok m' ∧ Same m m' := by
  simp only [receiveAndDecodeVideoData, use_of_valid hstrm, use_of_valid hdecoder, bind,
    Except.bind]
  cases frame <;> cases decoded <;> first
    | exact ⟨m, rfl, rfl, rfl, rfl⟩
    | exact ⟨_, rfl, same_debug _⟩

theorem receiveAndDecodeAudioData_same (hstrm : (m.slot .receiveAudioStrm).Valid)
    (hdecoder : (m.slot .audioDecoder).Valid) (frame : Bool) (frameSize : Int) :
    ∃ m', receiveAndDecodeAudioData m frame frameSize = .ok m' ∧ Same m m' := by
  simp only [receiveAndDecodeAudioData, use_of_valid hstrm, use_of_valid hdecoder, bind,
    Except.bind]
  cases frame with
  | false => exact ⟨_, rfl, same_debug _⟩
  | true =>
    rw [if_neg (not_not.mpr rfl)]
    by_cases h : 0 ≤ frameSize
    · rw [if_pos h]
      exact ⟨m, rfl, rfl, rfl, rfl⟩
    · rw [if_neg h]
      exact ⟨_, rfl, same_debug _⟩

/-! ### Tear-down -/

/-- `destroyEncoder` destroys what its six pointers name and closes the library once. -/
theorem destroyEncoder_of_valid (hslot : ∀ x, x.init.sends = true → (m.slot x).Valid)
    (hhandle : m.loader.Valid m.handle) :
    ∃ m', destroyEncoder m = .ok m' ∧ m'.loader = m.loader.release ∧ m'.handle = m.handle ∧
      ∀ x, m'.slot x = if x.init.sends then (m.slot x).destroy else m.slot x := by
  have hencoder := hslot .videoEncoder rfl
  have hvsess := hslot .sendVideoSess rfl
  have hvstrm := hslot .sendVideoStrm rfl
  have haudio := hslot .audioEncoder rfl
  have hasess := hslot .sendAudioSess rfl
  have hastrm := hslot .sendAudioStrm rfl
  simp [destroyEncoder, Globals.use, Globals.destroy, Globals.dlsym, Globals.dlclose,
    Function.update, hencoder, hvsess, hvstrm, haudio, hasess, hastrm, hhandle, bind, Except.bind]
  intro x
  cases x <;> simp [Site.init, Init.sends]

def Globals.destroyed (m : Globals) (x : Site) : Globals :=
  { m with slot := Function.update m.slot x (m.slot x).destroy }

theorem destroyed_of_null {x : Site} (hnull : m.pointer x = none) : m.destroyed x = m := by
  rw [Globals.destroyed, Slot.destroy_of_null hnull, Function.update_eq_self]

theorem destroy_of_valid {x : Site} (h : (m.slot x).Valid) : m.destroy x = .ok (m.destroyed x) :=
  if_pos h

/-- The null tests of `destroyDecoder` skip exactly what was never created. -/
theorem destroyStream_of_valid {sess strm : Site}
    (h : m.pointer strm ≠ none → (m.slot strm).Valid ∧ (m.slot sess).Valid) :
    destroyStream m sess strm = .ok (m.destroyed strm) := by
  unfold destroyStream
  by_cases hnull : m.pointer strm = none
  · rw [if_neg (not_not.mpr hnull), destroyed_of_null hnull]
    rfl
  · obtain ⟨hstrm, hsess⟩ := h hnull
    rw [if_pos hnull, use_of_valid hsess, destroy_of_valid hstrm]
    rfl

theorem destroySession_of_valid {sess : Site}
    (h : m.pointer sess ≠ none → (m.slot sess).Valid) :
    destroySession m sess = .ok (m.destroyed sess) := by
  unfold destroySession
  by_cases hnull : m.pointer sess = none
  · rw [if_neg (not_not.mpr hnull), destroyed_of_null hnull]
    rfl
  · rw [if_pos hnull, destroy_of_valid (h hnull)]

-- `destroyDecoder` does the same for the receiver, whose sessions and streams may be null.
theorem destroyDecoder_of_valid (hvideo : (m.slot .videoDecoder).Valid)
    (haudio : (m.slot .audioDecoder).Valid) (hhandle : m.loader.Valid m.handle)
    (hsess : ∀ x, x = .receiveVideoSess ∨ x = .receiveAudioSess →
      m.pointer x ≠ none → (m.slot x).Valid)
    (hstrm : ∀ sess strm, (sess, strm) = (.receiveVideoSess, .receiveVideoStrm) ∨
      (sess, strm) = (.receiveAudioSess, .receiveAudioStrm) →
      m.pointer strm ≠ none → (m.slot strm).Valid ∧ (m.slot sess).Valid) :
    ∃ m', destroyDecoder m = .ok m' ∧ m'.loader = m.loader.release ∧ m'.handle = m.handle ∧
      ∀ x, m'.slot x = if x.init.sends then m.slot x else (m.slot x).destroy := by
  have h1 := destroyStream_of_valid (hstrm .receiveVideoSess .receiveVideoStrm (.inl rfl))
  have h2 : destroySession (m.destroyed .receiveVideoStrm) .receiveVideoSess = _ :=
    destroySession_of_valid (hsess .receiveVideoSess (.inl rfl))
  have h3 : destroyStream ((m.destroyed .receiveVideoStrm).destroyed .receiveVideoSess)
      .receiveAudioSess .receiveAudioStrm = _ :=
    destroyStream_of_valid (hstrm .receiveAudioSess .receiveAudioStrm (.inr rfl))
  have h4 : destroySession (((m.destroyed .receiveVideoStrm).destroyed
      .receiveVideoSess).destroyed .receiveAudioStrm) .receiveAudioSess = _ :=
    destroySession_of_valid (hsess .receiveAudioSess (.inr rfl))
  simp only [destroyDecoder, h1, h2, h3, h4, bind, Except.bind]
  simp [Globals.use, Globals.destroy, Globals.destroyed, Globals.dlsym, Globals.dlclose,
    Globals.debug, Function.update, hvideo, haudio, hhandle, pure, Except.pure]
  intro x
  cases x <;> simp [Site.init, Init.sends]

end effects

end ConnectUdp.Media
