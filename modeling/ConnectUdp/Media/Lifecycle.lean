import ConnectUdp.Transition
import ConnectUdp.Media.Effects

/-!
# Cycles of the two pipelines

A cycle of a pipeline calls its two init functions in either order, then any media calls, then
its destroy function.  The cycles of sender and receiver interleave, so the shared `handle` is
overwritten while it is in use.
-/

namespace ConnectUdp.Media

open Ownership Transition

structure State where
  globals : Globals
  -- The init functions that have returned in the open cycles.
  isOpen : Init → Bool
  fault : Option Fault

def start : State where
  globals := ⟨fun _ => .empty, none, 0, .unloaded, []⟩
  isOpen _ := false
  fault := none

inductive Act
  | initEncodeVideoData (videoFormatNum : Int) (calls : VideoCalls)
  | initEncodeAudioData (calls : AudioCalls)
  | encodeVideoData (ret : Int) (nals : List Nal)
  | encodeAudioData (numBytes : Int)
  | destroyEncoder
  | initDecodeVideoData (calls : VideoCalls)
  | initDecodeAudioData (calls : AudioCalls)
  | receiveAndDecodeVideoData (frame decoded : Bool)
  | receiveAndDecodeAudioData (frame : Bool) (frameSize : Int)
  | destroyDecoder
  deriving DecidableEq, Repr

-- The state after a call that opens or closes what `isOpen` says.
def State.after (s : State) (isOpen : Init → Bool) : Except Fault Globals → State
  | .ok m => { s with globals := m, isOpen := isOpen }
  | .error fault => { s with fault := some fault }

-- After the destroy function of one pipeline only the other is open.
def closing (isOpen : Init → Bool) (sends : Bool) : Init → Bool :=
  fun i => isOpen i && (i.sends != sends)

-- The call an action stands for, and the init functions that have returned after it.
def run (s : State) : Act → Except Fault Globals × (Init → Bool)
  | .initEncodeVideoData videoFormatNum calls =>
    ((initEncodeVideoData s.globals videoFormatNum calls).map Prod.snd,
      Function.update s.isOpen .encodeVideo true)
  | .initEncodeAudioData calls =>
    (initEncodeAudioData s.globals calls, Function.update s.isOpen .encodeAudio true)
  | .encodeVideoData ret nals => (encodeVideoData s.globals ret nals, s.isOpen)
  | .encodeAudioData numBytes => (encodeAudioData s.globals numBytes, s.isOpen)
  | .destroyEncoder => (destroyEncoder s.globals, closing s.isOpen true)
  | .initDecodeVideoData calls =>
    (initDecodeVideoData s.globals calls, Function.update s.isOpen .decodeVideo true)
  | .initDecodeAudioData calls =>
    (initDecodeAudioData s.globals calls, Function.update s.isOpen .decodeAudio true)
  | .receiveAndDecodeVideoData frame decoded =>
    (receiveAndDecodeVideoData s.globals frame decoded, s.isOpen)
  | .receiveAndDecodeAudioData frame frameSize =>
    (receiveAndDecodeAudioData s.globals frame frameSize, s.isOpen)
  | .destroyDecoder => (destroyDecoder s.globals, closing s.isOpen false)

/-- Whether the cycles admit the call: each init once, media calls between, destroy last. -/
def admitted (isOpen : Init → Bool) : Act → Bool
  | .initEncodeVideoData .. => !isOpen .encodeVideo
  | .initEncodeAudioData .. => !isOpen .encodeAudio
  | .encodeVideoData .. => isOpen .encodeVideo
  | .encodeAudioData .. => isOpen .encodeAudio
  | .destroyEncoder => isOpen .encodeVideo && isOpen .encodeAudio
  | .initDecodeVideoData .. => !isOpen .decodeVideo
  | .initDecodeAudioData .. => !isOpen .decodeAudio
  | .receiveAndDecodeVideoData .. => isOpen .decodeVideo
  | .receiveAndDecodeAudioData .. => isOpen .decodeAudio
  | .destroyDecoder => isOpen .decodeVideo && isOpen .decodeAudio

def next (s : State) (a : Act) : Option State :=
  if s.fault = none ∧ admitted s.isOpen a then some (s.after (run s a).2 (run s a).1) else none

def machine : Machine State Act where
  init s := s = start
  next := next

theorem next_eq_some {s t : State} {a : Act} (hn : next s a = some t) :
    admitted s.isOpen a = true ∧ t = s.after (run s a).2 (run s a).1 := by
  unfold next at hn
  by_cases h : s.fault = none ∧ admitted s.isOpen a = true
  · rw [if_pos h, Option.some.injEq] at hn
    exact ⟨h.2, hn.symm⟩
  · rw [if_neg h] at hn
    cases hn

/-! ## The invariant -/

-- The pointers that are null in an open cycle only if the receiver's set-up failed.
def Site.required : Site → Bool
  | .receiveVideoSess | .receiveVideoStrm | .receiveAudioStrm => false
  | _ => true

structure Inv (s : State) : Prop where
  running : s.fault = none
  owned : ∀ x, s.isOpen x.init = true → (s.globals.slot x).Owned
  idle : ∀ x, s.isOpen x.init = false → (s.globals.slot x).Idle
  required : ∀ x, s.isOpen x.init = true → x.required = true → s.globals.pointer x ≠ none
  -- A stream was created from a session.
  strm : s.globals.pointer .receiveVideoStrm ≠ none → s.globals.pointer .receiveVideoSess ≠ none
  refs : s.globals.loader.refs = (s.isOpen .encodeVideo).toNat + (s.isOpen .decodeVideo).toNat
  handle : 0 < s.globals.loader.refs → s.globals.handle = some s.globals.loader.generation

/-- A step that keeps the invariant and the pointers of the cycles that stay open. -/
structure Kept (s t : State) : Prop where
  inv : Inv t
  pointer : ∀ x, s.isOpen x.init = true → t.isOpen x.init = true →
    t.globals.pointer x = s.globals.pointer x

theorem inv_start : Inv start where
  running := rfl
  owned x h := nomatch h
  idle x _ := Slot.idle_empty
  required x h := nomatch h
  strm h := absurd rfl h
  refs := rfl
  handle h := absurd h (by decide)

namespace Inv

variable {s : State} (h : Inv s)
include h

theorem valid {x : Site} (hopen : s.isOpen x.init = true)
    (hp : s.globals.pointer x ≠ none) : (s.globals.slot x).Valid :=
  (h.owned x hopen).valid hp

theorem valid_of_required {x : Site} (hopen : s.isOpen x.init = true)
    (hreq : x.required = true) : (s.globals.slot x).Valid :=
  h.valid hopen (h.required x hopen hreq)

theorem idle_of_init {i : Init} (hclosed : s.isOpen i = false) :
    ∀ x, Site.init x = i → (s.globals.slot x).Idle :=
  fun x hx => h.idle x (hx ▸ hclosed)

theorem valid_handle (hopen : s.isOpen .encodeVideo = true ∨ s.isOpen .decodeVideo = true) :
    s.globals.loader.Valid s.globals.handle := by
  have hpos : 0 < s.globals.loader.refs := by
    rw [h.refs]
    rcases hopen with ho | ho
    · rw [ho, Bool.toNat_true]
      omega
    · rw [ho, Bool.toNat_true]
      omega
  exact ⟨h.handle hpos, hpos⟩

-- A call that leaves objects and handle alone.
theorem same {m' : Globals} (hsame : Same s.globals m') : Kept s { s with globals := m' } := by
  have hslot (x : Site) : m'.slot x = s.globals.slot x := by rw [hsame.slot]
  have hpointer (x : Site) : m'.pointer x = s.globals.pointer x := by
    rw [Globals.pointer, hslot, Globals.pointer]
  refine ⟨⟨h.running, fun x ho => ?_, fun x ho => ?_, fun x ho hr => ?_, ?_, ?_, ?_⟩,
    fun x _ _ => hpointer x⟩
  · change (m'.slot x).Owned
    rw [hslot]
    exact h.owned x ho
  · change (m'.slot x).Idle
    rw [hslot]
    exact h.idle x ho
  · change m'.pointer x ≠ none
    rw [hpointer]
    exact h.required x ho hr
  · change m'.pointer _ ≠ none → m'.pointer _ ≠ none
    rw [hpointer, hpointer]
    exact h.strm
  · change m'.loader.refs = _
    rw [hsame.loader]
    exact h.refs
  · change 0 < m'.loader.refs → m'.handle = some m'.loader.generation
    rw [hsame.loader, hsame.handle]
    exact h.handle

/-- What an init function does: its slots are owned afterwards, and the others are as before. -/
theorem opened {i : Init} {m' : Globals} (hclosed : s.isOpen i = false)
    (hother : ∀ x, Site.init x ≠ i → m'.slot x = s.globals.slot x)
    (howned : ∀ x, Site.init x = i → (m'.slot x).Owned)
    (hreq : ∀ x, Site.init x = i → x.required = true → m'.pointer x ≠ none)
    (hstrm : i = .decodeVideo → m'.pointer .receiveVideoStrm ≠ none →
      m'.pointer .receiveVideoSess ≠ none)
    (hrefs : m'.loader.refs = (Function.update s.isOpen i true .encodeVideo).toNat +
      (Function.update s.isOpen i true .decodeVideo).toNat)
    (hhandle : 0 < m'.loader.refs → m'.handle = some m'.loader.generation) :
    Kept s ⟨m', Function.update s.isOpen i true, s.fault⟩ := by
  have hpointer (x : Site) (hx : Site.init x ≠ i) : m'.pointer x = s.globals.pointer x := by
    rw [Globals.pointer, hother x hx, Globals.pointer]
  refine ⟨⟨h.running, fun x ho => ?_, fun x ho => ?_, fun x ho hr => ?_, ?_, hrefs, hhandle⟩,
    fun x ho _ => ?_⟩
  -- the slots of the open cycles
  · by_cases hx : Site.init x = i
    · exact howned x hx
    · change (m'.slot x).Owned
      rw [hother x hx]
      exact h.owned x (Function.update_of_ne hx true s.isOpen ▸ ho)
  -- the slots outside them
  · by_cases hx : Site.init x = i
    · change Function.update s.isOpen i true x.init = false at ho
      rw [hx, Function.update_self] at ho
      cases ho
    · change (m'.slot x).Idle
      rw [hother x hx]
      exact h.idle x (Function.update_of_ne hx true s.isOpen ▸ ho)
  · by_cases hx : Site.init x = i
    · exact hreq x hx hr
    · change m'.pointer x ≠ none
      rw [hpointer x hx]
      exact h.required x (Function.update_of_ne hx true s.isOpen ▸ ho) hr
  · by_cases hi : i = .decodeVideo
    · exact hstrm hi
    · change m'.pointer _ ≠ none → m'.pointer _ ≠ none
      rw [hpointer .receiveVideoStrm (Ne.symm hi), hpointer .receiveVideoSess (Ne.symm hi)]
      exact h.strm
  -- a cycle that was open before is not the one that `i` opens
  · refine hpointer x fun hx => ?_
    rw [hx, hclosed] at ho
    cases ho

/-- What a destroy function does: the slots of its pipeline are destroyed, the others are as
before, and the library is closed once. -/
theorem closed {sends : Bool} {m' : Globals}
    (hall : ∀ x : Site, x.init.sends = sends → s.isOpen x.init = true)
    (hslot : ∀ x : Site, m'.slot x =
      if x.init.sends = sends then (s.globals.slot x).destroy else s.globals.slot x)
    (hloader : m'.loader = s.globals.loader.release) (hhandle : m'.handle = s.globals.handle) :
    Kept s ⟨m', closing s.isOpen sends, s.fault⟩ := by
  have hpointer (x : Site) : m'.pointer x = s.globals.pointer x := by
    change (m'.slot x).pointer = (s.globals.slot x).pointer
    rw [hslot]
    by_cases hx : x.init.sends = sends
    · rw [if_pos hx, Slot.destroy_pointer]
    · rw [if_neg hx]
  have hstays (x : Site) (ho : closing s.isOpen sends x.init = true) :
      s.isOpen x.init = true ∧ x.init.sends ≠ sends := by
    rwa [closing, Bool.and_eq_true, bne_iff_ne] at ho
  refine ⟨⟨h.running, fun x ho => ?_, fun x ho => ?_, fun x ho hr => ?_, ?_, ?_, ?_⟩,
    fun x _ _ => hpointer x⟩
  · change (m'.slot x).Owned
    rw [hslot, if_neg (hstays x ho).2]
    exact h.owned x (hstays x ho).1
  · change (m'.slot x).Idle
    rw [hslot]
    by_cases hx : x.init.sends = sends
    · rw [if_pos hx]
      exact (h.owned x (hall x hx)).idle_destroy
    · rw [if_neg hx]
      change closing s.isOpen sends x.init = false at ho
      rw [closing, Bool.and_eq_false_iff, bne_eq_false_iff_eq] at ho
      exact h.idle x (ho.resolve_right hx)
  · change m'.pointer x ≠ none
    rw [hpointer]
    exact h.required x (hstays x ho).1 hr
  · change m'.pointer _ ≠ none → m'.pointer _ ≠ none
    rw [hpointer, hpointer]
    exact h.strm
  -- the pipeline held one reference, through the video init of its cycle
  · change m'.loader.refs = _
    rw [hloader]
    change s.globals.loader.refs - 1 = _
    rw [h.refs]
    cases sends with
    | false =>
      have hvideo : s.isOpen .decodeVideo = true := hall .videoDecoder rfl
      simp [hvideo, closing, Init.sends]
    | true =>
      have hvideo : s.isOpen .encodeVideo = true := hall .videoEncoder rfl
      simp [hvideo, closing, Init.sends]
  · change 0 < m'.loader.refs → m'.handle = some m'.loader.generation
    rw [hloader, hhandle]
    intro hpos
    exact h.handle (Nat.lt_of_lt_of_le hpos (Nat.sub_le _ _))

end Inv

/-! ## The steps -/

/-- The sender's set-up succeeds, the receiver's fails only where `destroyDecoder` can tell, and
frames are pulled from streams that were created. -/
def careful (s : State) : Act → Prop
  | .initEncodeVideoData _ calls => calls.AllSucceed
  | .initEncodeAudioData calls => calls.AllSucceed
  | .initDecodeVideoData calls => calls.Careful s.globals
  | .initDecodeAudioData calls => calls.create = true ∧ calls.createSession = true
  | .receiveAndDecodeVideoData .. => s.globals.pointer .receiveVideoStrm ≠ none
  | .receiveAndDecodeAudioData .. => s.globals.pointer .receiveAudioStrm ≠ none
  | .encodeVideoData .. | .encodeAudioData .. | .destroyEncoder | .destroyDecoder => True

instance careful.decidable (s : State) : (a : Act) → Decidable (careful s a)
  | .initEncodeVideoData _ calls => inferInstanceAs (Decidable calls.AllSucceed)
  | .initEncodeAudioData calls => inferInstanceAs (Decidable calls.AllSucceed)
  | .initDecodeVideoData calls => inferInstanceAs (Decidable (calls.Careful s.globals))
  | .initDecodeAudioData _ => inferInstanceAs (Decidable (_ ∧ _))
  | .receiveAndDecodeVideoData .. | .receiveAndDecodeAudioData .. =>
    inferInstanceAs (Decidable (_ ≠ _))
  | .encodeVideoData .. | .encodeAudioData .. | .destroyEncoder | .destroyDecoder => .isTrue trivial

namespace Inv

variable {s : State} (h : Inv s)
include h

theorem initEncodeVideoData {videoFormatNum : Int} {calls : VideoCalls}
    (hclosed : s.isOpen .encodeVideo = false) (hcalls : calls.AllSucceed) :
    Kept s (s.after (run s (.initEncodeVideoData videoFormatNum calls)).2
      (run s (.initEncodeVideoData videoFormatNum calls)).1) := by
  have hidle := h.idle_of_init hclosed
  obtain ⟨m', hrun, hloader, hhandle, hslot⟩ :=
    initEncodeVideoData_of_success hcalls hidle videoFormatNum
  simp only [run, hrun, Except.map, State.after]
  refine h.opened hclosed (fun x hx => by rw [hslot, if_neg hx])
    (fun x hx => by rw [hslot, if_pos hx]; exact (hidle x hx).owned_assign true)
    (fun x hx _ => ?_) nofun ?_ fun _ => by rw [hloader, hhandle]
  · change (m'.slot x).pointer ≠ none
    rw [hslot, if_pos hx]
    exact Slot.assign_true_pointer
  · rw [hloader, Shared.acquire_refs, h.refs, hclosed]
    simp
    omega

theorem initEncodeAudioData {calls : AudioCalls} (hclosed : s.isOpen .encodeAudio = false)
    (hcalls : calls.AllSucceed) :
    Kept s (s.after (run s (.initEncodeAudioData calls)).2
      (run s (.initEncodeAudioData calls)).1) := by
  have hidle := h.idle_of_init hclosed
  obtain ⟨m', hrun, hloader, hhandle, hslot⟩ := initEncodeAudioData_of_success hcalls hidle
  simp only [run, hrun, State.after]
  refine h.opened hclosed (fun x hx => by rw [hslot, if_neg hx])
    (fun x hx => by rw [hslot, if_pos hx]; exact (hidle x hx).owned_assign true)
    (fun x hx _ => ?_) nofun ?_ ?_
  · change (m'.slot x).pointer ≠ none
    rw [hslot, if_pos hx]
    exact Slot.assign_true_pointer
  · rw [hloader, h.refs]
    simp
  · rw [hloader, hhandle]
    exact h.handle

theorem initDecodeVideoData {calls : VideoCalls} (hclosed : s.isOpen .decodeVideo = false)
    (hcalls : calls.Careful s.globals) :
    Kept s (s.after (run s (.initDecodeVideoData calls)).2
      (run s (.initDecodeVideoData calls)).1) := by
  have hidle := h.idle_of_init hclosed
  obtain ⟨m', hrun, hloader, hhandle, hslot⟩ := initDecodeVideoData_of_careful hcalls hidle
  simp only [run, hrun, State.after]
  -- when `Initialize` fails, no session and no stream is left over from an earlier cycle
  have hnull : ∀ x : Site, x.init = .decodeVideo → calls.assigned x = none →
      s.globals.pointer x = none := by
    obtain ⟨-, -, hrest⟩ := hcalls
    intro x hx hassigned
    by_cases hinit : calls.initRet = 0
    · cases x <;> simp [VideoCalls.assigned, hinit, Site.init] at hassigned hx
    · rw [if_neg hinit] at hrest
      have hstrm : s.globals.pointer .receiveVideoStrm = none := by
        by_contra hne
        exact h.strm hne hrest
      cases x <;> simp [VideoCalls.assigned, Site.init] at hassigned hx <;> assumption
  refine h.opened hclosed (fun x hx => ?_) (fun x hx => ?_) (fun x hx hr => ?_) (fun _ hne => ?_) ?_
    fun _ => by rw [hloader, hhandle]
  · rw [hslot, calls.assigned_of_ne hx]
  · rw [hslot]
    cases hassigned : calls.assigned x with
    | some found => exact (hidle x hx).owned_assign found
    | none => exact (hidle x hx).owned_of_null (hnull x hx hassigned)
  · change (m'.slot x).pointer ≠ none
    rw [hslot]
    cases x <;> simp [Site.init, Site.required] at hx hr
    exact Slot.assign_true_pointer
  · change (m'.slot _).pointer ≠ none at hne ⊢
    rw [hslot] at hne ⊢
    by_cases hinit : calls.initRet = 0
    · rw [VideoCalls.assigned, if_pos hinit]
      exact Slot.assign_true_pointer
    · simp only [VideoCalls.assigned, if_neg hinit] at hne ⊢
      exact h.strm hne
  · rw [hloader, Shared.acquire_refs, h.refs, hclosed]
    simp

theorem initDecodeAudioData {calls : AudioCalls} (hclosed : s.isOpen .decodeAudio = false)
    (hcreate : calls.create = true) (hsess : calls.createSession = true) :
    Kept s (s.after (run s (.initDecodeAudioData calls)).2
      (run s (.initDecodeAudioData calls)).1) := by
  have hidle := h.idle_of_init hclosed
  obtain ⟨m', hrun, hloader, hhandle, hslot⟩ :=
    initDecodeAudioData_of_careful hcreate hsess hidle
  simp only [run, hrun, State.after]
  refine h.opened hclosed (fun x hx => by rw [hslot, if_neg hx])
    (fun x hx => by rw [hslot, if_pos hx]; exact (hidle x hx).owned_assign _)
    (fun x hx hr => ?_) nofun ?_ ?_
  · have hne : x ≠ .receiveAudioStrm := by
      rintro rfl
      cases hr
    change (m'.slot x).pointer ≠ none
    rw [hslot, if_pos hx, decide_eq_true hne, Bool.true_or]
    exact Slot.assign_true_pointer
  · rw [hloader, h.refs]
    simp
  · rw [hloader, hhandle]
    exact h.handle

theorem media {a : Act} {m' : Globals} (hrun : run s a = (.ok m', s.isOpen))
    (hsame : Same s.globals m') : Kept s (s.after (run s a).2 (run s a).1) := by
  rw [hrun]
  exact h.same hsame

theorem destroyEncoder (hvideo : s.isOpen .encodeVideo = true)
    (haudio : s.isOpen .encodeAudio = true) :
    Kept s (s.after (run s .destroyEncoder).2 (run s .destroyEncoder).1) := by
  have hall : ∀ x : Site, x.init.sends = true → s.isOpen x.init = true := by
    intro x hx
    cases x <;> first | exact hvideo | exact haudio | cases hx
  have hvalid : ∀ x : Site, x.init.sends = true → (s.globals.slot x).Valid := by
    intro x hx
    refine h.valid_of_required (hall x hx) ?_
    cases x <;> first | rfl | cases hx
  obtain ⟨m', hrun, hloader, hhandle, hslot⟩ :=
    destroyEncoder_of_valid hvalid (h.valid_handle (.inl hvideo))
  simp only [run, hrun, State.after]
  exact h.closed hall hslot hloader hhandle

theorem destroyDecoder (hvideo : s.isOpen .decodeVideo = true)
    (haudio : s.isOpen .decodeAudio = true) :
    Kept s (s.after (run s .destroyDecoder).2 (run s .destroyDecoder).1) := by
  have hall : ∀ x : Site, x.init.sends = false → s.isOpen x.init = true := by
    intro x hx
    cases x <;> first | exact hvideo | exact haudio | cases hx
  have hsess : ∀ x, x = .receiveVideoSess ∨ x = .receiveAudioSess →
      s.globals.pointer x ≠ none → (s.globals.slot x).Valid := by
    rintro x (rfl | rfl) hp
    · exact h.valid hvideo hp
    · exact h.valid haudio hp
  have hstrm : ∀ sess strm, (sess, strm) = (.receiveVideoSess, .receiveVideoStrm) ∨
      (sess, strm) = (.receiveAudioSess, .receiveAudioStrm) → s.globals.pointer strm ≠ none →
      (s.globals.slot strm).Valid ∧ (s.globals.slot sess).Valid := by
    rintro sess strm (he | he) hp <;> cases he
    · exact ⟨h.valid hvideo hp, h.valid hvideo (h.strm hp)⟩
    · exact ⟨h.valid haudio hp, h.valid_of_required haudio rfl⟩
  obtain ⟨m', hrun, hloader, hhandle, hslot⟩ := destroyDecoder_of_valid
    (h.valid_of_required hvideo rfl) (h.valid_of_required haudio rfl)
    (h.valid_handle (.inr hvideo)) hsess hstrm
  simp only [run, hrun, State.after]
  refine h.closed hall (fun x => ?_) hloader hhandle
  rw [hslot]
  cases x.init.sends <;> rfl

theorem next {t : State} {a : Act} (hcareful : careful s a) (hn : next s a = some t) :
    Kept s t := by
  obtain ⟨hadmitted, rfl⟩ := next_eq_some hn
  cases a with
  | initEncodeVideoData videoFormatNum calls =>
    exact h.initEncodeVideoData (Bool.not_eq_true' _ ▸ hadmitted) hcareful
  | initEncodeAudioData calls =>
    exact h.initEncodeAudioData (Bool.not_eq_true' _ ▸ hadmitted) hcareful
  | encodeVideoData ret nals =>
    obtain ⟨m', hrun, hsame⟩ := encodeVideoData_same (h.valid_of_required hadmitted rfl)
      (h.valid_of_required hadmitted rfl) ret nals
    exact h.media (by rw [run, hrun]) hsame
  | encodeAudioData numBytes =>
    obtain ⟨m', hrun, hsame⟩ := encodeAudioData_same (h.valid_of_required hadmitted rfl)
      (h.valid_of_required hadmitted rfl) numBytes
    exact h.media (by rw [run, hrun]) hsame
  | destroyEncoder =>
    obtain ⟨hvideo, haudio⟩ := Bool.and_eq_true_iff.mp hadmitted
    exact h.destroyEncoder hvideo haudio
  | initDecodeVideoData calls =>
    exact h.initDecodeVideoData (Bool.not_eq_true' _ ▸ hadmitted) hcareful
  | initDecodeAudioData calls =>
    exact h.initDecodeAudioData (Bool.not_eq_true' _ ▸ hadmitted) hcareful.1 hcareful.2
  | receiveAndDecodeVideoData frame decoded =>
    obtain ⟨m', hrun, hsame⟩ := receiveAndDecodeVideoData_same (h.valid hadmitted hcareful)
      (h.valid_of_required hadmitted rfl) frame decoded
    exact h.media (by rw [run, hrun]) hsame
  | receiveAndDecodeAudioData frame frameSize =>
    obtain ⟨m', hrun, hsame⟩ := receiveAndDecodeAudioData_same (h.valid hadmitted hcareful)
      (h.valid_of_required hadmitted rfl) frame frameSize
    exact h.media (by rw [run, hrun]) hsame
  | destroyDecoder =>
    obtain ⟨hvideo, haudio⟩ := Bool.and_eq_true_iff.mp hadmitted
    exact h.destroyDecoder hvideo haudio

end Inv

theorem inv_of_careful {s : State} (h : machine.ReachableBy careful s) : Inv s :=
  h.invariant (forall_eq.mpr inv_start)
    fun _ _ _ hi hcareful hn => (hi.next hcareful hn).inv

/-- Where a pipeline's init has not returned, everything its pointers were ever given has been
destroyed exactly once. -/
theorem Inv.settled {s : State} (h : Inv s) {x : Site} (hclosed : s.isOpen x.init = false) :
    (s.globals.slot x).ledger.liveCount = 0 ∧
      ∀ n < (s.globals.slot x).ledger.created,
        (s.globals.slot x).ledger.destroyed.count n = 1 :=
  ⟨Ledger.liveCount_eq_zero (h.idle x hclosed),
    fun _ hn => Ledger.count_destroyed (h.idle x hclosed) hn⟩

end ConnectUdp.Media
