import ConnectUdp.EarlyExit
import ConnectUdp.Media.Effects
import ConnectUdp.Nal.Walk

/-!
# The NAL walk of `encodeVideoData`

The loops behind `EncodeFrame` push one NAL unit after the other and return from the whole
function at the first error.
-/

namespace ConnectUdp.Nal

open EarlyExit

-- What `videoEncodeBufferSize` is initialised to.
def videoEncodeBufferSize : Nat := 1920 * 1080 * 3 / 2

def RTP_OK : Int := 0

/-- One call of `push_frame`: its pointer is `start` bytes behind the `pBsBuf` of the layer. -/
structure PushFrame where
  layer : Nat
  start : Int
  length : Nat
  deriving DecidableEq, Repr

/-- The calls of `push_frame` so far, and the texts passed to `debugCallback` or `cerr`. -/
structure Walk where
  calls : List PushFrame
  log : List String
  deriving DecidableEq, Repr

namespace Walk

def start : Walk :=
  ⟨[], []⟩

def debug (w : Walk) (text : String) : Walk :=
  { w with log := w.log ++ [text] }

def pushFrame (w : Walk) (frame : PushFrame) : Walk :=
  { w with calls := w.calls ++ [frame] }

-- The walk at the end of the function: `.error` is a `return` from inside the loops.
def returned : Except Walk Walk → Walk
  | .ok w | .error w => w

end Walk

-- The call for the NAL unit at `layerSize`.
def frameAt (layer : Nat) (layerSize : Int) (len : Int32) : PushFrame :=
  ⟨layer, layerSize, sizeT len.toInt⟩

/-- The body of the loops of `encodeVideoData`; `push i` is the result of the `i`-th call of
`push_frame`. -/
def encodeVideoNal (bufferSize : Nat) (push : Nat → Int) (layer : Nat) (layerInfo : LayerBSInfo)
    (layerSize : Int) (len : Int32) (w : Walk) : Except Walk Walk :=
  if layerInfo.pBsBuf.isNone then .error (w.debug "エンコードされたデータがnullptrです")
  -- the sum is an `int`, the size a `size_t`
  else if bufferSize < sizeT (len.toInt + layerSize) then
    .error (w.debug "NALユニットのサイズがバッファサイズを超えています")
  else
    let pushed := w.pushFrame (frameAt layer layerSize len)
    if push w.calls.length ≠ RTP_OK then .error (pushed.debug "RTPフレームの送信に失敗しました")
    else .ok pushed

-- `ret` is what `EncodeFrame` returns, `info` what it fills in.
def encodeVideoData (bufferSize : Nat) (push : Nat → Int) (ret : Int) (info : FrameBSInfo) :
    Walk :=
  if ret ≠ 0 then Walk.start.debug "エンコードに失敗"
  else Walk.returned (forNals (encodeVideoNal bufferSize push) info .start)

/-! ## What is pushed -/

namespace NalUnit

def call (nal : NalUnit) : PushFrame :=
  ⟨nal.layer, nal.slice.start, nal.slice.length⟩

/-- The two tests in front of `push_frame` let the NAL unit through. -/
def Admitted (bufferSize : Nat) (nal : NalUnit) : Prop :=
  nal.pBsBuf.isSome = true ∧ nal.slice.stop ≤ bufferSize

instance Admitted.decidable (bufferSize : Nat) : DecidablePred (Admitted bufferSize) :=
  fun _ => inferInstanceAs (Decidable (_ ∧ _))

end NalUnit

-- The bytes that `push_frame` reads.
def PushFrame.bytes (info : FrameBSInfo) (call : PushFrame) : List UInt8 :=
  match info[call.layer]?.bind LayerBSInfo.pBsBuf with
  | none => []
  | some mem => Slice.read mem ⟨call.start.toNat, call.length⟩

theorem pBsBuf_of_mem_nals {info : FrameBSInfo} {nal : NalUnit} (h : nal ∈ nals info) :
    info[nal.layer]?.bind LayerBSInfo.pBsBuf = nal.pBsBuf := by
  obtain ⟨layerInfo, hlayer, hsame⟩ := mem_nals h
  rw [hlayer, hsame]
  rfl

/-- The call for a NAL unit reads the bytes of that unit. -/
theorem call_bytes {info : FrameBSInfo} {nal : NalUnit} (h : nal ∈ nals info) :
    nal.call.bytes info = nal.bytes := by
  have hbuf := pBsBuf_of_mem_nals h
  unfold PushFrame.bytes NalUnit.bytes
  change (match info[nal.layer]?.bind LayerBSInfo.pBsBuf with | none => [] | some mem => _) = _
  rw [hbuf]
  rfl

/-! ## The loop -/

section loop

variable {bufferSize : Nat} {push : Nat → Int} {v : Visit} {w : Walk}

theorem frameAt_eq_call (h : v.Fits) : frameAt v.layer v.layerSize v.len = v.nal.call := by
  have hsize := h.layerSize_nonneg
  have hlen := h.len_nonneg
  have hstop := h.stop_lt
  rw [frameAt, sizeT_of_fits hlen (by omega)]
  change _ = PushFrame.mk v.layer (v.layerSize.toNat : Int) v.len.toInt.toNat
  rw [Int.toNat_of_nonneg hsize]

-- The comparison of the signed sum with a `size_t` is the comparison of the end offset.
theorem admitted_iff (h : v.Fits) : v.nal.Admitted bufferSize ↔
    v.layerInfo.pBsBuf.isNone = false ∧ ¬ bufferSize < sizeT (v.len.toInt + v.layerSize) := by
  have hsize := h.layerSize_nonneg
  have hlen := h.len_nonneg
  rw [sizeT_of_fits (by omega) h.stop_lt]
  change v.layerInfo.pBsBuf.isSome = true ∧
    v.layerSize.toNat + v.len.toInt.toNat ≤ bufferSize ↔ _
  rw [Option.isNone_eq_false_iff]
  exact and_congr_right fun _ => by omega

/-- What one turn of the loops does: return without a push, return behind a push, go on. -/
theorem encodeVideoNal_cases (bufferSize : Nat) (push : Nat → Int) (w : Walk) (h : v.Fits) :
    let turn := encodeVideoNal bufferSize push v.layer v.layerInfo v.layerSize v.len w
    (¬ v.nal.Admitted bufferSize ∧ ∃ text, turn = .error (w.debug text)) ∨
    (v.nal.Admitted bufferSize ∧ push w.calls.length ≠ RTP_OK ∧
      ∃ text, turn = .error ((w.pushFrame v.nal.call).debug text)) ∨
    (v.nal.Admitted bufferSize ∧ push w.calls.length = RTP_OK ∧
      turn = .ok (w.pushFrame v.nal.call)) := by
  simp only [encodeVideoNal, frameAt_eq_call h, admitted_iff h]
  by_cases hnull : v.layerInfo.pBsBuf.isNone
  · rw [if_pos hnull]
    exact .inl ⟨fun hadm => absurd hnull (ne_true_of_eq_false hadm.1), _, rfl⟩
  · by_cases hsize : bufferSize < sizeT (v.len.toInt + v.layerSize)
    · rw [if_neg hnull, if_pos hsize]
      exact .inl ⟨fun hadm => hadm.2 hsize, _, rfl⟩
    · have hadm := And.intro (eq_false_of_ne_true hnull) hsize
      rw [if_neg hnull, if_neg hsize]
      by_cases hret : push w.calls.length = RTP_OK
      · exact .inr (.inr ⟨hadm, hret, if_neg (not_not.mpr hret)⟩)
      · exact .inr (.inl ⟨hadm, hret, _, if_pos hret⟩)

/-- The pushes of the remaining loop are what an early exit leaves of the NAL units. -/
theorem foldlM_encodeVideoNal_calls (vs : List Visit) (h : ∀ v ∈ vs, v.Fits) (w : Walk) :
    (Walk.returned (vs.foldlM (fun w v =>
      encodeVideoNal bufferSize push v.layer v.layerInfo v.layerSize v.len w) w)).calls =
      w.calls ++ (sent (NalUnit.Admitted bufferSize) (fun i => push i = RTP_OK) w.calls.length
        (vs.map Visit.nal)).map NalUnit.call := by
  induction vs generalizing w with
  | nil => exact (List.append_nil _).symm
  | cons v vs ih =>
    rw [List.foldlM_cons, List.map_cons]
    rcases encodeVideoNal_cases bufferSize push w (h v List.mem_cons_self) with
      ⟨hadm, text, hturn⟩ | ⟨hadm, hret, text, hturn⟩ | ⟨hadm, hret, hturn⟩ <;> rw [hturn]
    · rw [sent_cons_of_not_admits hadm]
      exact (List.append_nil _).symm
    · rw [sent_cons_of_not_accepts hadm hret]
      rfl
    · have hrest := ih (fun u hu => h u (List.mem_cons_of_mem _ hu)) (w.pushFrame v.nal.call)
      rw [sent_cons_of_accepts hadm hret]
      change (Walk.returned (vs.foldlM _ (w.pushFrame v.nal.call))).calls = _
      rw [hrest]
      simp only [Walk.pushFrame, List.length_append, List.length_singleton, List.map_cons,
        List.append_assoc, List.singleton_append]

end loop

/-- The calls of `push_frame` are the early exit from the enumerated NAL units. -/
theorem encodeVideoData_calls_eq_sent (bufferSize : Nat) (push : Nat → Int) {info : FrameBSInfo}
    (h : ∀ layerInfo ∈ info, layerInfo.WellFormed) :
    (encodeVideoData bufferSize push 0 info).calls =
      (sent (NalUnit.Admitted bufferSize) (fun i => push i = RTP_OK) 0 (nals info)).map
        NalUnit.call := by
  rw [encodeVideoData, if_neg (not_not.mpr rfl), forNals_eq_foldlM,
    foldlM_encodeVideoNal_calls _ (visits_fits h), visits_nal fun l hl => (h l hl).nonneg]
  rfl

theorem calls_bytes {info : FrameBSInfo} {pushed : List NalUnit}
    (h : ∀ nal ∈ pushed, nal ∈ nals info) :
    (pushed.map NalUnit.call).flatMap (PushFrame.bytes info) = pushed.flatMap NalUnit.bytes := by
  rw [List.flatMap_map]
  exact List.flatMap_congr fun nal hnal => call_bytes (h nal hnal)

/-- The calls of `push_frame` are the first `k` NAL units in the order (layer, nal), all of them
inside the encode buffer.  The walk goes on behind every push but the last; where it ends early
the next unit fails a test or the last push has failed, and where it does not it has pushed the
bitstreams of the layers byte for byte. -/
theorem encodeVideoData_pushes (bufferSize : Nat) (push : Nat → Int) (info : FrameBSInfo)
    (h : ∀ layerInfo ∈ info, layerInfo.WellFormed) :
    ∃ k ≤ (nals info).length,
      (encodeVideoData bufferSize push 0 info).calls =
        ((nals info).take k).map NalUnit.call ∧
      (∀ nal ∈ (nals info).take k, nal.Admitted bufferSize) ∧
      (∀ i, i + 1 < k → push i = RTP_OK) ∧
      (∀ hk : k < (nals info).length, ¬ (nals info)[k].Admitted bufferSize ∨
        0 < k ∧ push (k - 1) ≠ RTP_OK) ∧
      (∀ call ∈ (encodeVideoData bufferSize push 0 info).calls,
        0 ≤ call.start ∧ call.start + call.length ≤ bufferSize) ∧
      (k = (nals info).length →
        (encodeVideoData bufferSize push 0 info).calls.flatMap (PushFrame.bytes info) =
          info.flatMap LayerBSInfo.bitstream) := by
  have hcalls := encodeVideoData_calls_eq_sent bufferSize push h
  have hinitial : sent (NalUnit.Admitted bufferSize) (fun i => push i = RTP_OK) 0 (nals info) <+:
      nals info := sent_isPrefix 0 (nals info)
  have htake := List.prefix_iff_eq_take.mp hinitial
  refine ⟨_, hinitial.length_le, hcalls.trans (congrArg _ htake), ?_, ?_, ?_, ?_, ?_⟩
  · intro nal hnal
    rw [← htake] at hnal
    exact admits_of_mem_sent hnal
  · intro i hi
    have haccepts := accepts_of_succ_lt hi
    rw [Nat.zero_add] at haccepts
    exact haccepts
  · intro hk
    have hstop := stopped_of_length_lt hk
    rw [Nat.zero_add] at hstop
    exact hstop
  · intro call hcall
    rw [hcalls] at hcall
    obtain ⟨nal, hnal, rfl⟩ := List.mem_map.mp hcall
    have hstop := (admits_of_mem_sent hnal).2
    unfold Slice.stop at hstop
    change (0 : Int) ≤ nal.slice.start ∧ (nal.slice.start : Int) + nal.slice.length ≤ bufferSize
    omega
  · intro hk
    rw [hcalls, hinitial.eq_of_length hk, calls_bytes fun _ h => h, nals_bytes]

-- Two layers with a null buffer in the second; the third push fails.
theorem encodeVideoData_pushes_two_layers :
    (encodeVideoData videoEncodeBufferSize (fun i => if i = 2 then -1 else RTP_OK) 0
      [⟨[3, 0, 4], some fun i => UInt8.ofNat i⟩, ⟨[5], none⟩]).calls =
        [⟨0, 0, 3⟩, ⟨0, 3, 0⟩, ⟨0, 3, 4⟩] ∧
    ∃ k ≤ 4, (encodeVideoData videoEncodeBufferSize (fun i => if i = 2 then -1 else RTP_OK) 0
      [⟨[3, 0, 4], some fun i => UInt8.ofNat i⟩, ⟨[5], none⟩]).calls =
        ((nals [⟨[3, 0, 4], some fun i => UInt8.ofNat i⟩, ⟨[5], none⟩]).take k).map
          NalUnit.call := by
  refine ⟨by decide, ?_⟩
  obtain ⟨k, hk, hcalls, -⟩ := encodeVideoData_pushes videoEncodeBufferSize
    (fun i => if i = 2 then -1 else RTP_OK)
    [⟨[3, 0, 4], some fun i => UInt8.ofNat i⟩, ⟨[5], none⟩] (by
      intro layerInfo hmem
      rcases List.mem_cons.mp hmem with rfl | hmem
      · exact ⟨List.forall_iff_forall_mem.mp (by decide), by decide⟩
      · rcases List.mem_singleton.mp hmem with rfl
        exact ⟨List.forall_iff_forall_mem.mp (by decide), by decide⟩)
  exact ⟨k, hk, hcalls⟩

/-! ## The objects behind the walk -/

-- What `Media.sendNals` is told of a NAL unit, `n` pushes having been made before.
def Visit.found (bufferSize : Nat) (push : Nat → Int) (n : Nat) (v : Visit) : Media.Nal :=
  if v.layerInfo.pBsBuf.isNone then .nullBuffer
  else if bufferSize < sizeT (v.len.toInt + v.layerSize) then .tooLarge
  else .pushFrame (push n)

def found (bufferSize : Nat) (push : Nat → Int) : Nat → List Visit → List Media.Nal
  | _, [] => []
  | n, v :: vs => v.found bufferSize push n :: found bufferSize push (n + 1) vs

section objects

variable {m : Media.Globals}

def withLog (m : Media.Globals) (log : List String) : Media.Globals :=
  { m with log := m.log ++ log }

theorem debug_withLog (log : List String) (text : String) :
    (withLog m log).debug text = withLog m (log ++ [text]) := by
  unfold withLog Media.Globals.debug
  simp only [List.append_assoc]

theorem sendNals_found (bufferSize : Nat) (push : Nat → Int)
    (hstrm : (m.slot .sendVideoStrm).Valid) (vs : List Visit) (w : Walk) :
    Media.sendNals (withLog m w.log) (found bufferSize push w.calls.length vs) =
      .ok (withLog m (Walk.returned (vs.foldlM (fun w v =>
        encodeVideoNal bufferSize push v.layer v.layerInfo v.layerSize v.len w) w)).log) := by
  induction vs generalizing w with
  | nil => rfl
  | cons v vs ih =>
    rw [List.foldlM_cons, found, Visit.found, encodeVideoNal]
    by_cases hnull : v.layerInfo.pBsBuf.isNone
    · rw [if_pos hnull, if_pos hnull]
      exact congrArg Except.ok (debug_withLog _ _)
    · by_cases hsize : bufferSize < sizeT (v.len.toInt + v.layerSize)
      · rw [if_neg hnull, if_neg hnull, if_pos hsize, if_pos hsize]
        exact congrArg Except.ok (debug_withLog _ _)
      · rw [if_neg hnull, if_neg hnull, if_neg hsize, if_neg hsize, Media.sendNals,
          Media.use_of_valid (m := withLog m w.log) hstrm]
        by_cases hret : push w.calls.length = RTP_OK
        · have hrest := ih (w.pushFrame (frameAt v.layer v.layerSize v.len))
          rw [Walk.pushFrame, List.length_append, List.length_singleton] at hrest
          simp only [hret, RTP_OK, ne_eq, not_true_eq_false, if_false]
          exact hrest
        · rw [RTP_OK] at hret
          simp only [RTP_OK, ne_eq, hret, not_false_eq_true, if_true]
          exact congrArg Except.ok (debug_withLog _ _)

/-- With live objects the walk is the `encodeVideoData` of the life cycle, text for text. -/
theorem media_encodeVideoData (bufferSize : Nat) (push : Nat → Int) (ret : Int)
    (info : FrameBSInfo) (hencoder : (m.slot .videoEncoder).Valid)
    (hstrm : (m.slot .sendVideoStrm).Valid) :
    Media.encodeVideoData m ret (found bufferSize push 0 (visits info)) =
      .ok (withLog m (encodeVideoData bufferSize push ret info).log) := by
  rw [Media.encodeVideoData, Media.use_of_valid hencoder, encodeVideoData]
  by_cases hret : ret = 0
  · simp only [hret, ne_eq, not_true_eq_false, if_false]
    have hloop := sendNals_found bufferSize push hstrm (visits info) .start
    rw [← forNals_eq_foldlM, show withLog m Walk.start.log = m from
      congrArg (fun log => { m with log := log }) (List.append_nil _)] at hloop
    exact hloop
  · simp only [hret, ne_eq, not_false_eq_true, if_true]
    rfl

end objects

end ConnectUdp.Nal
