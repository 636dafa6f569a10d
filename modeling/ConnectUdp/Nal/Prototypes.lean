import ConnectUdp.Nal.EncodeVideo

/-!
# The NAL walks of the prototypes

`sendVideo` of `testSender.cpp` makes the tests of `encodeVideoData` but only prints what it finds,
`sendVideoData` of `mediaSender.cpp` tests nothing but the push.  Neither ever leaves its loops.
-/

namespace ConnectUdp.Nal

open EarlyExit

-- `cerr << text << endl` when the test holds.
def Walk.printIf (w : Walk) (test : Prop) [Decidable test] (text : String) : Walk :=
  if test then w.debug text else w

def sendVideoNal (bufferSize : Nat) (push : Nat → Int) (layer : Nat) (layerInfo : LayerBSInfo)
    (layerSize : Int) (len : Int32) (w : Walk) : Id Walk :=
  let w := w.printIf (layerInfo.pBsBuf.isNone = true) "エンコードされたデータが nullptr です。"
  let w := w.printIf (bufferSize < sizeT (len.toInt + layerSize))
    "NALユニットのサイズがバッファサイズを超えています。"
  let ret := push w.calls.length
  (w.pushFrame (frameAt layer layerSize len)).printIf (ret ≠ RTP_OK)
    "RTPフレームの送信に失敗しました"

/-- `sendVideo` of `testSender.cpp` on one picture. -/
def sendVideo (bufferSize : Nat) (push : Nat → Int) (ret : Int) (info : FrameBSInfo) : Walk :=
  if ret ≠ 0 then Walk.start.debug "エンコードに失敗"
  else (forNals (sendVideoNal bufferSize push) info .start).run

def sendVideoDataNal (push : Nat → Int) (layer : Nat) (_layerInfo : LayerBSInfo)
    (layerSize : Int) (len : Int32) (w : Walk) : Id Walk :=
  let ret := push w.calls.length
  (w.pushFrame (frameAt layer layerSize len)).printIf (ret ≠ RTP_OK)
    "RTPフレームの送信に失敗しました"

def sendVideoData (push : Nat → Int) (ret : Int) (info : FrameBSInfo) : Walk :=
  if ret ≠ 0 then Walk.start.debug "エンコードに失敗"
  else (forNals (sendVideoDataNal push) info .start).run

/-! ## Both push every NAL unit -/

theorem calls_printIf (w : Walk) (test : Prop) [Decidable test] (text : String) :
    (w.printIf test text).calls = w.calls := by
  unfold Walk.printIf
  split <;> rfl

theorem calls_sendVideoNal (bufferSize : Nat) (push : Nat → Int) (v : Visit) (w : Walk) :
    (sendVideoNal bufferSize push v.layer v.layerInfo v.layerSize v.len w).run.calls =
      w.calls ++ [frameAt v.layer v.layerSize v.len] := by
  unfold sendVideoNal
  refine (calls_printIf _ _ _).trans ?_
  simp only [Walk.pushFrame, calls_printIf]

theorem calls_sendVideoDataNal (push : Nat → Int) (v : Visit) (w : Walk) :
    (sendVideoDataNal push v.layer v.layerInfo v.layerSize v.len w).run.calls =
      w.calls ++ [frameAt v.layer v.layerSize v.len] :=
  calls_printIf _ _ _

/-- A body that makes one call for each NAL unit makes them all. -/
theorem calls_forNals (body : Nat → LayerBSInfo → Int → Int32 → Walk → Id Walk)
    (hbody : ∀ (v : Visit) (w : Walk), (body v.layer v.layerInfo v.layerSize v.len w).run.calls =
      w.calls ++ [frameAt v.layer v.layerSize v.len]) (info : FrameBSInfo) :
    (forNals body info .start).run.calls =
      (visits info).map fun v => frameAt v.layer v.layerSize v.len := by
  have hloop : ∀ (vs : List Visit) (w : Walk), (vs.foldlM (fun w v =>
      body v.layer v.layerInfo v.layerSize v.len w) w).run.calls =
      w.calls ++ vs.map fun v => frameAt v.layer v.layerSize v.len := by
    intro vs
    induction vs with
    | nil => exact fun w => (List.append_nil _).symm
    | cons v vs ih =>
      intro w
      rw [List.foldlM_cons, List.map_cons]
      refine (ih (body v.layer v.layerInfo v.layerSize v.len w).run).trans ?_
      rw [hbody, List.append_assoc, List.singleton_append]
  rw [forNals_eq_foldlM, hloop]
  rfl

theorem sendVideo_calls (bufferSize : Nat) (push : Nat → Int) (info : FrameBSInfo) :
    (sendVideo bufferSize push 0 info).calls =
      (visits info).map fun v => frameAt v.layer v.layerSize v.len := by
  rw [sendVideo, if_neg (not_not.mpr rfl), calls_forNals _ (calls_sendVideoNal bufferSize push)]

theorem sendVideoData_calls (push : Nat → Int) (info : FrameBSInfo) :
    (sendVideoData push 0 info).calls =
      (visits info).map fun v => frameAt v.layer v.layerSize v.len := by
  rw [sendVideoData, if_neg (not_not.mpr rfl), calls_forNals _ (calls_sendVideoDataNal push)]

section wellFormed

variable {info : FrameBSInfo}

theorem frames_eq_nals (h : ∀ layerInfo ∈ info, layerInfo.WellFormed) :
    ((visits info).map fun v => frameAt v.layer v.layerSize v.len) =
      (nals info).map NalUnit.call := by
  rw [← visits_nal fun l hl => (h l hl).nonneg, List.map_map]
  exact List.map_congr_left fun v hv => frameAt_eq_call (visits_fits h v hv)

/-- The library pushes an initial part of what the prototypes push, which is the same in both; it
pushes all of it exactly when every unit ends inside the buffer and no push but the last fails. -/
theorem encodeVideoData_refines_sendVideo (bufferSize testBufferSize : Nat) (push : Nat → Int)
    (info : FrameBSInfo) (hbuf : ∀ layerInfo ∈ info, layerInfo.pBsBuf.isSome = true)
    (h : ∀ layerInfo ∈ info, layerInfo.WellFormed) :
    (encodeVideoData bufferSize push 0 info).calls <+:
      (sendVideo testBufferSize push 0 info).calls ∧
    (sendVideo testBufferSize push 0 info).calls = (sendVideoData push 0 info).calls ∧
    ((encodeVideoData bufferSize push 0 info).calls =
        (sendVideo testBufferSize push 0 info).calls ↔
      (∀ nal ∈ nals info, nal.slice.stop ≤ bufferSize) ∧
        ∀ i, i + 1 < (nals info).length → push i = RTP_OK) := by
  rw [sendVideoData_calls, sendVideo_calls, frames_eq_nals h, encodeVideoData_calls_eq_sent _ _ h]
  have hinitial : sent (NalUnit.Admitted bufferSize) (fun i => push i = RTP_OK) 0 (nals info) <+:
      nals info := sent_isPrefix 0 (nals info)
  refine ⟨hinitial.map _, rfl, ?_⟩
  have hwhole : (sent (NalUnit.Admitted bufferSize) (fun i => push i = RTP_OK) 0
      (nals info)).map NalUnit.call = (nals info).map NalUnit.call ↔
      sent (NalUnit.Admitted bufferSize) (fun i => push i = RTP_OK) 0 (nals info) = nals info := by
    constructor
    · intro heq
      have hlen := congrArg List.length heq
      rw [List.length_map, List.length_map] at hlen
      exact hinitial.eq_of_length hlen
    · exact congrArg _
  rw [hwhole, sent_eq_self_iff]
  simp only [Nat.zero_add]
  refine and_congr_left fun _ => forall₂_congr fun nal hnal => ?_
  exact and_iff_right (pBsBuf_isSome_of_mem_nals hnal hbuf)

end wellFormed

-- A failing first push stops the library but not the prototypes.
theorem encodeVideoData_refines_sendVideo_two_nals :
    let info : FrameBSInfo := [⟨[3, 4], some fun i => UInt8.ofNat i⟩]
    let push : Nat → Int := fun i => if i = 0 then -1 else RTP_OK
    (encodeVideoData videoEncodeBufferSize push 0 info).calls = [⟨0, 0, 3⟩] ∧
    (sendVideo videoEncodeBufferSize push 0 info).calls = [⟨0, 0, 3⟩, ⟨0, 3, 4⟩] ∧
    (encodeVideoData videoEncodeBufferSize push 0 info).calls <+:
      (sendVideo videoEncodeBufferSize push 0 info).calls := by
  refine ⟨by decide, by decide, ?_⟩
  refine (encodeVideoData_refines_sendVideo videoEncodeBufferSize videoEncodeBufferSize _ _ ?_ ?_).1
  · exact fun _ hmem => List.mem_singleton.mp hmem ▸ rfl
  · intro layerInfo hmem
    rcases List.mem_singleton.mp hmem with rfl
    exact ⟨List.forall_iff_forall_mem.mp (by decide), by decide⟩

end ConnectUdp.Nal
