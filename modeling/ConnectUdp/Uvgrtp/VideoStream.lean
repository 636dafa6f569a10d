import ConnectUdp.Nal.EncodeVideo
import ConnectUdp.Uvgrtp.EndToEnd

/-!
# From the video encoder to the video decoder

`encodeVideoData` pushes the NAL units of a picture, `receiveAndDecodeVideoData` pulls a frame and
hands its payload to `DecodeFrameNoDelay`.  Between them are the network and the reception flow of
the other side.
-/

namespace ConnectUdp.Uvgrtp

open EarlyExit Nal Transition

-- What `EncodeFrame` has filled in, and the results of the calls of `push_frame`.
structure EncodedPicture where
  info : FrameBSInfo
  push : Nat → Int
  wellFormed : ∀ layerInfo ∈ info, layerInfo.WellFormed

namespace EncodedPicture

variable (bufferSize : Nat) (picture : EncodedPicture)

-- The data of the calls of `push_frame`.
def pushFrames : List (List UInt8) :=
  (encodeVideoData bufferSize picture.push 0 picture.info).calls.map
    (PushFrame.bytes picture.info)

def nalUnits : List NalUnit :=
  sent (NalUnit.Admitted bufferSize) (fun i => picture.push i = RTP_OK) 0 (nals picture.info)

theorem nalUnits_isPrefix : picture.nalUnits bufferSize <+: nals picture.info :=
  sent_isPrefix 0 (nals picture.info)

theorem pushFrames_eq :
    picture.pushFrames bufferSize = (picture.nalUnits bufferSize).map NalUnit.bytes := by
  rw [pushFrames, encodeVideoData_calls_eq_sent bufferSize picture.push picture.wellFormed,
    List.map_map]
  apply List.map_congr_left
  intro nal hnal
  exact call_bytes ((picture.nalUnits_isPrefix bufferSize).subset hnal)

end EncodedPicture

-- The NAL units of the pictures that are sent; an empty one is refused.
def sentNals (bufferSize : Nat) (pictures : List EncodedPicture) : List NalUnit :=
  (pictures.flatMap fun picture => picture.nalUnits bufferSize).filter fun nal => nal.bytes ≠ []

theorem map_bytes_sentNals (bufferSize : Nat) (pictures : List EncodedPicture) :
    (sentNals bufferSize pictures).map NalUnit.bytes =
      (pictures.flatMap fun picture => picture.pushFrames bufferSize).filter (· ≠ []) := by
  have hpushed : (pictures.flatMap fun picture => picture.pushFrames bufferSize) =
      (pictures.flatMap fun picture => picture.nalUnits bufferSize).map NalUnit.bytes := by
    rw [List.map_flatMap]
    exact List.flatMap_congr fun picture _ => picture.pushFrames_eq bufferSize
  rw [hpushed, List.filter_map]
  rfl

/-! ## What a run pushes -/

variable {cfg : Settings} {s t : Session}

def SessionAct.data : SessionAct → Option (List UInt8)
  | .push data .. => some data
  | .deliver .. => none

theorem pushes_step {a : SessionAct} (hok : s.StepOk a) (hn : s.next cfg a = some t) :
    t.pushes.map Push.data = s.pushes.map Push.data ++ (a.data.toList.filter (· ≠ [])) := by
  cases a with
  | push data now random =>
    rw [Session.next] at hn
    split at hn
    · cases hn
    cases hn
    by_cases hdata : data = []
    · subst hdata
      exact (List.append_nil _).symm
    · obtain ⟨rtp, -, hstep⟩ := Session.push_eq hdata hok
      have hkept : (SessionAct.push data now random).data.toList.filter (· ≠ []) = [data] :=
        List.filter_eq_self.mpr fun _ hd => List.mem_singleton.mp hd ▸ decide_eq_true hdata
      rw [hstep, hkept]
      exact List.map_append
  | deliver p k now =>
    rw [Session.next] at hn
    split at hn
    · cases hn
    obtain ⟨datagram, -, rfl⟩ := Option.map_eq_some_iff.mp hn
    rw [Session.deliver]
    split
    · exact (List.append_nil _).symm
    · exact (List.append_nil _).symm

theorem pushes_exec {as : List SessionAct}
    (hsteps : (Session.machine cfg).StepsMeet Session.StepOk s as)
    (hexec : (Session.machine cfg).exec s as = some t) :
    t.pushes.map Push.data =
      s.pushes.map Push.data ++ (as.filterMap SessionAct.data).filter (· ≠ []) := by
  induction as generalizing s with
  | nil =>
    cases hexec
    exact (List.append_nil _).symm
  | cons a as ih =>
    obtain ⟨u, hn, hrest⟩ := Machine.exec_cons_eq_some.mp hexec
    obtain ⟨hok, hlater⟩ := hsteps u hn
    rw [ih hlater hrest, pushes_step hok hn, List.append_assoc, ← List.filter_append]
    cases hdata : a.data with
    | none =>
      rw [List.filterMap_cons_none hdata]
      rfl
    | some data =>
      rw [List.filterMap_cons_some hdata]
      rfl

/-- What is pulled for the decoder is, behind a start code each, NAL units of the pictures that have
been encoded, none of them twice. -/
theorem decoded_nals {s₀ : Session} {as : List SessionAct}
    {flow : Flow (Except Fault H26x) Nat Frame} {bufferSize : Nat} {pictures : List EncodedPicture}
    (hinit : s₀.init) (hexec : (Session.machine cfg).exec s₀ as = some s)
    (hsteps : (Session.machine cfg).StepsMeet Session.StepOk s₀ as)
    (hflow : (Flow.machine (h264Handlers cfg) (.ok s₀.receiver)).ReachableBy Flow.RoomOk flow)
    (hhandled : flow.handled = deliveries cfg s₀ as)
    (hpushed : as.filterMap SessionAct.data =
      pictures.flatMap fun picture => picture.pushFrames bufferSize) :
    ∃ ps : List Nat, ps.Nodup ∧ List.Forall₂ (fun p frame => ∃ nal,
      (sentNals bufferSize pictures)[p]? = some nal ∧
        frame.payload = startCode cfg ++ nal.bytes) ps flow.pulled := by
  obtain ⟨ps, hnodup, hall⟩ := pulled_pushes hinit hexec hsteps hflow hhandled
  refine ⟨ps, hnodup, hall.imp ?_⟩
  rintro p frame ⟨push, hp, hpayload⟩
  have hempty : s₀.pushes = [] := by
    obtain ⟨rtp, now, rfl⟩ := hinit
    rfl
  have hpushes := pushes_exec hsteps hexec
  rw [hempty, List.map_nil, List.nil_append, hpushed, ← map_bytes_sentNals] at hpushes
  have hdata : (s.pushes.map Push.data)[p]? =
      ((sentNals bufferSize pictures).map NalUnit.bytes)[p]? := by
    rw [hpushes]
  rw [List.getElem?_map, hp, List.getElem?_map, Option.map_some] at hdata
  obtain ⟨nal, hnal, hbytes⟩ := Option.map_eq_some_iff.mp hdata.symm
  exact ⟨nal, hnal, by rw [hpayload, hbytes]⟩

-- The key frame in the first layer, the other NAL unit in the second.
def twoLayers : EncodedPicture where
  info := [⟨[7], some fun i => [0x65, 1, 2, 3, 4, 5, 6].getD i 0⟩,
    ⟨[3], some fun i => [0x67, 8, 9].getD i 0⟩]
  push := fun _ => RTP_OK
  wellFormed := by
    intro layerInfo hmem
    rcases List.mem_cons.mp hmem with rfl | hmem
    · exact ⟨List.forall_iff_forall_mem.mp (by decide), by decide⟩
    · rcases List.mem_singleton.mp hmem with rfl
      exact ⟨List.forall_iff_forall_mem.mp (by decide), by decide⟩

theorem decoded_nals_reordered :
    ∃ flow, (Flow.machine (h264Handlers ⟨false, false, 500⟩) (.ok idle.receiver)).exec
        (Flow.start 8 1464 (.ok idle.receiver))
        (reorderedFlow (deliveries ⟨false, false, 500⟩ idle reordered)) = some flow ∧
      flow.pulled.length = 2 ∧
      ∃ ps : List Nat, ps.Nodup ∧ List.Forall₂ (fun p frame => ∃ nal,
        (sentNals videoEncodeBufferSize [twoLayers])[p]? = some nal ∧
          frame.payload = [0, 0, 1] ++ nal.bytes) ps flow.pulled := by
  obtain ⟨s, hexec, -⟩ := reordered_exec
  obtain ⟨flow, hflow, hreach, hhandled, hpulled⟩ := reorderedFlow_exec
  have hpushed : reordered.filterMap SessionAct.data =
      [twoLayers].flatMap fun picture => picture.pushFrames videoEncodeBufferSize := by
    decide
  exact ⟨flow, hflow, hpulled,
    decoded_nals idle_init hexec reordered_steps hreach hhandled hpushed⟩

end ConnectUdp.Uvgrtp
