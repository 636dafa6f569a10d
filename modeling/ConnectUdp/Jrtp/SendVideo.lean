import Mathlib.Data.List.Flatten
import ConnectUdp.Jrtp.PacketBuilder
import ConnectUdp.Nal.Walk

/-!
# The pictures that `sendVideo` of `testSenderJrtp.cpp` sends

Every NAL unit goes into one `SendPacket`, whose result is dropped.  The offsets into a layer are
`int`s that are taken not to overflow.
-/

namespace ConnectUdp.Jrtp

open Nal

structure Sender where
  session : RTPSession
  -- The lines printed to `cerr`.
  log : List String
  deriving DecidableEq, Repr

-- `cerr << text << endl` when the test holds.
def Sender.printIf (s : Sender) (test : Prop) [Decidable test] (text : String) : Sender :=
  if test then { s with log := s.log ++ [text] } else s

-- The bytes that `SendPacket` reads; reading through a null pointer is not modelled.
def nalData (layerInfo : LayerBSInfo) (layerSize : Int) (len : Int32) : List UInt8 :=
  match layerInfo.pBsBuf with
  | none => []
  | some mem => Slice.read mem ⟨layerSize.toNat, sizeT len.toInt⟩

def sendNal (bufferSize : Nat) (_layer : Nat) (layerInfo : LayerBSInfo) (layerSize : Int)
    (len : Int32) (s : Sender) : Id Sender :=
  let s := s.printIf (layerInfo.pBsBuf.isNone = true) "エンコードされたデータが nullptr です。"
  let s := s.printIf (bufferSize < sizeT (len.toInt + layerSize))
    "NALユニットのサイズがバッファサイズを超えています。"
  { s with session := (s.session.sendPacket (nalData layerInfo layerSize len) 96 false 160).2 }

/-- What `EncodeFrame` returns and fills in for one picture. -/
structure Encoded where
  ret : Int
  info : FrameBSInfo

def sendPicture (bufferSize : Nat) (s : Sender) (picture : Encoded) : Sender :=
  if picture.ret ≠ 0 then s.printIf True "エンコードに失敗"
  else (forNals (sendNal bufferSize) picture.info s).run

-- The `while` loop, which the first empty frame of the camera ends.
def sendVideo (bufferSize : Nat) (session : RTPSession) (pictures : List Encoded) : Sender :=
  pictures.foldl (sendPicture bufferSize) ⟨session, []⟩

namespace Encoded

/-- The NAL units of a picture, or nothing where the encoder failed. -/
def nalBytes (picture : Encoded) : List (List UInt8) :=
  if picture.ret ≠ 0 then [] else (nals picture.info).map NalUnit.bytes

/-- The encoder has put the NAL units into the buffers of their layers, and none is empty. -/
structure Filled (picture : Encoded) : Prop where
  pBsBuf : ∀ layerInfo ∈ picture.info, layerInfo.pBsBuf.isSome = true
  positive : ∀ layerInfo ∈ picture.info, ∀ len ∈ layerInfo.pNalLengthInByte, 0 < len.toInt

/-- Every NAL unit leaves room for the RTP header in a packet of the default size. -/
def NalsFit (picture : Encoded) : Prop :=
  picture.ret = 0 → ∀ layerInfo ∈ picture.info, ∀ len ∈ layerInfo.pNalLengthInByte,
    len.toInt ≤ 1388

end Encoded

/-! ## What the loops hand to the session -/

section loops

theorem session_printIf (s : Sender) (test : Prop) [Decidable test] (text : String) :
    (s.printIf test text).session = s.session := by
  unfold Sender.printIf
  split <;> rfl

theorem session_sendNal (bufferSize : Nat) (v : Visit) (s : Sender) :
    (sendNal bufferSize v.layer v.layerInfo v.layerSize v.len s).run.session =
      (s.session.sendPacket (nalData v.layerInfo v.layerSize v.len) 96 false 160).2 := by
  unfold sendNal
  simp only [Id.run, session_printIf]

theorem session_forNals (bufferSize : Nat) (info : FrameBSInfo) (s : Sender) :
    (forNals (sendNal bufferSize) info s).run.session = s.session.sendAll 96 false 160
      ((visits info).map fun v => nalData v.layerInfo v.layerSize v.len) := by
  rw [forNals_eq_foldlM]
  generalize visits info = vs
  induction vs generalizing s with
  | nil => rfl
  | cons v vs ih =>
    rw [List.foldlM_cons, List.map_cons]
    refine (ih (sendNal bufferSize v.layer v.layerInfo v.layerSize v.len s).run).trans ?_
    rw [session_sendNal]
    rfl

theorem nalData_eq_bytes {v : Visit} (h : 0 ≤ v.len.toInt) :
    nalData v.layerInfo v.layerSize v.len = v.nal.bytes := by
  have hlen : sizeT v.len.toInt = v.len.toInt.toNat := sizeT_of_fits h v.len.toInt_lt
  rw [nalData, NalUnit.bytes, hlen]
  rfl

theorem session_sendPicture (bufferSize : Nat) {picture : Encoded} (h : picture.Filled)
    (s : Sender) : (sendPicture bufferSize s picture).session =
      s.session.sendAll 96 false 160 picture.nalBytes := by
  unfold sendPicture Encoded.nalBytes
  by_cases hret : picture.ret ≠ 0
  · rw [if_pos hret, if_pos hret, session_printIf]
    rfl
  · have hnonneg : ∀ layerInfo ∈ picture.info, ∀ len ∈ layerInfo.pNalLengthInByte,
        0 ≤ len.toInt := fun l hl len hlen => Int.le_of_lt (h.positive l hl len hlen)
    have hdata : (visits picture.info).map (fun v => nalData v.layerInfo v.layerSize v.len) =
        (nals picture.info).map NalUnit.bytes := by
      rw [← visits_nal hnonneg, List.map_map]
      refine List.map_congr_left fun v hv => nalData_eq_bytes ?_
      obtain ⟨hlayer, hlen⟩ := mem_visits hv
      exact hnonneg _ hlayer _ hlen
    rw [if_neg hret, if_neg hret, session_forNals, hdata]

/-- The session gets the NAL units of all pictures in order. -/
theorem session_sendVideo (bufferSize : Nat) (session : RTPSession) {pictures : List Encoded}
    (h : ∀ picture ∈ pictures, picture.Filled) :
    (sendVideo bufferSize session pictures).session =
      session.sendAll 96 false 160 (pictures.flatMap Encoded.nalBytes) := by
  unfold sendVideo
  generalize hs : (⟨session, []⟩ : Sender) = s
  rw [show session = s.session from hs ▸ rfl]
  clear hs
  induction pictures generalizing s with
  | nil => rfl
  | cons picture pictures ih =>
    rw [List.foldl_cons, ih (fun p hp => h p (List.mem_cons_of_mem _ hp)),
      session_sendPicture bufferSize (h picture List.mem_cons_self), List.flatMap_cons]
    exact List.foldl_append.symm

end loops

/-! ## Completeness -/

-- Leaving out any part that is not empty makes the whole shorter.
theorem flatten_filter_eq_iff {α : Type*} {p : List α → Prop} [DecidablePred p]
    {parts : List (List α)} (h : ∀ part ∈ parts, part ≠ []) :
    (parts.filter p).flatten = parts.flatten ↔ ∀ part ∈ parts, p part := by
  constructor
  · intro heq
    have hlen := congrArg List.length heq
    clear heq
    induction parts with
    | nil => exact nofun
    | cons part parts ih =>
      have hpart := List.length_pos_of_ne_nil (h part List.mem_cons_self)
      have hle : (parts.filter p).flatten.length ≤ parts.flatten.length :=
        (List.filter_sublist.flatten).length_le
      by_cases hp : p part
      · simp only [List.filter_cons, hp, decide_true, if_true, List.flatten_cons,
          List.length_append, Nat.add_left_cancel_iff] at hlen
        intro q hq
        rcases List.mem_cons.mp hq with rfl | hq
        · exact hp
        · exact ih (fun q hq => h q (List.mem_cons_of_mem _ hq)) hlen q hq
      · simp only [List.filter_cons, hp, decide_false, Bool.false_eq_true, if_false,
          List.flatten_cons, List.length_append] at hlen
        omega
  · intro hall
    rw [List.filter_eq_self.mpr fun part hpart => decide_eq_true (hall part hpart)]

theorem forall_nalBytes_length {picture : Encoded} (h : picture.Filled) {P : Nat → Prop} :
    (∀ data ∈ picture.nalBytes, P data.length) ↔ (picture.ret = 0 →
      ∀ layerInfo ∈ picture.info, ∀ len ∈ layerInfo.pNalLengthInByte, P len.toInt.toNat) := by
  unfold Encoded.nalBytes
  by_cases hret : picture.ret = 0
  · rw [if_neg (not_not.mpr hret), List.forall_mem_map, forall_prop_of_true hret,
      ← forall_nals_length]
    exact forall₂_congr fun nal hnal => by rw [bytes_length hnal h.pBsBuf]
  · rw [if_pos hret]
    exact iff_of_true nofun fun hzero => absurd hzero hret

theorem nalBytes_ne_nil {picture : Encoded} (h : picture.Filled) :
    ∀ data ∈ picture.nalBytes, data ≠ [] := by
  have hpos : ∀ data ∈ picture.nalBytes, 0 < data.length := by
    rw [forall_nalBytes_length h]
    intro _ layerInfo hlayer len hlen
    have := h.positive layerInfo hlayer len hlen
    omega
  exact fun data hdata => List.ne_nil_of_length_pos (hpos data hdata)

theorem forall_fits_iff {picture : Encoded} (h : picture.Filled) :
    (∀ data ∈ picture.nalBytes, RTPSession.Fits data) ↔ picture.NalsFit := by
  unfold RTPSession.Fits
  rw [forall_nalBytes_length h (P := fun n => headerSize + n ≤ RTP_DEFAULTPACKETSIZE)]
  refine imp_congr_right fun _ => forall₂_congr fun layerInfo hlayer =>
    forall₂_congr fun len hlen => ?_
  have hpos := h.positive layerInfo hlayer len hlen
  unfold headerSize RTP_DEFAULTPACKETSIZE
  omega

/-- The packets carry every byte of the NAL units in order, with consecutive sequence numbers. -/
def Complete (pictures : List Encoded) (packets : List RTPPacket) : Prop :=
  packets.flatMap RTPPacket.payload = (pictures.flatMap Encoded.nalBytes).flatten ∧
    packets.IsChain fun p q => q.sequencenumber = p.sequencenumber + 1

theorem transmitted_sendVideo (bufferSize : Nat) {session : RTPSession} (hready : session.Ready)
    (hfresh : session.transmitted = []) {pictures : List Encoded}
    (h : ∀ picture ∈ pictures, picture.Filled) :
    (sendVideo bufferSize session pictures).session.payloads =
      (pictures.flatMap Encoded.nalBytes).filter RTPSession.Fits ∧
    (sendVideo bufferSize session pictures).session.Numbered := by
  rw [session_sendVideo bufferSize session h]
  constructor
  · rw [RTPSession.payloads_sendAll _ _ hready (by decide), RTPSession.payloads, hfresh,
      List.map_nil, List.nil_append]
  · refine RTPSession.Numbered.sendAll _ _ ⟨?_, ?_⟩ hready (by decide) _
    · rw [hfresh]
      exact List.isChain_nil
    · intro p hp
      rw [hfresh] at hp
      cases hp

/-- A fresh session transmits the pictures completely exactly when every NAL unit fits into one
packet; the sequence numbers are consecutive in any case. -/
theorem complete_iff_nalsFit (bufferSize : Nat) (session : RTPSession) (hready : session.Ready)
    (hfresh : session.transmitted = []) (pictures : List Encoded)
    (h : ∀ picture ∈ pictures, picture.Filled) :
    Complete pictures (sendVideo bufferSize session pictures).session.transmitted ↔
      ∀ picture ∈ pictures, picture.NalsFit := by
  obtain ⟨hpayloads, hnumbered⟩ := transmitted_sendVideo bufferSize hready hfresh h
  rw [Complete, and_iff_left hnumbered.chain, List.flatMap_def]
  change (RTPSession.payloads _).flatten = _ ↔ _
  rw [hpayloads, flatten_filter_eq_iff, List.forall_mem_flatMap]
  · exact forall₂_congr fun picture hmem => forall_fits_iff (h picture hmem)
  · rw [List.forall_mem_flatMap]
    exact fun picture hmem => nalBytes_ne_nil (h picture hmem)

-- A fresh session, about to use the last sequence number.
def freshSession : RTPSession :=
  ⟨true, ⟨true, RTP_DEFAULTPACKETSIZE, 0, 0, 0, 12, 90000, 65535, []⟩, []⟩

theorem ready_freshSession : freshSession.Ready :=
  ⟨rfl, rfl, rfl, rfl⟩

theorem complete_iff_nalsFit_two_nals :
    let pictures : List Encoded := [⟨0, [⟨[2, 1], some fun i => UInt8.ofNat i⟩]⟩]
    ((sendVideo 3110400 freshSession pictures).session.transmitted.map fun p =>
      (p.sequencenumber, p.payload)) = [(65535, [0, 1]), (0, [2])] ∧
    Complete pictures (sendVideo 3110400 freshSession pictures).session.transmitted := by
  refine ⟨by decide, (complete_iff_nalsFit 3110400 freshSession ready_freshSession rfl _ ?_).mpr ?_⟩
  · exact fun _ hmem => List.mem_singleton.mp hmem ▸ ⟨by simp, by simp⟩
  · exact fun _ hmem => List.mem_singleton.mp hmem ▸ fun _ => by simp

/-- A NAL unit of 1389 bytes, one more than a packet holds, is lost without a trace. -/
theorem nal_of_1389_bytes_lost :
    let pictures : List Encoded := [⟨0, [⟨[1389], some fun _ => 7⟩]⟩]
    (sendVideo 3110400 freshSession pictures).session = freshSession ∧
    ¬ Complete pictures (sendVideo 3110400 freshSession pictures).session.transmitted := by
  intro pictures
  have hfilled : ∀ picture ∈ pictures, picture.Filled :=
    fun _ hmem => List.mem_singleton.mp hmem ▸ ⟨by simp, by simp⟩
  have hbytes : pictures.flatMap Encoded.nalBytes = [Slice.read (fun _ => 7) ⟨0, 1389⟩] := rfl
  have hfits : ¬ RTPSession.Fits (Slice.read (fun _ => 7) ⟨0, 1389⟩) := by
    rw [RTPSession.Fits, Slice.length_read]
    decide
  have hlost : (sendVideo 3110400 freshSession pictures).session = freshSession := by
    rw [session_sendVideo 3110400 freshSession hfilled, hbytes]
    exact congrArg Prod.snd
      (RTPSession.sendPacket_of_not_fits ready_freshSession (by decide) hfits)
  refine ⟨hlost, ?_⟩
  rintro ⟨hcomplete, -⟩
  rw [hlost, hbytes, List.flatten_singleton] at hcomplete
  have hlength := congrArg List.length hcomplete
  rw [Slice.length_read] at hlength
  exact absurd hlength (by decide)

end ConnectUdp.Jrtp
