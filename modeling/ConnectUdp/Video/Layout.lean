import Mathlib.Algebra.Group.Even
import Mathlib.Data.List.GetD
import Mathlib.Tactic.Ring
import ConnectUdp.Plane

/-!
# The I420 picture on its way from the encoder to the decoder

`encodeVideoData` describes a packed I420 picture to the codec, `receiveAndDecodeVideoData`
(and `main` of `testReceiver.cpp`) packs the planes of the decoded one again.  The two compute
their offsets independently, as `int`s that are taken not to overflow: sizes and offsets are
natural numbers here.
-/

namespace ConnectUdp.Video

open Plane

inductive Component
  | y
  | u
  | v
  deriving DecidableEq, Repr

abbrev Memory := Nat → UInt8

/-! ## The sender -/

/-- The fields of `SSourcePicture` that place an I420 picture; the pointers are relative to
`yuv.data`. -/
structure SourcePicture where
  iPicWidth : Nat
  iPicHeight : Nat
  iStride : Component → Nat
  pData : Component → Nat

/-- The picture that `encodeVideoData` hands to `EncodeFrame`. -/
def encodeVideoData (width height : Nat) : SourcePicture where
  iPicWidth := width
  iPicHeight := height
  iStride
    | .y => width
    | .u | .v => width / 2
  pData
    | .y => 0
    | .u => width * height
    | .v => width * height + (width * height) / 4

-- The rows of a component of an I420 picture: the chroma planes have half of them.
def componentRows (height : Nat) : Component → Nat
  | .y => height
  | .u | .v => height / 2

def componentCols (width : Nat) : Component → Nat
  | .y => width
  | .u | .v => width / 2

theorem encodeVideoData_stride (width height : Nat) (k : Component) :
    (encodeVideoData width height).iStride k = componentCols width k := by
  cases k <;> rfl

-- The plane of the source picture that the codec reads for a component.
def sourcePlane (width height : Nat) (k : Component) : View where
  data := (encodeVideoData width height).pData k
  rows := componentRows height k
  cols := componentCols width k
  step := (encodeVideoData width height).iStride k
  cols_le := (encodeVideoData_stride width height k).ge

/-! ## The codec -/

/-- `SSysMEMBuffer`, with what the decoder promises of its strides. -/
structure SysMEMBuffer where
  iWidth : Nat
  iHeight : Nat
  yStride : Nat
  uvStride : Nat
  width_le : iWidth ≤ yStride
  half_le : iWidth / 2 ≤ uvStride

namespace SysMEMBuffer

variable (b : SysMEMBuffer)

-- `yMat(height, width, CV_8UC1, pData[0], yStride)`.
def yMat : View :=
  ⟨0, b.iHeight, b.iWidth, b.yStride, b.width_le⟩

-- `uMat(height / 2, width / 2, CV_8UC1, pData[1], uvStride)`, and `vMat` over `pData[2]`.
def uvMat : View :=
  ⟨0, b.iHeight / 2, b.iWidth / 2, b.uvStride, b.half_le⟩

def mat : Component → View
  | .y => b.yMat
  | .u | .v => b.uvMat

end SysMEMBuffer

/-- The plane buffers of a decoder that delivers the source picture without loss; `padding` is
what they hold outside the planes. -/
def losslessCodec (yuv : Memory) (b : SysMEMBuffer) (padding : Component → Memory) :
    Component → Memory :=
  fun k => copyTo (sourcePlane b.iWidth b.iHeight k) (b.mat k) yuv (padding k)

/-! ## The receiver -/

-- The bytes of `yuvImg(height + height / 2, width, CV_8UC1)`.
def yuvImgSize (width height : Nat) : Nat :=
  (height + height / 2) * width

-- `yuvImg(cv::Rect(0, 0, width, height))`, which keeps the step of `yuvImg`.
def yPart (width height : Nat) : View :=
  ⟨0, height, width, width, le_rfl⟩

-- `uPart(uMat.size(), CV_8UC1, yuvImg.data + height * width)`.
def uPart (width height : Nat) : View :=
  .packed (height * width) (height / 2) (width / 2)

def vPart (width height : Nat) : View :=
  .packed (height * width + (height / 2) * (width / 2)) (height / 2) (width / 2)

def part (width height : Nat) : Component → View
  | .y => yPart width height
  | .u => uPart width height
  | .v => vPart width height

-- The memory of `yuvImg` after the three copies; `fresh` is what it held before.
def yuvImg (b : SysMEMBuffer) (pData : Component → Memory) (fresh : Memory) : Memory :=
  let img := copyTo b.yMat (yPart b.iWidth b.iHeight) (pData .y) fresh
  let img := copyTo b.uvMat (uPart b.iWidth b.iHeight) (pData .u) img
  copyTo b.uvMat (vPart b.iWidth b.iHeight) (pData .v) img

def receiveAndDecodeVideoData (b : SysMEMBuffer) (pData : Component → Memory) (fresh : Memory) :
    List UInt8 :=
  (List.range (yuvImgSize b.iWidth b.iHeight)).map (yuvImg b pData fresh)

/-! ## The destination regions -/

section regions

variable {width height : Nat}

theorem mem_part_y {i : Nat} : i ∈ (part width height .y).region ↔ i < height * width := by
  change i ∈ (View.packed 0 height width).region ↔ _
  rw [View.mem_region_packed]
  omega

theorem mem_part_u {i : Nat} : i ∈ (part width height .u).region ↔
    height * width ≤ i ∧ i < height * width + (height / 2) * (width / 2) :=
  View.mem_region_packed

theorem mem_part_v {i : Nat} : i ∈ (part width height .v).region ↔
    height * width + (height / 2) * (width / 2) ≤ i ∧
      i < height * width + (height / 2) * (width / 2) + (height / 2) * (width / 2) :=
  View.mem_region_packed

theorem part_disjoint {k k' : Component} (h : k ≠ k') :
    Disjoint (part width height k).region (part width height k').region := by
  refine Set.disjoint_left.mpr fun i hi hi' => ?_
  cases k <;> cases k' <;>
    simp only [mem_part_y, mem_part_u, mem_part_v] at hi hi' <;>
    first | exact absurd rfl h | omega

/-- Two chroma planes need `2 * (width / 2)` bytes for each of their rows, which is at most
`width`, for an odd width too. -/
theorem part_subset (k : Component) {i : Nat} (hi : i ∈ (part width height k).region) :
    i < yuvImgSize width height := by
  have hchroma : (height / 2) * (width / 2) + (height / 2) * (width / 2) ≤
      (height / 2) * width := by
    rw [← Nat.mul_add]
    exact Nat.mul_le_mul_left _ (by omega)
  rw [yuvImgSize, Nat.add_mul]
  cases k with
  | y => rw [mem_part_y] at hi; omega
  | u => rw [mem_part_u] at hi; omega
  | v => rw [mem_part_v] at hi; omega

end regions

/-! ## What the receiver rebuilds -/

section copies

variable (b : SysMEMBuffer) (pData : Component → Memory)

def copyPart (k : Component) (img : Memory) : Memory :=
  copyTo (b.mat k) (part b.iWidth b.iHeight k) (pData k) img

theorem yuvImg_eq_copyPart (fresh : Memory) : yuvImg b pData fresh =
    copyPart b pData .v (copyPart b pData .u (copyPart b pData .y fresh)) :=
  rfl

theorem mat_rows_cols (k : Component) : (b.mat k).rows = componentRows b.iHeight k ∧
    (b.mat k).cols = componentCols b.iWidth k := by
  cases k <;> exact ⟨rfl, rfl⟩

theorem part_rows_cols (width height : Nat) (k : Component) :
    (part width height k).rows = componentRows height k ∧
      (part width height k).cols = componentCols width k := by
  cases k <;> exact ⟨rfl, rfl⟩

variable {b pData} {k k' : Component} {img : Memory} {r c : Nat}

theorem copyPart_self (hr : r < componentRows b.iHeight k) (hc : c < componentCols b.iWidth k) :
    copyPart b pData k img ((part b.iWidth b.iHeight k).addr r c) =
      pData k ((b.mat k).addr r c) := by
  obtain ⟨hrows, hcols⟩ := mat_rows_cols b k
  have hcols' := (part_rows_cols b.iWidth b.iHeight k).2
  exact copyTo_addr (hcols.trans hcols'.symm) (hrows ▸ hr) (hcols ▸ hc)

theorem copyPart_of_ne (hne : k' ≠ k) (hr : r < componentRows b.iHeight k)
    (hc : c < componentCols b.iWidth k) :
    copyPart b pData k' img ((part b.iWidth b.iHeight k).addr r c) =
      img ((part b.iWidth b.iHeight k).addr r c) := by
  obtain ⟨hrows, hcols⟩ := part_rows_cols b.iWidth b.iHeight k
  have hin := View.addr_mem_region (hrows ▸ hr) (hcols ▸ hc)
  obtain ⟨hmrows, hmcols⟩ := mat_rows_cols b k'
  obtain ⟨hprows, hpcols⟩ := part_rows_cols b.iWidth b.iHeight k'
  exact copyTo_of_not_mem (hmrows.trans hprows.symm) (hmcols.trans hpcols.symm)
    (Set.disjoint_left.mp (part_disjoint hne.symm) hin)

/-- The three copies do not disturb each other. -/
theorem yuvImg_part (fresh : Memory) (hr : r < componentRows b.iHeight k)
    (hc : c < componentCols b.iWidth k) :
    yuvImg b pData fresh ((part b.iWidth b.iHeight k).addr r c) =
      pData k ((b.mat k).addr r c) := by
  rw [yuvImg_eq_copyPart]
  cases k with
  | y =>
    rw [copyPart_of_ne (show Component.v ≠ .y by decide) hr hc,
      copyPart_of_ne (show Component.u ≠ .y by decide) hr hc, copyPart_self hr hc]
  | u => rw [copyPart_of_ne (show Component.v ≠ .u by decide) hr hc, copyPart_self hr hc]
  | v => exact copyPart_self hr hc

end copies

/-- Behind a lossless codec a byte of a destination plane is the byte of the sender's picture at
the same row and column of that plane, whatever the strides and the padding. -/
theorem yuvImg_losslessCodec (b : SysMEMBuffer) (yuv : Memory) (padding : Component → Memory)
    (fresh : Memory) (k : Component) {r c : Nat} (hr : r < componentRows b.iHeight k)
    (hc : c < componentCols b.iWidth k) :
    yuvImg b (losslessCodec yuv b padding) fresh ((part b.iWidth b.iHeight k).addr r c) =
      yuv ((sourcePlane b.iWidth b.iHeight k).addr r c) := by
  rw [yuvImg_part fresh hr hc, losslessCodec]
  exact copyTo_addr (mat_rows_cols b k).2.symm hr hc

/-! ## Even dimensions -/

/-- The offsets `(width * height) / 4` and `(height / 2) * (width / 2)` are the same number. -/
theorem chroma_size_eq {width height : Nat} (hwidth : Even width) (hheight : Even height) :
    (width * height) / 4 = (height / 2) * (width / 2) := by
  obtain ⟨w, rfl⟩ := hwidth
  obtain ⟨h, rfl⟩ := hheight
  have hprod : (w + w) * (h + h) = (h * w) * 4 := by ring
  rw [hprod, Nat.mul_div_cancel _ (by omega), show (h + h) / 2 = h by omega,
    show (w + w) / 2 = w by omega]

-- The planes of the sender and of the receiver lie at the same addresses.
theorem sourcePlane_addr {width height : Nat} (hwidth : Even width) (hheight : Even height)
    (k : Component) (r c : Nat) :
    (sourcePlane width height k).addr r c = (part width height k).addr r c := by
  have hchroma := chroma_size_eq hwidth hheight
  have hluma := Nat.mul_comm width height
  cases k with
  | y => rfl
  | u =>
    change width * height + r * (width / 2) + c = height * width + r * (width / 2) + c
    rw [hluma]
  | v =>
    change width * height + (width * height) / 4 + r * (width / 2) + c =
      height * width + (height / 2) * (width / 2) + r * (width / 2) + c
    rw [hchroma, hluma]

theorem yuvImgSize_of_even {width height : Nat} (hwidth : Even width) (hheight : Even height) :
    yuvImgSize width height = width * height * 3 / 2 ∧
      height * width + (height / 2) * (width / 2) + (height / 2) * (width / 2) =
        yuvImgSize width height := by
  obtain ⟨w, rfl⟩ := hwidth
  obtain ⟨h, rfl⟩ := hheight
  rw [yuvImgSize, show (h + h) / 2 = h by omega, show (w + w) / 2 = w by omega]
  constructor
  · rw [show (w + w) * (h + h) * 3 = (h + h + h) * (w + w) * 2 by ring]
    exact (Nat.mul_div_cancel _ (by omega)).symm
  · ring

/-- The three planes leave no byte of the image uncovered. -/
theorem exists_part {width height i : Nat} (hwidth : Even width) (hheight : Even height)
    (hi : i < yuvImgSize width height) : ∃ k, i ∈ (part width height k).region := by
  have hsize := (yuvImgSize_of_even hwidth hheight).2
  by_cases hy : i < height * width
  · exact ⟨.y, mem_part_y.mpr hy⟩
  · by_cases hu : i < height * width + (height / 2) * (width / 2)
    · exact ⟨.u, mem_part_u.mpr ⟨by omega, hu⟩⟩
    · exact ⟨.v, mem_part_v.mpr ⟨by omega, by omega⟩⟩

def pictureMemory (picture : List UInt8) : Memory :=
  fun i => picture.getD i 0

theorem yuvImg_eq_picture (b : SysMEMBuffer) (yuv : Memory) (padding : Component → Memory)
    (fresh : Memory) (hwidth : Even b.iWidth) (hheight : Even b.iHeight) {i : Nat}
    (hi : i < yuvImgSize b.iWidth b.iHeight) :
    yuvImg b (losslessCodec yuv b padding) fresh i = yuv i := by
  obtain ⟨k, r, hr, c, hc, rfl⟩ := exists_part hwidth hheight hi
  obtain ⟨hrows, hcols⟩ := part_rows_cols b.iWidth b.iHeight k
  rw [yuvImg_losslessCodec b yuv padding fresh k (hrows ▸ hr) (hcols ▸ hc),
    sourcePlane_addr hwidth hheight]

/-- For even dimensions the receiver rebuilds the sender's packed picture byte for byte, for all
strides and padding of the decoder's buffers.  For all dimensions its three destination planes
are disjoint and lie inside the image. -/
theorem rebuilt_eq_picture :
    (∀ width height : Nat, 0 < width → 0 < height → Even width → Even height →
      ∀ picture : List UInt8, picture.length = width * height * 3 / 2 →
      ∀ (yStride uvStride : Nat) (hy : width ≤ yStride) (huv : width / 2 ≤ uvStride)
        (padding : Component → Memory) (fresh : Memory),
        let b : SysMEMBuffer := ⟨width, height, yStride, uvStride, hy, huv⟩
        let rebuilt := receiveAndDecodeVideoData b
          (losslessCodec (pictureMemory picture) b padding) fresh
        rebuilt.length = width * height * 3 / 2 ∧ rebuilt = picture) ∧
    ∀ width height : Nat, 0 < width → 0 < height →
      (∀ k k' : Component, k ≠ k' →
        Disjoint (part width height k).region (part width height k').region) ∧
      ∀ k : Component, ∀ i ∈ (part width height k).region, i < yuvImgSize width height := by
  refine ⟨fun width height _ _ hwidth hheight picture hlen yStride uvStride hy huv padding fresh =>
    ?_, fun width height _ _ => ⟨fun k k' => part_disjoint, fun k i => part_subset k⟩⟩
  have hsize := (yuvImgSize_of_even hwidth hheight).1
  have hrebuilt : (receiveAndDecodeVideoData ⟨width, height, yStride, uvStride, hy, huv⟩
      (losslessCodec (pictureMemory picture) ⟨width, height, yStride, uvStride, hy, huv⟩ padding)
      fresh).length = width * height * 3 / 2 := by
    rw [receiveAndDecodeVideoData, List.length_map, List.length_range, hsize]
  refine ⟨hrebuilt, List.ext_getElem (hrebuilt.trans hlen.symm) fun i hi hi' => ?_⟩
  simp only [receiveAndDecodeVideoData, List.getElem_map, List.getElem_range]
  rw [yuvImg_eq_picture _ _ _ _ hwidth hheight (by change i < yuvImgSize width height; omega)]
  exact List.getD_eq_getElem _ _ hi'

theorem rebuilt_eq_picture_two_by_two :
    receiveAndDecodeVideoData ⟨2, 2, 5, 3, by decide, by decide⟩
      (losslessCodec (pictureMemory [1, 2, 3, 4, 5, 6]) ⟨2, 2, 5, 3, by decide, by decide⟩
        fun _ _ => 255) (fun _ => 77) = [1, 2, 3, 4, 5, 6] :=
  (rebuilt_eq_picture.1 2 2 (by decide) (by decide) (by decide) (by decide) [1, 2, 3, 4, 5, 6] rfl
    5 3 (by decide) (by decide) (fun _ _ => 255) fun _ => 77).2

-- With an odd width and height the sender's V plane is not where the receiver puts it.
example : (sourcePlane 3 3 .v).data = 11 ∧ (part 3 3 .v).data = 10 := by decide

end ConnectUdp.Video
