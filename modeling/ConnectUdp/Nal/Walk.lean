import ConnectUdp.Slice

/-!
# The NAL units of an encoded picture

`encodeVideoData` and its three prototypes walk over an `SFrameBSInfo` with the same two nested
loops and different bodies.  The loops are one definition here; the NAL units they pass are listed
once with the running `layerSize` and once with the sums of the earlier lengths.
-/

namespace ConnectUdp.Nal

/-- The fields of `SLayerBSInfo` that the loops read: `iNalCount` lengths, and the buffer of the
bitstream, which may be null. -/
structure LayerBSInfo where
  pNalLengthInByte : List Int32
  pBsBuf : Option (Nat → UInt8)

-- `sLayerInfo[0]` to `sLayerInfo[iLayerNum - 1]`.
abbrev FrameBSInfo := List LayerBSInfo

-- The value of an `int` as a `size_t`.
def sizeT (x : Int) : Nat :=
  (x % 2 ^ 64).toNat

theorem sizeT_of_fits {x : Int} (hlo : 0 ≤ x) (hhi : x < 2 ^ 31) : sizeT x = x.toNat := by
  unfold sizeT
  omega

/-! ## The loops -/

section loops

variable {m : Type → Type} [Monad m] {σ : Type}

-- `for (int nal = 0; nal < layerInfo.iNalCount; ++nal)`; the body gets `layerSize` and the length
-- at `nal`.  The source leaves an overflow of `layerSize` undefined; here it has no bound.
def forLayer (body : Int → Int32 → σ → m σ) : Int → List Int32 → σ → m σ
  | _, [], s => pure s
  | layerSize, len :: lens, s => do
    let s ← body layerSize len s
    forLayer body (layerSize + len.toInt) lens s

-- `for (int layer = 0; layer < info.iLayerNum; ++layer)`; `layerSize` starts anew in each layer.
def forLayers (body : Nat → LayerBSInfo → Int → Int32 → σ → m σ) :
    Nat → FrameBSInfo → σ → m σ
  | _, [], s => pure s
  | layer, layerInfo :: info, s => do
    let s ← forLayer (body layer layerInfo) 0 layerInfo.pNalLengthInByte s
    forLayers body (layer + 1) info s

def forNals (body : Nat → LayerBSInfo → Int → Int32 → σ → m σ) (info : FrameBSInfo) (s : σ) :
    m σ :=
  forLayers body 0 info s

/-- The variables of the loops when their body is entered. -/
structure Visit where
  layer : Nat
  layerInfo : LayerBSInfo
  layerSize : Int
  len : Int32

def visitsOf (layer : Nat) (layerInfo : LayerBSInfo) : Int → List Int32 → List Visit
  | _, [] => []
  | layerSize, len :: lens =>
    ⟨layer, layerInfo, layerSize, len⟩ :: visitsOf layer layerInfo (layerSize + len.toInt) lens

def visitsFrom : Nat → FrameBSInfo → List Visit
  | _, [] => []
  | layer, layerInfo :: info =>
    visitsOf layer layerInfo 0 layerInfo.pNalLengthInByte ++ visitsFrom (layer + 1) info

def visits (info : FrameBSInfo) : List Visit :=
  visitsFrom 0 info

variable (body : Nat → LayerBSInfo → Int → Int32 → σ → m σ)

theorem forLayer_eq_foldlM (layer : Nat) (layerInfo : LayerBSInfo) (layerSize : Int)
    (lens : List Int32) (s : σ) : forLayer (body layer layerInfo) layerSize lens s =
      (visitsOf layer layerInfo layerSize lens).foldlM
        (fun s v => body v.layer v.layerInfo v.layerSize v.len s) s := by
  induction lens generalizing layerSize s with
  | nil => rfl
  | cons len lens ih =>
    rw [forLayer, visitsOf, List.foldlM_cons]
    exact bind_congr fun s => ih _ s

/-- The two loops are one loop over the visits. -/
theorem forNals_eq_foldlM [LawfulMonad m] (info : FrameBSInfo) (s : σ) : forNals body info s =
    (visits info).foldlM (fun s v => body v.layer v.layerInfo v.layerSize v.len s) s := by
  unfold forNals visits
  generalize 0 = layer
  induction info generalizing layer s with
  | nil => rfl
  | cons layerInfo info ih =>
    rw [forLayers, visitsFrom, List.foldlM_append, forLayer_eq_foldlM]
    exact bind_congr fun s => ih s _

end loops

/-! ## The enumeration -/

namespace LayerBSInfo

def lengths (layerInfo : LayerBSInfo) : List Nat :=
  layerInfo.pNalLengthInByte.map fun len => len.toInt.toNat

/-- No length is negative, and their sum fits in an `int`. -/
structure WellFormed (layerInfo : LayerBSInfo) : Prop where
  nonneg : ∀ len ∈ layerInfo.pNalLengthInByte, 0 ≤ len.toInt
  fits : layerInfo.lengths.sum < 2 ^ 31

def bitstream (layerInfo : LayerBSInfo) : List UInt8 :=
  match layerInfo.pBsBuf with
  | none => []
  | some mem => Slice.read mem ⟨0, layerInfo.lengths.sum⟩

end LayerBSInfo

/-- A NAL unit: the slice is relative to the buffer of its layer. -/
structure NalUnit where
  layer : Nat
  pBsBuf : Option (Nat → UInt8)
  slice : Slice

namespace NalUnit

def bytes (nal : NalUnit) : List UInt8 :=
  match nal.pBsBuf with
  | none => []
  | some mem => nal.slice.read mem

end NalUnit

def nalsOf (layer : Nat) (layerInfo : LayerBSInfo) : List NalUnit :=
  (Slice.consecutive layerInfo.lengths).map fun slice => ⟨layer, layerInfo.pBsBuf, slice⟩

/-- The NAL units in the order (layer, nal); one starts where the earlier lengths of its layer add
up to. -/
def nals (info : FrameBSInfo) : List NalUnit :=
  info.zipIdx.flatMap fun p => nalsOf p.2 p.1

theorem mem_nals {info : FrameBSInfo} {nal : NalUnit} (h : nal ∈ nals info) :
    ∃ layerInfo, info[nal.layer]? = some layerInfo ∧ nal.pBsBuf = layerInfo.pBsBuf := by
  obtain ⟨p, hp, hmem⟩ := List.mem_flatMap.mp h
  obtain ⟨slice, -, rfl⟩ := List.mem_map.mp hmem
  exact ⟨p.1, List.mem_zipIdx_iff_getElem?.mp hp, rfl⟩

theorem pBsBuf_isSome_of_mem_nals {info : FrameBSInfo} {nal : NalUnit} (h : nal ∈ nals info)
    (hbuf : ∀ layerInfo ∈ info, layerInfo.pBsBuf.isSome = true) : nal.pBsBuf.isSome = true := by
  obtain ⟨layerInfo, hlayer, hsame⟩ := mem_nals h
  rw [hsame]
  exact hbuf layerInfo (List.mem_of_getElem? hlayer)

theorem nals_lengths (info : FrameBSInfo) :
    (nals info).map (fun nal => nal.slice.length) = info.flatMap LayerBSInfo.lengths := by
  unfold nals
  generalize 0 = layer
  induction info generalizing layer with
  | nil => rfl
  | cons layerInfo info ih =>
    rw [List.zipIdx_cons, List.flatMap_cons, List.map_append, ih, List.flatMap_cons, nalsOf,
      List.map_map]
    exact congrArg (· ++ _) (Slice.map_length_consecutive _)

theorem forall_nals_length {info : FrameBSInfo} {P : Nat → Prop} :
    (∀ nal ∈ nals info, P nal.slice.length) ↔
      ∀ layerInfo ∈ info, ∀ len ∈ layerInfo.pNalLengthInByte, P len.toInt.toNat := by
  have hmap : (∀ n ∈ (nals info).map (fun nal => nal.slice.length), P n) ↔
      ∀ nal ∈ nals info, P nal.slice.length := List.forall_mem_map
  rw [← hmap, nals_lengths, List.forall_mem_flatMap]
  exact forall₂_congr fun layerInfo _ => List.forall_mem_map

theorem bytes_length {info : FrameBSInfo} {nal : NalUnit} (h : nal ∈ nals info)
    (hbuf : ∀ layerInfo ∈ info, layerInfo.pBsBuf.isSome = true) :
    nal.bytes.length = nal.slice.length := by
  obtain ⟨mem, hmem⟩ := Option.isSome_iff_exists.mp (pBsBuf_isSome_of_mem_nals h hbuf)
  rw [NalUnit.bytes, hmem]
  exact Slice.length_read mem _

theorem nalsOf_bytes (layer : Nat) (layerInfo : LayerBSInfo) :
    (nalsOf layer layerInfo).flatMap NalUnit.bytes = layerInfo.bitstream := by
  rw [nalsOf, List.flatMap_map, LayerBSInfo.bitstream]
  cases h : layerInfo.pBsBuf with
  | none => exact List.flatMap_eq_nil_iff.mpr fun _ _ => rfl
  | some mem => exact Slice.flatMap_consecutive mem _

/-- The bytes of the NAL units are the bitstreams of the layers. -/
theorem nals_bytes (info : FrameBSInfo) :
    (nals info).flatMap NalUnit.bytes = info.flatMap LayerBSInfo.bitstream := by
  unfold nals
  generalize 0 = layer
  induction info generalizing layer with
  | nil => rfl
  | cons layerInfo info ih =>
    rw [List.zipIdx_cons, List.flatMap_cons, List.flatMap_append, nalsOf_bytes, ih,
      List.flatMap_cons]

/-! ## The visits are the NAL units -/

namespace Visit

def nal (v : Visit) : NalUnit :=
  ⟨v.layer, v.layerInfo.pBsBuf, ⟨v.layerSize.toNat, v.len.toInt.toNat⟩⟩

structure Fits (v : Visit) : Prop where
  layerSize_nonneg : 0 ≤ v.layerSize
  len_nonneg : 0 ≤ v.len.toInt
  stop_lt : v.len.toInt + v.layerSize < 2 ^ 31

end Visit

theorem visitsOf_nal (layer : Nat) (layerInfo : LayerBSInfo) {layerSize : Int}
    {lens : List Int32} (hsize : 0 ≤ layerSize) (hlens : ∀ len ∈ lens, 0 ≤ len.toInt) :
    (visitsOf layer layerInfo layerSize lens).map Visit.nal =
      (Slice.consecutiveFrom layerSize.toNat (lens.map fun len => len.toInt.toNat)).map
        fun slice => ⟨layer, layerInfo.pBsBuf, slice⟩ := by
  induction lens generalizing layerSize with
  | nil => rfl
  | cons len lens ih =>
    have hlen := hlens len List.mem_cons_self
    rw [visitsOf, List.map_cons, List.map_cons, Slice.consecutiveFrom, List.map_cons,
      ih (by omega) fun l hl => hlens l (List.mem_cons_of_mem _ hl), Int.toNat_add hsize hlen]
    rfl

theorem visitsOf_fits (layer : Nat) (layerInfo : LayerBSInfo) {layerSize : Int}
    {lens : List Int32} (hsize : 0 ≤ layerSize) (hlens : ∀ len ∈ lens, 0 ≤ len.toInt)
    (hsum : layerSize + ((lens.map fun len => len.toInt.toNat).sum : Nat) < 2 ^ 31) :
    ∀ v ∈ visitsOf layer layerInfo layerSize lens, v.Fits := by
  induction lens generalizing layerSize with
  | nil => exact nofun
  | cons len lens ih =>
    have hlen := hlens len List.mem_cons_self
    rw [List.map_cons, List.sum_cons] at hsum
    intro v hv
    rcases List.mem_cons.mp hv with rfl | hv
    · exact ⟨hsize, hlen, by change len.toInt + layerSize < 2 ^ 31; omega⟩
    · exact ih (by omega) (fun l hl => hlens l (List.mem_cons_of_mem _ hl)) (by omega) v hv

theorem mem_visitsOf {layer : Nat} {layerInfo : LayerBSInfo} {layerSize : Int}
    {lens : List Int32} {v : Visit} (h : v ∈ visitsOf layer layerInfo layerSize lens) :
    v.layerInfo = layerInfo ∧ v.len ∈ lens := by
  induction lens generalizing layerSize with
  | nil => cases h
  | cons len lens ih =>
    rcases List.mem_cons.mp h with rfl | h
    · exact ⟨rfl, List.mem_cons_self⟩
    · exact (ih h).imp_right (List.mem_cons_of_mem _)

theorem mem_visits {info : FrameBSInfo} {v : Visit} (h : v ∈ visits info) :
    v.layerInfo ∈ info ∧ v.len ∈ v.layerInfo.pNalLengthInByte := by
  unfold visits at h
  generalize 0 = layer at h
  induction info generalizing layer with
  | nil => cases h
  | cons layerInfo info ih =>
    rcases List.mem_append.mp h with h | h
    · obtain ⟨hlayer, hlen⟩ := mem_visitsOf h
      rw [hlayer]
      exact ⟨List.mem_cons_self, hlen⟩
    · exact (ih _ h).imp_left (List.mem_cons_of_mem _)

section wellFormed

variable {info : FrameBSInfo}

/-- With its running `layerSize` the loop passes exactly the enumerated NAL units. -/
theorem visits_nal (h : ∀ layerInfo ∈ info, ∀ len ∈ layerInfo.pNalLengthInByte, 0 ≤ len.toInt) :
    (visits info).map Visit.nal = nals info := by
  unfold visits nals
  generalize 0 = layer
  induction info generalizing layer with
  | nil => rfl
  | cons layerInfo info ih =>
    have hlayer := h layerInfo List.mem_cons_self
    rw [visitsFrom, List.map_append, visitsOf_nal layer layerInfo (Int.le_refl 0) hlayer,
      ih (fun l hl => h l (List.mem_cons_of_mem _ hl)), List.zipIdx_cons, List.flatMap_cons,
      nalsOf, Slice.consecutive_eq]
    rfl

theorem visits_fits (h : ∀ layerInfo ∈ info, layerInfo.WellFormed) :
    ∀ v ∈ visits info, v.Fits := by
  unfold visits
  generalize 0 = layer
  induction info generalizing layer with
  | nil => exact nofun
  | cons layerInfo info ih =>
    intro v hv
    rcases List.mem_append.mp hv with hv | hv
    · have hlayer := h layerInfo List.mem_cons_self
      refine visitsOf_fits layer layerInfo (Int.le_refl 0) hlayer.nonneg ?_ v hv
      rw [Int.zero_add]
      exact_mod_cast hlayer.fits
    · exact ih (fun l hl => h l (List.mem_cons_of_mem _ hl)) _ v hv

end wellFormed

end ConnectUdp.Nal
