import Mathlib.Data.Set.Disjoint
import Mathlib.Order.CompletePartialOrder
import Mathlib.Order.Lattice.Nat

/-!
# Strided planes in flat memory

A plane is a rectangle of elements laid over a flat memory with a row step that may exceed the row
length.  Copying one plane onto another moves element `(r, c)` to element `(r, c)` and touches
nothing else, whatever lies in the padding.
-/

namespace Plane

-- Element `(r, c)` is at `data + r * step + c`.
structure View where
  data : Nat
  rows : Nat
  cols : Nat
  step : Nat
  cols_le : cols ≤ step

namespace View

def addr (v : View) (r c : Nat) : Nat :=
  v.data + r * v.step + c

-- A view without padding between its rows.
def packed (data rows cols : Nat) : View :=
  ⟨data, rows, cols, cols, le_rfl⟩

def region (v : View) : Set Nat :=
  {i | ∃ r < v.rows, ∃ c < v.cols, i = v.addr r c}

theorem addr_mem_region {v : View} {r c : Nat} (hr : r < v.rows) (hc : c < v.cols) :
    v.addr r c ∈ v.region :=
  ⟨r, hr, c, hc, rfl⟩

theorem addr_inj {v : View} {r c r' c' : Nat} (hc : c < v.cols) (hc' : c' < v.cols)
    (h : v.addr r c = v.addr r' c') : r = r' ∧ c = c' := by
  have hcols := v.cols_le
  have hflat : v.step * r + c = v.step * r' + c' := by
    unfold addr at h
    rw [Nat.mul_comm r, Nat.mul_comm r'] at h
    omega
  have hpos : 0 < v.step := by omega
  have hrow := congrArg (· / v.step) hflat
  simp only [Nat.mul_add_div hpos, Nat.div_eq_of_lt (show c < v.step by omega),
    Nat.div_eq_of_lt (show c' < v.step by omega), Nat.add_zero] at hrow
  subst hrow
  exact ⟨rfl, by omega⟩

theorem mem_region_packed {data rows cols i : Nat} :
    i ∈ (packed data rows cols).region ↔ data ≤ i ∧ i < data + rows * cols := by
  constructor
  · rintro ⟨r, hr, c, hc, rfl⟩
    have hle : (r + 1) * cols ≤ rows * cols := Nat.mul_le_mul_right _ hr
    rw [Nat.add_mul, Nat.one_mul] at hle
    simp only [packed, addr] at hc ⊢
    omega
  · rintro ⟨hlo, hhi⟩
    have hlt : i - data < cols * rows := by rw [Nat.mul_comm]; omega
    have hcols : 0 < cols := Nat.pos_of_ne_zero fun h => by rw [h, Nat.zero_mul] at hlt; omega
    refine ⟨(i - data) / cols, Nat.div_lt_of_lt_mul hlt, (i - data) % cols,
      Nat.mod_lt _ hcols, ?_⟩
    have hdm := Nat.div_add_mod (i - data) cols
    rw [Nat.mul_comm] at hdm
    simp only [packed, addr]
    omega

end View

/-! ## Copying -/

variable {α κ : Type*}

-- Store `val k` at address `key k` for every `k` of a list.
theorem foldl_update_of_not_mem (key : κ → Nat) (val : κ → α) (l : List κ) (mem : Nat → α)
    {i : Nat} (hi : ∀ k ∈ l, key k ≠ i) :
    l.foldl (fun m k => Function.update m (key k) (val k)) mem i = mem i := by
  induction l generalizing mem with
  | nil => rfl
  | cons k l ih =>
    rw [List.foldl_cons, ih _ fun k' hk' => hi k' (List.mem_cons_of_mem _ hk'),
      Function.update_of_ne (hi k List.mem_cons_self).symm]

theorem foldl_update_of_mem (key : κ → Nat) (val : κ → α) (l : List κ) (mem : Nat → α) {k : κ}
    (hk : k ∈ l) (hinj : ∀ k' ∈ l, key k' = key k → k' = k) :
    l.foldl (fun m k => Function.update m (key k) (val k)) mem (key k) = val k := by
  induction l generalizing mem with
  | nil => cases hk
  | cons k₀ l ih =>
    rw [List.foldl_cons]
    by_cases hin : k ∈ l
    · exact ih _ hin fun k' hk' => hinj k' (List.mem_cons_of_mem _ hk')
    · have hhead : k₀ = k := by
        rcases List.mem_cons.mp hk with h | h
        · exact h.symm
        · exact absurd h hin
      subst hhead
      rw [foldl_update_of_not_mem key val l _ fun k' hk' he =>
        hin (hinj k' (List.mem_cons_of_mem _ hk') he ▸ hk'), Function.update_self]

/-- Copy the elements of `src` in memory `input` onto `dst` in memory `output`, row by row. -/
def copyTo (src dst : View) (input output : Nat → α) : Nat → α :=
  (List.range src.rows).foldl (fun m r =>
    (List.range src.cols).foldl (fun m c =>
      Function.update m (dst.addr r c) (input (src.addr r c))) m) output

-- The cells of a rectangle, row by row.
def cells (rows cols : Nat) : List (Nat × Nat) :=
  (List.range rows).flatMap fun r => (List.range cols).map fun c => (r, c)

theorem mem_cells {rows cols : Nat} {k : Nat × Nat} :
    k ∈ cells rows cols ↔ k.1 < rows ∧ k.2 < cols := by
  obtain ⟨r, c⟩ := k
  simp [cells]

theorem copyTo_eq_foldl (src dst : View) (input output : Nat → α) :
    copyTo src dst input output = (cells src.rows src.cols).foldl (fun m k =>
      Function.update m (dst.addr k.1 k.2) (input (src.addr k.1 k.2))) output := by
  simp only [copyTo, cells, List.foldl_flatMap, List.foldl_map]

section copy

variable {src dst : View} {input output : Nat → α}

theorem copyTo_addr (hcols : src.cols = dst.cols) {r c : Nat} (hr : r < src.rows)
    (hc : c < src.cols) : copyTo src dst input output (dst.addr r c) = input (src.addr r c) := by
  rw [copyTo_eq_foldl]
  refine foldl_update_of_mem (fun k : Nat × Nat => dst.addr k.1 k.2)
    (fun k => input (src.addr k.1 k.2)) _ output (k := (r, c)) (mem_cells.mpr ⟨hr, hc⟩) ?_
  rintro ⟨r', c'⟩ hk he
  have hc' := (mem_cells.mp hk).2
  obtain ⟨hrow, hcol⟩ := View.addr_inj (hcols ▸ hc') (hcols ▸ hc) he
  exact Prod.ext hrow hcol

theorem copyTo_of_not_mem (hrows : src.rows = dst.rows) (hcols : src.cols = dst.cols) {i : Nat}
    (hi : i ∉ dst.region) : copyTo src dst input output i = output i := by
  rw [copyTo_eq_foldl]
  refine foldl_update_of_not_mem (fun k : Nat × Nat => dst.addr k.1 k.2)
    (fun k => input (src.addr k.1 k.2)) _ output fun k hk he => hi ?_
  obtain ⟨hr, hc⟩ := mem_cells.mp hk
  exact he ▸ View.addr_mem_region (hrows ▸ hr) (hcols ▸ hc)

end copy

end Plane
