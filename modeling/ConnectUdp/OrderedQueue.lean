import Mathlib.Data.Finset.Sort
import Mathlib.Data.List.Basic
import Mathlib.Order.Defs.LinearOrder

/-!
# Queues ordered by a key

Lists in which the keys increase strictly.  A new element looks for its place from the back, where
most elements belong, and is refused when its key is there already.
-/

namespace OrderedQueue

variable {α κ : Type*} [LinearOrder κ] {key : α → κ}

def Ordered (key : α → κ) (l : List α) : Prop :=
  l.Pairwise fun a b => key a < key b

-- The search from the back, on the reversed list.
def insertReversed (key : α → κ) (a : α) : List α → Option (List α)
  | [] => some [a]
  | b :: l =>
    if key a < key b then (insertReversed key a l).map (b :: ·)
    else if key b < key a then some (a :: b :: l)
    else none

def insert (key : α → κ) (a : α) (l : List α) : Option (List α) :=
  (insertReversed key a l.reverse).map List.reverse

variable {a b : α} {l l' : List α}

theorem insertReversed_perm (h : insertReversed key a l = some l') : l'.Perm (a :: l) := by
  induction l generalizing l' with
  | nil =>
    cases h
    exact .refl _
  | cons b l ih =>
    rw [insertReversed] at h
    split at h
    next =>
      obtain ⟨k, hk, rfl⟩ := Option.map_eq_some_iff.mp h
      exact ((ih hk).cons b).trans (.swap a b l)
    next =>
      split at h
      next =>
        cases h
        exact .refl _
      next => cases h

theorem insertReversed_ordered (hl : l.Pairwise fun a b => key b < key a)
    (h : insertReversed key a l = some l') : l'.Pairwise fun a b => key b < key a := by
  induction l generalizing l' with
  | nil =>
    cases h
    exact List.pairwise_singleton _ a
  | cons b l ih =>
    have hb := List.pairwise_cons.mp hl
    rw [insertReversed] at h
    split at h
    next hlt =>
      obtain ⟨k, hk, rfl⟩ := Option.map_eq_some_iff.mp h
      apply List.pairwise_cons.mpr
      constructor
      · intro c hc
        rcases List.mem_cons.mp ((insertReversed_perm hk).mem_iff.mp hc) with rfl | hc
        · exact hlt
        · exact hb.1 c hc
      · exact ih hb.2 hk
    next =>
      split at h
      next hlt =>
        cases h
        apply List.pairwise_cons.mpr
        constructor
        · intro c hc
          rcases List.mem_cons.mp hc with rfl | hc
          · exact hlt
          · exact lt_trans (hb.1 c hc) hlt
        · exact hl
      next => cases h

theorem insertReversed_eq_none (h : insertReversed key a l = none) : ∃ b ∈ l, key b = key a := by
  induction l with
  | nil => cases h
  | cons b l ih =>
    rw [insertReversed] at h
    split at h
    next =>
      obtain ⟨c, hc, hkey⟩ := ih (Option.map_eq_none_iff.mp h)
      exact ⟨c, List.mem_cons_of_mem _ hc, hkey⟩
    next hlt =>
      split at h
      next => cases h
      next hgt => exact ⟨b, List.mem_cons_self, le_antisymm (not_lt.mp hlt) (not_lt.mp hgt)⟩

/-! ## Insertion -/

theorem Ordered.reverse (h : Ordered key l) : l.reverse.Pairwise fun a b => key b < key a :=
  List.pairwise_reverse.mpr h

theorem insert_perm (h : insert key a l = some l') : l'.Perm (a :: l) := by
  obtain ⟨k, hk, rfl⟩ := Option.map_eq_some_iff.mp h
  exact (List.reverse_perm k).trans ((insertReversed_perm hk).trans ((List.reverse_perm l).cons a))

theorem Ordered.insert (hl : Ordered key l) (h : insert key a l = some l') : Ordered key l' := by
  obtain ⟨k, hk, rfl⟩ := Option.map_eq_some_iff.mp h
  exact List.pairwise_reverse.mpr (insertReversed_ordered hl.reverse hk)

/-- An element is refused exactly when its key is in the queue. -/
theorem insert_eq_none_iff (hl : Ordered key l) :
    OrderedQueue.insert key a l = none ↔ ∃ b ∈ l, key b = key a := by
  constructor
  · intro h
    obtain ⟨b, hb, hkey⟩ := insertReversed_eq_none (Option.map_eq_none_iff.mp h)
    exact ⟨b, List.mem_reverse.mp hb, hkey⟩
  · rintro ⟨b, hb, hkey⟩
    by_contra hsome
    obtain ⟨l', hl'⟩ := Option.ne_none_iff_exists'.mp hsome
    have hpair := (insert_perm hl').pairwise_iff (R := fun a b => key a ≠ key b)
      (fun h => h.symm)
    have hne := hpair.mp ((hl.insert hl').imp fun h => ne_of_lt h)
    exact (List.pairwise_cons.mp hne).1 b hb hkey.symm

/-- Two queues with the same elements are the same. -/
theorem Ordered.eq_of_perm (hl : Ordered key l) (hl' : Ordered key l') (h : l.Perm l') :
    l = l' :=
  h.eq_of_pairwise (fun _ _ _ _ hab hba => absurd (lt_trans hab hba) (lt_irrefl _)) hl hl'

theorem Ordered.nodup (h : Ordered key l) : l.Nodup := by
  apply List.Pairwise.imp _ h
  intro a b hlt heq
  rw [heq] at hlt
  exact lt_irrefl _ hlt

/-- A queue holds the elements for given indices exactly when it lists them in the order of the
indices, each once. -/
theorem eq_map_sort_iff {ι : Type*} [LinearOrder ι] {is : List ι} {f : ι → α}
    (hf : ∀ i ∈ is, ∀ j ∈ is, i < j → key (f i) < key (f j)) :
    l = (is.toFinset.sort (· ≤ ·)).map f ↔
      Ordered key l ∧ ∀ a, a ∈ l ↔ ∃ i ∈ is, f i = a := by
  have hmem : ∀ a, a ∈ (is.toFinset.sort (· ≤ ·)).map f ↔ ∃ i ∈ is, f i = a := by
    intro a
    simp only [List.mem_map, Finset.mem_sort, List.mem_toFinset]
  have hordered : Ordered key ((is.toFinset.sort (· ≤ ·)).map f) := by
    apply List.pairwise_map.mpr
    refine (Finset.sortedLT_sort is.toFinset).pairwise.imp_of_mem ?_
    intro i j hi hj hlt
    rw [Finset.mem_sort, List.mem_toFinset] at hi hj
    exact hf i hi j hj hlt
  constructor
  · intro h
    rw [h]
    exact ⟨hordered, hmem⟩
  · intro h
    apply h.1.eq_of_perm hordered
    rw [List.perm_ext_iff_of_nodup h.1.nodup hordered.nodup]
    intro a
    rw [h.2, hmem]

/-! ## Assignment -/

-- The element takes the place of one with the same key.
def assign (key : α → κ) (a : α) : List α → List α
  | [] => [a]
  | b :: l =>
    if key a < key b then a :: b :: l
    else if key b < key a then b :: assign key a l
    else a :: l

theorem mem_of_mem_assign (h : b ∈ assign key a l) : b = a ∨ b ∈ l := by
  induction l with
  | nil => exact .inl (List.mem_singleton.mp h)
  | cons c l ih =>
    rw [assign] at h
    split at h
    next => exact List.mem_cons.mp h
    next =>
      split at h
      next =>
        rcases List.mem_cons.mp h with rfl | h
        · exact .inr List.mem_cons_self
        · exact (ih h).imp_right (List.mem_cons_of_mem c)
      next => exact (List.mem_cons.mp h).imp_right (List.mem_cons_of_mem c)

/-- No key gets lost. -/
theorem exists_key_assign (key : α → κ) (a : α) (h : b ∈ l) :
    ∃ c ∈ assign key a l, key c = key b := by
  induction l with
  | nil => cases h
  | cons d l ih =>
    rw [assign]
    split
    next => exact ⟨b, List.mem_cons_of_mem a h, rfl⟩
    next hle =>
      split
      next =>
        rcases List.mem_cons.mp h with rfl | h
        · exact ⟨b, List.mem_cons_self, rfl⟩
        · obtain ⟨c, hc, hkey⟩ := ih h
          exact ⟨c, List.mem_cons_of_mem d hc, hkey⟩
      next hge =>
        rcases List.mem_cons.mp h with rfl | h
        · exact ⟨a, List.mem_cons_self, le_antisymm (not_lt.mp hge) (not_lt.mp hle)⟩
        · exact ⟨b, List.mem_cons_of_mem a h, rfl⟩

theorem Ordered.assign (hl : Ordered key l) (a : α) : Ordered key (assign key a l) := by
  induction l with
  | nil => exact List.pairwise_singleton _ a
  | cons b l ih =>
    have hb := List.pairwise_cons.mp hl
    rw [OrderedQueue.assign]
    split
    next hlt =>
      apply List.pairwise_cons.mpr
      constructor
      · intro c hc
        rcases List.mem_cons.mp hc with rfl | hc
        · exact hlt
        · exact lt_trans hlt (hb.1 c hc)
      · exact hl
    next hle =>
      split
      next hlt =>
        apply List.pairwise_cons.mpr
        constructor
        · intro c hc
          rcases mem_of_mem_assign hc with rfl | hc
          · exact hlt
          · exact hb.1 c hc
        · exact ih hb.2
      next hge =>
        have hkey : key a = key b := le_antisymm (not_lt.mp hge) (not_lt.mp hle)
        apply List.pairwise_cons.mpr
        constructor
        · intro c hc
          rw [hkey]
          exact hb.1 c hc
        · exact hb.2

theorem assign_perm (hnew : ∀ b ∈ l, key b ≠ key a) : (assign key a l).Perm (a :: l) := by
  induction l with
  | nil => exact .refl _
  | cons b l ih =>
    rw [assign]
    split
    next => exact .refl _
    next hle =>
      split
      next =>
        have hrest := ih fun c hc => hnew c (List.mem_cons_of_mem b hc)
        exact (hrest.cons b).trans (.swap a b l)
      next hge =>
        have hkey : key b = key a := le_antisymm (not_lt.mp hle) (not_lt.mp hge)
        exact absurd hkey (hnew b List.mem_cons_self)

end OrderedQueue
