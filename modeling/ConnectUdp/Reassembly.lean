import ConnectUdp.Transition
import Mathlib.Data.Finset.Basic
import Mathlib.Data.Finset.Union
import Mathlib.Logic.Function.Basic

/-!
# Reassembly of messages

Messages travel in pieces that arrive in any order.  A message is delivered when its last piece
arrives, unless the receiver has abandoned it.  Pieces that arrive again change nothing, so they are
no step here.
-/

namespace Transition

structure Reassembly (ι κ : Type*) where
  pieces : ι → Option (Finset κ)
  arrived : Finset (ι × κ)
  abandoned : Finset ι
  delivered : List ι

inductive ReassemblyAct (ι κ : Type*)
  | send (m : ι) (ps : Finset κ)
  -- A piece arrives for the first time; the receiver gives up waiting for `gone`.
  | arrive (m : ι) (k : κ) (gone : Finset ι)

namespace Reassembly

variable {ι κ : Type*}

def empty : Reassembly ι κ := ⟨fun _ => none, ∅, ∅, []⟩

def Complete (c : Reassembly ι κ) (m : ι) : Prop :=
  ∃ ps, c.pieces m = some ps ∧ ∀ k ∈ ps, (m, k) ∈ c.arrived

/-- Every message is delivered at most once, and exactly those that are complete and not
abandoned are. -/
structure Consistent (c : Reassembly ι κ) : Prop where
  arrived : ∀ m k, (m, k) ∈ c.arrived → ∃ ps, c.pieces m = some ps ∧ k ∈ ps
  nonempty : ∀ m ps, c.pieces m = some ps → ps.Nonempty
  nodup : c.delivered.Nodup
  delivered : ∀ m, m ∈ c.delivered ↔ c.Complete m ∧ m ∉ c.abandoned

theorem consistent_empty : (empty : Reassembly ι κ).Consistent := by
  refine ⟨?_, ?_, List.nodup_nil, ?_⟩
  · intro m k h
    exact absurd h (Finset.notMem_empty _)
  · intro m ps h
    cases h
  · intro m
    refine iff_of_false List.not_mem_nil ?_
    rintro ⟨⟨ps, h, -⟩, -⟩
    cases h

-- What the receiver is to deliver.
def Ready (c : Reassembly ι κ) (m : ι) : Prop :=
  c.Complete m ∧ m ∉ c.abandoned

def deliver (c : Reassembly ι κ) (m : ι) : Reassembly ι κ :=
  { c with delivered := c.delivered ++ [m] }

variable [DecidableEq ι] [DecidableEq κ]

def sendOff (c : Reassembly ι κ) (m : ι) (ps : Finset κ) : Reassembly ι κ :=
  { c with pieces := Function.update c.pieces m (some ps) }

def arriveAt (c : Reassembly ι κ) (m : ι) (k : κ) (gone : Finset ι) : Reassembly ι κ :=
  { c with arrived := insert (m, k) c.arrived, abandoned := c.abandoned ∪ gone }

-- The piece is one of the message, it is new, and nothing delivered is given up.
structure CanArrive (c : Reassembly ι κ) (m : ι) (k : κ) (gone : Finset ι) : Prop where
  piece : ∃ ps, c.pieces m = some ps ∧ k ∈ ps
  new : (m, k) ∉ c.arrived
  gone : ∀ g ∈ gone, g ∉ c.delivered

open Classical in
noncomputable def next (c : Reassembly ι κ) : ReassemblyAct ι κ → Option (Reassembly ι κ)
  | .send m ps => if c.pieces m = none ∧ ps.Nonempty then some (c.sendOff m ps) else none
  | .arrive m k gone =>
    if c.CanArrive m k gone then
      if (c.arriveAt m k gone).Ready m then some ((c.arriveAt m k gone).deliver m)
      else some (c.arriveAt m k gone)
    else none

noncomputable def machine : Machine (Reassembly ι κ) (ReassemblyAct ι κ) where
  init c := c = empty
  next := next

/-! ## What the steps keep -/

omit [DecidableEq κ] in
theorem Consistent.sendOff {c : Reassembly ι κ} (h : c.Consistent) {m : ι} {ps : Finset κ}
    (hnew : c.pieces m = none) (hps : ps.Nonempty) : (c.sendOff m ps).Consistent := by
  have hothers : ∀ n, n ≠ m → (c.sendOff m ps).pieces n = c.pieces n :=
    fun n hne => Function.update_of_ne hne _ _
  have hhere : (c.sendOff m ps).pieces m = some ps := Function.update_self _ _ _
  have hsent : ∀ n qs, c.pieces n = some qs → n ≠ m := by
    rintro n qs hqs rfl
    rw [hnew] at hqs
    cases hqs
  refine ⟨?_, ?_, h.nodup, ?_⟩
  · intro n k hk
    obtain ⟨qs, hqs, hmem⟩ := h.arrived n k hk
    exact ⟨qs, (hothers n (hsent n qs hqs)).trans hqs, hmem⟩
  · intro n qs hqs
    by_cases hn : n = m
    · rw [hn, hhere] at hqs
      cases hqs
      exact hps
    · rw [hothers n hn] at hqs
      exact h.nonempty n qs hqs
  · intro n
    rw [show n ∈ (c.sendOff m ps).delivered ↔ _ from h.delivered n]
    by_cases hn : n = m
    · -- None of its pieces has arrived yet.
      refine iff_of_false ?_ ?_
      · rintro ⟨⟨qs, hqs, -⟩, -⟩
        exact hsent n qs hqs hn
      · rintro ⟨⟨qs, hqs, hall⟩, -⟩
        rw [hn, hhere] at hqs
        cases hqs
        obtain ⟨k, hk⟩ := hps
        obtain ⟨qs, hqs, -⟩ := h.arrived n k (hall k hk)
        exact hsent n qs hqs hn
    · simp only [Complete, hothers n hn]
      exact Iff.rfl

omit [DecidableEq ι] [DecidableEq κ] in
theorem CanArrive.not_delivered {c : Reassembly ι κ} (h : c.Consistent) {m : ι} {k : κ}
    {gone : Finset ι} (ha : c.CanArrive m k gone) : m ∉ c.delivered := by
  intro hm
  obtain ⟨⟨ps, hps, hall⟩, -⟩ := (h.delivered m).mp hm
  obtain ⟨qs, hqs, hk⟩ := ha.piece
  rw [hps] at hqs
  cases hqs
  exact ha.new (hall k hk)

theorem CanArrive.arrived {c : Reassembly ι κ} (h : c.Consistent) {m : ι} {k : κ}
    {gone : Finset ι} (ha : c.CanArrive m k gone) (n : ι) (j : κ)
    (hj : (n, j) ∈ (c.arriveAt m k gone).arrived) : ∃ ps, c.pieces n = some ps ∧ j ∈ ps := by
  rcases Finset.mem_insert.mp hj with heq | hj
  · obtain ⟨rfl, rfl⟩ := Prod.mk.inj heq
    exact ha.piece
  · exact h.arrived n j hj

/-- The arrival of a piece changes nothing for the other messages. -/
theorem CanArrive.ready_iff {c : Reassembly ι κ} (h : c.Consistent) {m : ι} {k : κ}
    {gone : Finset ι} (ha : c.CanArrive m k gone) {n : ι} (hn : n ≠ m) :
    (c.arriveAt m k gone).Ready n ↔ n ∈ c.delivered := by
  have hcomplete : (c.arriveAt m k gone).Complete n ↔ c.Complete n := by
    simp only [Complete, arriveAt, Finset.mem_insert, Prod.mk.injEq, hn, false_and, false_or]
  rw [Ready, hcomplete, h.delivered n]
  refine and_congr_right fun hc => ?_
  rw [arriveAt, Finset.mem_union, not_or]
  exact ⟨And.left, fun hout => ⟨hout, fun hg => ha.gone n hg ((h.delivered n).mpr ⟨hc, hout⟩)⟩⟩

theorem Consistent.arriveAt {c : Reassembly ι κ} (h : c.Consistent) {m : ι} {k : κ}
    {gone : Finset ι} (ha : c.CanArrive m k gone) (hready : ¬ (c.arriveAt m k gone).Ready m) :
    (c.arriveAt m k gone).Consistent := by
  refine ⟨ha.arrived h, h.nonempty, h.nodup, fun n => ?_⟩
  by_cases hn : n = m
  · rw [hn]
    exact iff_of_false (ha.not_delivered h) hready
  · exact (ha.ready_iff h hn).symm

theorem Consistent.arriveAt_deliver {c : Reassembly ι κ} (h : c.Consistent) {m : ι} {k : κ}
    {gone : Finset ι} (ha : c.CanArrive m k gone) (hready : (c.arriveAt m k gone).Ready m) :
    ((c.arriveAt m k gone).deliver m).Consistent := by
  have hmem : ∀ n, n ∈ ((c.arriveAt m k gone).deliver m).delivered ↔ n ∈ c.delivered ∨ n = m := by
    intro n
    rw [deliver, List.mem_append, List.mem_singleton]
    rfl
  refine ⟨ha.arrived h, h.nonempty, ?_, fun n => ?_⟩
  · refine List.nodup_append.mpr ⟨h.nodup, List.nodup_singleton m, ?_⟩
    rintro a hin b hb rfl
    exact ha.not_delivered h (List.mem_singleton.mp hb ▸ hin)
  · rw [hmem]
    by_cases hn : n = m
    · rw [hn]
      exact iff_of_true (.inr rfl) hready
    · rw [or_iff_left hn]
      exact (ha.ready_iff h hn).symm

theorem Consistent.next {c d : Reassembly ι κ} (h : c.Consistent) {a : ReassemblyAct ι κ}
    (hn : c.next a = some d) : d.Consistent := by
  cases a with
  | send m ps =>
    simp only [Reassembly.next] at hn
    split at hn
    next hc =>
      cases hn
      exact h.sendOff hc.1 hc.2
    next => cases hn
  | arrive m k gone =>
    simp only [Reassembly.next] at hn
    split at hn
    swap
    · cases hn
    next ha =>
      split at hn
      next hready =>
        cases hn
        exact h.arriveAt_deliver ha hready
      next hready =>
        cases hn
        exact h.arriveAt ha hready

theorem consistent_of_reachable {c : Reassembly ι κ} (h : machine.Reachable c) : c.Consistent :=
  h.invariant (forall_eq.mpr consistent_empty) fun _ _ _ hi hn => hi.next hn

/-! ## The steps, for a system that refines the machine -/

theorem next_send {c : Reassembly ι κ} {m : ι} {ps : Finset κ}
    (hnew : c.pieces m = none) (hps : ps.Nonempty) : c.next (.send m ps) = some (c.sendOff m ps) :=
  if_pos ⟨hnew, hps⟩

theorem next_arrive {c : Reassembly ι κ} {m : ι} {k : κ} {gone : Finset ι}
    (ha : c.CanArrive m k gone) (hready : ¬ (c.arriveAt m k gone).Ready m) :
    c.next (.arrive m k gone) = some (c.arriveAt m k gone) :=
  (if_pos ha).trans (if_neg hready)

theorem next_arrive_deliver {c : Reassembly ι κ} {m : ι} {k : κ} {gone : Finset ι}
    (ha : c.CanArrive m k gone) (hready : (c.arriveAt m k gone).Ready m) :
    c.next (.arrive m k gone) = some ((c.arriveAt m k gone).deliver m) :=
  (if_pos ha).trans (if_pos hready)

end Reassembly

end Transition
