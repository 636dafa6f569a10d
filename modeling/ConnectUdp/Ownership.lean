import Mathlib.Data.Finset.Card
import Mathlib.Data.Finset.Range
import Mathlib.Data.List.Nodup

/-!
# Objects behind pointer variables

A ledger numbers the objects that a creation call hands out and lists the destroyed ones; its
fields rule out an object that is destroyed twice or before it exists.  A slot is one pointer
variable with the ledger of the objects it is given.  A shared object is counted by its
references and comes back under a new identity after its last close.
-/

namespace Ownership

/-! ## Ledgers -/

structure Ledger where
  created : Nat
  destroyed : List Nat
  nodup : destroyed.Nodup
  lt_created : ∀ x ∈ destroyed, x < created

namespace Ledger

variable {l : Ledger} {x y : Nat}

def empty : Ledger :=
  ⟨0, [], List.nodup_nil, nofun⟩

def Live (l : Ledger) (x : Nat) : Prop :=
  x < l.created ∧ x ∉ l.destroyed

instance : Decidable (l.Live x) :=
  inferInstanceAs (Decidable (_ ∧ _))

def create (l : Ledger) : Ledger :=
  ⟨l.created + 1, l.destroyed, l.nodup, fun x hx => Nat.lt_succ_of_lt (l.lt_created x hx)⟩

def destroy (l : Ledger) (x : Nat) (h : l.Live x) : Ledger where
  created := l.created
  destroyed := x :: l.destroyed
  nodup := List.nodup_cons.mpr ⟨h.2, l.nodup⟩
  lt_created y hy := by
    rcases List.mem_cons.mp hy with rfl | hy
    · exact h.1
    · exact l.lt_created y hy

theorem live_create : l.create.Live x ↔ x = l.created ∨ l.Live x := by
  have hfresh : l.created ∉ l.destroyed := fun h => Nat.lt_irrefl _ (l.lt_created _ h)
  constructor
  · rintro ⟨hlt, hx⟩
    change x < l.created + 1 at hlt
    by_cases he : x = l.created
    · exact .inl he
    · exact .inr ⟨by omega, hx⟩
  · rintro (rfl | ⟨hlt, hx⟩)
    · exact ⟨Nat.lt_succ_self _, hfresh⟩
    · exact ⟨Nat.lt_succ_of_lt hlt, hx⟩

theorem live_destroy (h : l.Live x) : (l.destroy x h).Live y ↔ l.Live y ∧ y ≠ x := by
  unfold Live
  rw [show (l.destroy x h).destroyed = x :: l.destroyed from rfl, List.mem_cons]
  change y < l.created ∧ _ ↔ _
  tauto

def liveCount (l : Ledger) : Nat :=
  l.created - l.destroyed.length

/-- Where nothing is live, everything created has been destroyed exactly once. -/
theorem count_destroyed (h : ∀ x, ¬ l.Live x) {x : Nat} (hx : x < l.created) :
    l.destroyed.count x = 1 := by
  have hmem : x ∈ l.destroyed := by
    by_contra hno
    exact h x ⟨hx, hno⟩
  exact List.count_eq_one_of_mem l.nodup hmem

theorem liveCount_eq_zero (h : ∀ x, ¬ l.Live x) : l.liveCount = 0 := by
  have hsub : Finset.range l.created ⊆ l.destroyed.toFinset := by
    intro x hx
    rw [List.mem_toFinset]
    by_contra hno
    exact h x ⟨Finset.mem_range.mp hx, hno⟩
  have hcard := Finset.card_le_card hsub
  rw [Finset.card_range, List.toFinset_card_of_nodup l.nodup] at hcard
  exact Nat.sub_eq_zero_of_le hcard

end Ledger

/-! ## Slots -/

structure Slot where
  pointer : Option Nat
  ledger : Ledger

namespace Slot

variable {s : Slot}

def empty : Slot :=
  ⟨none, .empty⟩

-- The pointer is not null and its object is live.
def Valid (s : Slot) : Prop :=
  ∃ x ∈ s.pointer, s.ledger.Live x

instance : Decidable s.Valid :=
  inferInstanceAs (Decidable (∃ x ∈ s.pointer, s.ledger.Live x))

-- Assign what a creation call returns: a new object, or null.
def assign (s : Slot) (found : Bool) : Slot :=
  if found then ⟨some s.ledger.created, s.ledger.create⟩ else ⟨none, s.ledger⟩

-- Destroy the object; the pointer keeps its value.
def destroy (s : Slot) : Slot :=
  match s.pointer with
  | none => s
  | some x => if h : s.ledger.Live x then ⟨some x, s.ledger.destroy x h⟩ else s

/-- No object of the slot is live; the pointer may be left over from a destroyed one. -/
def Idle (s : Slot) : Prop :=
  ∀ x, ¬ s.ledger.Live x

/-- Nothing is live but the object that the pointer names. -/
def Owned (s : Slot) : Prop :=
  ∀ x, s.ledger.Live x ↔ s.pointer = some x

theorem idle_empty : Idle empty :=
  fun _ h => absurd h.1 (Nat.not_lt_zero _)

theorem Owned.valid (h : s.Owned) (hp : s.pointer ≠ none) : s.Valid := by
  obtain ⟨x, hx⟩ := Option.ne_none_iff_exists'.mp hp
  exact ⟨x, hx, (h x).mpr hx⟩

theorem Valid.pointer_ne_none (h : s.Valid) : s.pointer ≠ none := by
  obtain ⟨x, hx, -⟩ := h
  rw [Option.mem_def.mp hx]
  exact Option.some_ne_none x

theorem Idle.owned_assign (h : s.Idle) (found : Bool) : (s.assign found).Owned := by
  intro x
  cases found with
  | false => exact iff_of_false (h x) nofun
  | true =>
    change s.ledger.create.Live x ↔ some s.ledger.created = some x
    rw [Ledger.live_create, or_iff_left (h x), Option.some.injEq]
    exact eq_comm

theorem Idle.owned_of_null (h : s.Idle) (hp : s.pointer = none) : s.Owned :=
  fun x => iff_of_false (h x) (by rw [hp]; exact nofun)

theorem assign_true_pointer : (s.assign true).pointer ≠ none :=
  Option.some_ne_none _

-- Assigning over an idle slot leaves a valid pointer exactly when an object was created.
theorem Idle.valid_assign (h : s.Idle) : (s.assign true).Valid :=
  (h.owned_assign true).valid assign_true_pointer

theorem Owned.idle_destroy (h : s.Owned) : s.destroy.Idle := by
  intro x hx
  cases hp : s.pointer with
  | none =>
    rw [destroy, hp] at hx
    exact absurd ((h x).mp hx) (by rw [hp]; exact nofun)
  | some y =>
    have hy : s.ledger.Live y := (h y).mpr hp
    rw [destroy, hp] at hx
    simp only [dif_pos hy] at hx
    obtain ⟨hlive, hne⟩ := (Ledger.live_destroy hy).mp hx
    have he := (h x).mp hlive
    rw [hp, Option.some.injEq] at he
    exact hne he.symm

theorem destroy_of_null (hp : s.pointer = none) : s.destroy = s := by
  rw [destroy, hp]

theorem destroy_pointer : s.destroy.pointer = s.pointer := by
  unfold destroy
  cases hp : s.pointer with
  | none => exact hp
  | some x =>
    by_cases h : s.ledger.Live x
    · simp only [dif_pos h]
    · simp only [dif_neg h, hp]

end Slot

/-! ## Shared objects -/

structure Shared where
  generation : Nat
  refs : Nat
  deriving DecidableEq, Repr

namespace Shared

variable {s : Shared}

def unloaded : Shared :=
  ⟨0, 0⟩

-- One reference more; an object without references is loaded anew.
def acquire (s : Shared) : Shared :=
  if s.refs = 0 then ⟨s.generation + 1, 1⟩ else ⟨s.generation, s.refs + 1⟩

def release (s : Shared) : Shared :=
  ⟨s.generation, s.refs - 1⟩

-- The handle names the object that is loaded now.
def Valid (s : Shared) (handle : Option Nat) : Prop :=
  handle = some s.generation ∧ 0 < s.refs

instance (handle : Option Nat) : Decidable (s.Valid handle) :=
  inferInstanceAs (Decidable (_ ∧ _))

theorem acquire_refs : s.acquire.refs = s.refs + 1 := by
  unfold acquire
  by_cases h : s.refs = 0
  · rw [if_pos h, h]
  · rw [if_neg h]

theorem valid_acquire : s.acquire.Valid (some s.acquire.generation) :=
  ⟨rfl, by rw [acquire_refs]; exact Nat.succ_pos _⟩

end Shared

end Ownership
