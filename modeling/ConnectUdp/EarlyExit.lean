import Mathlib.Data.List.Basic
import Mathlib.Tactic.TypeStar

/-!
# Loops that leave from inside

A loop hands the items of a list to a receiver, one after the other.  It leaves in front of the
first item that is not admitted, and behind the first one that the receiver does not accept.  The
receiver's answers are numbered by the items it has been handed.
-/

namespace EarlyExit

variable {α : Type*} (admits : α → Prop) (accepts : Nat → Prop) [DecidablePred admits]
  [DecidablePred accepts]

-- The items handed on, when the receiver has been handed `n` before.
def sent (n : Nat) : List α → List α
  | [] => []
  | x :: xs => if admits x then x :: (if accepts n then sent (n + 1) xs else []) else []

variable {admits accepts} {n : Nat} {x : α} {xs : List α}

theorem sent_cons_of_not_admits (h : ¬ admits x) : sent admits accepts n (x :: xs) = [] :=
  if_neg h

theorem sent_cons_of_not_accepts (h : admits x) (hn : ¬ accepts n) :
    sent admits accepts n (x :: xs) = [x] := by
  rw [sent, if_pos h, if_neg hn]

theorem sent_cons_of_accepts (h : admits x) (hn : accepts n) :
    sent admits accepts n (x :: xs) = x :: sent admits accepts (n + 1) xs := by
  rw [sent, if_pos h, if_pos hn]

/-- The three ways on from an item: not admitted, admitted and refused, accepted. -/
theorem sent_cons_cases (admits : α → Prop) (accepts : Nat → Prop) [DecidablePred admits]
    [DecidablePred accepts] (n : Nat) (x : α) (xs : List α) :
    (¬ admits x ∧ sent admits accepts n (x :: xs) = []) ∨
    (admits x ∧ ¬ accepts n ∧ sent admits accepts n (x :: xs) = [x]) ∨
    (admits x ∧ accepts n ∧
      sent admits accepts n (x :: xs) = x :: sent admits accepts (n + 1) xs) := by
  by_cases h : admits x
  · by_cases hn : accepts n
    · exact .inr (.inr ⟨h, hn, sent_cons_of_accepts h hn⟩)
    · exact .inr (.inl ⟨h, hn, sent_cons_of_not_accepts h hn⟩)
  · exact .inl ⟨h, sent_cons_of_not_admits h⟩

theorem sent_isPrefix (n : Nat) (xs : List α) : sent admits accepts n xs <+: xs := by
  induction xs generalizing n with
  | nil => exact List.prefix_rfl
  | cons x xs ih =>
    rcases sent_cons_cases admits accepts n x xs with ⟨-, h⟩ | ⟨-, -, h⟩ | ⟨-, -, h⟩ <;> rw [h]
    · exact List.nil_prefix
    · exact List.prefix_append [x] xs
    · exact (List.cons_prefix_cons).mpr ⟨rfl, ih _⟩

theorem admits_of_mem_sent (h : x ∈ sent admits accepts n xs) : admits x := by
  induction xs generalizing n with
  | nil => cases h
  | cons y ys ih =>
    rcases sent_cons_cases admits accepts n y ys with ⟨-, hs⟩ | ⟨hy, -, hs⟩ | ⟨hy, -, hs⟩ <;>
      rw [hs] at h
    · cases h
    · exact List.mem_singleton.mp h ▸ hy
    · rcases List.mem_cons.mp h with rfl | h
      · exact hy
      · exact ih h

/-- Every item but the last one handed on was accepted. -/
theorem accepts_of_succ_lt {i : Nat} (h : i + 1 < (sent admits accepts n xs).length) :
    accepts (n + i) := by
  induction xs generalizing n i with
  | nil => cases h
  | cons y ys ih =>
    rcases sent_cons_cases admits accepts n y ys with ⟨-, hs⟩ | ⟨-, -, hs⟩ | ⟨-, hn, hs⟩ <;>
      rw [hs] at h
    · cases h
    · rw [List.length_singleton] at h
      omega
    · cases i with
      | zero => exact hn
      | succ i =>
        rw [List.length_cons, Nat.add_lt_add_iff_right] at h
        rw [show n + (i + 1) = n + 1 + i by omega]
        exact ih h

/-- A loop that leaves early has met an item that is not admitted, or has just been refused. -/
theorem stopped_of_length_lt (h : (sent admits accepts n xs).length < xs.length) :
    ¬ admits xs[(sent admits accepts n xs).length] ∨ 0 < (sent admits accepts n xs).length ∧
      ¬ accepts (n + ((sent admits accepts n xs).length - 1)) := by
  induction xs generalizing n with
  | nil => cases h
  | cons y ys ih =>
    rcases sent_cons_cases admits accepts n y ys with ⟨hy, hs⟩ | ⟨-, hn, hs⟩ | ⟨-, -, hs⟩ <;>
      simp only [hs, List.length_cons, List.length_nil] at h ⊢
    · exact .inl hy
    · exact .inr ⟨Nat.one_pos, hn⟩
    · rcases ih (Nat.lt_of_succ_lt_succ h) with hstop | ⟨hpos, hstop⟩
      · exact .inl hstop
      · refine .inr ⟨Nat.succ_pos _, ?_⟩
        rw [show n + 1 + ((sent admits accepts (n + 1) ys).length - 1) =
          n + ((sent admits accepts (n + 1) ys).length + 1 - 1) by omega] at hstop
        exact hstop

theorem sent_eq_self (hadmits : ∀ x ∈ xs, admits x)
    (haccepts : ∀ i, i + 1 < xs.length → accepts (n + i)) : sent admits accepts n xs = xs := by
  refine (sent_isPrefix n xs).eq_of_length (Nat.le_antisymm (sent_isPrefix n xs).length_le ?_)
  by_contra hlt
  rcases stopped_of_length_lt (Nat.lt_of_not_le hlt) with hstop | ⟨hpos, hstop⟩
  · exact hstop (hadmits _ (List.getElem_mem _))
  · exact hstop (haccepts _ (by omega))

/-- The loop hands on the whole list exactly when all is admitted and only the last item may be
refused. -/
theorem sent_eq_self_iff : sent admits accepts n xs = xs ↔
    (∀ x ∈ xs, admits x) ∧ ∀ i, i + 1 < xs.length → accepts (n + i) := by
  constructor
  · intro h
    refine ⟨fun x hx => admits_of_mem_sent (h.symm ▸ hx), fun i hi => ?_⟩
    exact accepts_of_succ_lt (by rw [h]; exact hi)
  · rintro ⟨hadmits, haccepts⟩
    exact sent_eq_self hadmits haccepts

end EarlyExit
