import Mathlib.Data.List.Basic
import Mathlib.Tactic.TypeStar

/-!
# Transition machines

A machine has initial states and a partial step function.  Whatever the environment decides
(scheduler, kernel, network, peer) is part of the label, so a run is a list of labels and can be
executed.  Invariants are proved once per step and carried to runs by the rules below.
-/

namespace Transition

structure Machine (σ α : Type*) where
  init : σ → Prop
  -- `none` when the label is not enabled in the state.
  next : σ → α → Option σ

namespace Machine

variable {σ α τ β : Type*} {m : Machine σ α} {n : Machine τ β} {ok ok' : σ → α → Prop}

/-! ## Reachability -/

/-- The states reached by runs in which every step meets `ok`. -/
inductive ReachableBy (m : Machine σ α) (ok : σ → α → Prop) : σ → Prop
  | start {s : σ} : m.init s → ReachableBy m ok s
  | step {s t : σ} {a : α} :
      ReachableBy m ok s → ok s a → m.next s a = some t → ReachableBy m ok t

def Reachable (m : Machine σ α) : σ → Prop :=
  m.ReachableBy fun _ _ => True

theorem Reachable.start {s : σ} (h : m.init s) : m.Reachable s :=
  ReachableBy.start h

theorem Reachable.step {s t : σ} {a : α} (h : m.Reachable s) (hn : m.next s a = some t) :
    m.Reachable t :=
  ReachableBy.step h trivial hn

/-- The invariant rule: what holds initially and is kept by every admitted step holds of every
state such runs reach. -/
theorem ReachableBy.invariant {I : σ → Prop} (hinit : ∀ s, m.init s → I s)
    (hstep : ∀ s a t, I s → ok s a → m.next s a = some t → I t) {s : σ}
    (h : m.ReachableBy ok s) : I s := by
  induction h with
  | start h => exact hinit _ h
  | step _ hok hn ih => exact hstep _ _ _ ih hok hn

theorem Reachable.invariant {I : σ → Prop} (hinit : ∀ s, m.init s → I s)
    (hstep : ∀ s a t, I s → m.next s a = some t → I t) {s : σ} (h : m.Reachable s) : I s :=
  ReachableBy.invariant hinit (fun s a t hi _ hn => hstep s a t hi hn) h

theorem ReachableBy.mono (himp : ∀ s a, ok s a → ok' s a) {s : σ} (h : m.ReachableBy ok s) :
    m.ReachableBy ok' s := by
  induction h with
  | start h => exact .start h
  | step _ hok hn ih => exact .step ih (himp _ _ hok) hn

/-- Runs that meet `ok` meet `ok'` if an invariant of these runs makes every step do so. -/
theorem ReachableBy.strengthen {I : σ → Prop} (hinit : ∀ s, m.init s → I s)
    (hstep : ∀ s a t, m.ReachableBy ok' s → I s → ok s a → m.next s a = some t → I t)
    (himp : ∀ s a t, I s → ok s a → m.next s a = some t → ok' s a) {s : σ}
    (h : m.ReachableBy ok s) : m.ReachableBy ok' s ∧ I s := by
  induction h with
  | start h => exact ⟨.start h, hinit _ h⟩
  | step _ hok hn ih =>
    obtain ⟨hreach, hi⟩ := ih
    exact ⟨.step hreach (himp _ _ _ hi hok hn) hn, hstep _ _ _ hreach hi hok hn⟩

theorem ReachableBy.reachable {s : σ} (h : m.ReachableBy ok s) : m.Reachable s :=
  h.mono fun _ _ _ => trivial

/-! ## Executing a list of labels -/

def exec (m : Machine σ α) : σ → List α → Option σ
  | s, [] => some s
  | s, a :: as => (m.next s a).bind fun t => m.exec t as

theorem exec_cons_eq_some {s u : σ} {a : α} {as : List α} :
    m.exec s (a :: as) = some u ↔ ∃ t, m.next s a = some t ∧ m.exec t as = some u := by
  simp only [exec, Option.bind_eq_some_iff]

-- `P` holds in every state of the run that performs `as` from `s`.
def Throughout (m : Machine σ α) (P : σ → Prop) : σ → List α → Prop
  | s, [] => P s
  | s, a :: as => P s ∧ ∀ t, m.next s a = some t → m.Throughout P t as

-- Every step of the run that performs `as` from `s` meets `ok`.
def StepsMeet (m : Machine σ α) (ok : σ → α → Prop) : σ → List α → Prop
  | _, [] => True
  | s, a :: as => ∀ t, m.next s a = some t → ok s a ∧ m.StepsMeet ok t as

theorem stepsMeet_true (s : σ) (as : List α) : m.StepsMeet (fun _ _ => True) s as := by
  induction as generalizing s with
  | nil => trivial
  | cons a as ih => exact fun _ _ => ⟨trivial, ih _⟩

theorem StepsMeet.nil (s : σ) : m.StepsMeet ok s [] :=
  trivial

theorem StepsMeet.cons {s t : σ} {a : α} {as : List α} (hn : m.next s a = some t) (hok : ok s a)
    (hrest : m.StepsMeet ok t as) : m.StepsMeet ok s (a :: as) := by
  intro u hu
  rw [hn] at hu
  cases hu
  exact ⟨hok, hrest⟩

instance StepsMeet.decidable [∀ s a, Decidable (ok s a)] :
    ∀ (s : σ) (as : List α), Decidable (m.StepsMeet ok s as)
  | _, [] => isTrue trivial
  | s, a :: as =>
    match hn : m.next s a with
    | none => isTrue fun _ ht => nomatch hn.symm.trans ht
    | some t =>
      have := StepsMeet.decidable t as
      decidable_of_iff (ok s a ∧ m.StepsMeet ok t as)
        ⟨fun h _ hu => Option.some.inj (hn.symm.trans hu) ▸ h, fun h => h t hn⟩

theorem ReachableBy.of_exec {s t : σ} {as : List α} (hs : m.ReachableBy ok s)
    (hok : m.StepsMeet ok s as) (h : m.exec s as = some t) : m.ReachableBy ok t := by
  induction as generalizing s with
  | nil =>
    simp only [exec, Option.some.injEq] at h
    exact h ▸ hs
  | cons a as ih =>
    obtain ⟨u, hn, hrest⟩ := exec_cons_eq_some.mp h
    obtain ⟨hstep, hsteps⟩ := hok u hn
    exact ih (hs.step hstep hn) hsteps hrest

theorem Reachable.of_exec {s t : σ} {as : List α} (hs : m.Reachable s)
    (h : m.exec s as = some t) : m.Reachable t :=
  ReachableBy.of_exec hs (stepsMeet_true s as) h

/-- One run to a state without `P` refutes `P` for the reachable states. -/
theorem not_forall_reachable {P : σ → Prop} {s t : σ} {as : List α} (hs : m.init s)
    (h : m.exec s as = some t) (hP : ¬ P t) : ¬ ∀ u, m.Reachable u → P u :=
  fun hall => hP (hall t ((Reachable.start hs).of_exec h))

theorem Throughout.here {P : σ → Prop} {s : σ} {as : List α} (h : m.Throughout P s as) : P s := by
  cases as with
  | nil => exact h
  | cons a as => exact h.1

/-- When `ok` steps keep an invariant that implies `P`, and a step that is not `ok` destroys `P`,
the runs on which `P` holds throughout are exactly those whose steps are all `ok`.  Here among the
runs whose steps meet `within`. -/
theorem throughout_iff_stepsMeet_within {I P : σ → Prop} {within : σ → α → Prop}
    (himp : ∀ s, I s → P s)
    (hkeep : ∀ s a t, I s → within s a → ok s a → m.next s a = some t → I t)
    (hbreak : ∀ s a t, I s → within s a → ¬ ok s a → m.next s a = some t → ¬ P t)
    {s : σ} (hs : I s) {as : List α} (hwithin : m.StepsMeet within s as) :
    m.Throughout P s as ↔ m.StepsMeet ok s as := by
  induction as generalizing s with
  | nil => exact iff_of_true (himp s hs) trivial
  | cons a as ih =>
    constructor
    · rintro ⟨-, hrest⟩ t hn
      obtain ⟨hin, hins⟩ := hwithin t hn
      have hok : ok s a := by
        by_contra hno
        exact hbreak s a t hs hin hno hn (hrest t hn).here
      exact ⟨hok, (ih (hkeep s a t hs hin hok hn) hins).mp (hrest t hn)⟩
    · intro hsteps
      refine ⟨himp s hs, fun t hn => ?_⟩
      obtain ⟨hin, hins⟩ := hwithin t hn
      obtain ⟨hok, hrest⟩ := hsteps t hn
      exact (ih (hkeep s a t hs hin hok hn) hins).mpr hrest

theorem throughout_iff_stepsMeet {I P : σ → Prop} (himp : ∀ s, I s → P s)
    (hkeep : ∀ s a t, I s → ok s a → m.next s a = some t → I t)
    (hbreak : ∀ s a t, I s → ¬ ok s a → m.next s a = some t → ¬ P t)
    {s : σ} (hs : I s) (as : List α) : m.Throughout P s as ↔ m.StepsMeet ok s as :=
  throughout_iff_stepsMeet_within himp (fun s a t h _ => hkeep s a t h)
    (fun s a t h _ => hbreak s a t h) hs (stepsMeet_true s as)

/-- Steps that meet `ok` meet `ok'` if an invariant that they keep makes them do so. -/
theorem StepsMeet.imp {I : σ → Prop} (hkeep : ∀ s a t, I s → ok s a → m.next s a = some t → I t)
    (himp : ∀ s a t, I s → ok s a → m.next s a = some t → ok' s a) {s : σ} (hs : I s)
    {as : List α} (h : m.StepsMeet ok s as) : m.StepsMeet ok' s as := by
  induction as generalizing s with
  | nil => trivial
  | cons a as ih =>
    intro t hn
    obtain ⟨hok, hrest⟩ := h t hn
    exact ⟨himp s a t hs hok hn, ih (hkeep s a t hs hok hn) hrest⟩

/-! ## A record beside the state -/

-- `note` sees the state before the step.
def recording {ρ : Type*} (m : Machine σ α) (note : ρ → σ → α → ρ) (r₀ : ρ) :
    Machine (σ × ρ) α where
  init s := m.init s.1 ∧ s.2 = r₀
  next s a := (m.next s.1 a).map fun t => (t, note s.2 s.1 a)

section recording

variable {ρ : Type*} {note : ρ → σ → α → ρ} {r₀ r : ρ}

theorem recording_next {s : σ} {a : α} {u : σ × ρ} :
    (m.recording note r₀).next (s, r) a = some u ↔
      ∃ t, m.next s a = some t ∧ (t, note r s a) = u :=
  Option.map_eq_some_iff

/-- The record does not change what happens. -/
theorem recording_throughout {P : σ → Prop} {s : σ} {as : List α} :
    (m.recording note r₀).Throughout (fun u => P u.1) (s, r) as ↔ m.Throughout P s as := by
  induction as generalizing s r with
  | nil => exact Iff.rfl
  | cons a as ih =>
    apply and_congr_right
    intro _
    constructor
    · intro h t hn
      exact ih.mp (h _ (recording_next.mpr ⟨t, hn, rfl⟩))
    · intro h u hu
      obtain ⟨t, hn, rfl⟩ := recording_next.mp hu
      exact ih.mpr (h t hn)

theorem recording_stepsMeet {s : σ} {as : List α} :
    (m.recording note r₀).StepsMeet (fun u => ok u.1) (s, r) as ↔ m.StepsMeet ok s as := by
  induction as generalizing s r with
  | nil => exact Iff.rfl
  | cons a as ih =>
    constructor
    · intro h t hn
      obtain ⟨hok, hrest⟩ := h _ (recording_next.mpr ⟨t, hn, rfl⟩)
      exact ⟨hok, ih.mp hrest⟩
    · intro h u hu
      obtain ⟨t, hn, rfl⟩ := recording_next.mp hu
      exact ⟨(h t hn).1, ih.mpr (h t hn).2⟩

end recording

/-! ## Refinement -/

/-- `m` refines `n` through `abs`: initial states map to initial states, and every step of a
reachable state is a step of `n` or invisible to it. -/
structure Refines (m : Machine σ α) (n : Machine τ β) (abs : σ → τ) : Prop where
  init : ∀ s, m.init s → n.init (abs s)
  step : ∀ s a t, m.Reachable s → m.next s a = some t →
    abs t = abs s ∨ ∃ b, n.next (abs s) b = some (abs t)

theorem Refines.reachable {abs : σ → τ} (r : m.Refines n abs) {s : σ} (h : m.Reachable s) :
    n.Reachable (abs s) := by
  unfold Reachable at h
  induction h with
  | start h => exact .start (r.init _ h)
  | step hs _ hn ih =>
    rcases r.step _ _ _ hs hn with hsame | ⟨b, hb⟩
    · exact hsame ▸ ih
    · exact ih.step hb

/-- The same for runs in which every step meets `ok`. -/
theorem ReachableBy.refines {abs : σ → τ} (hinit : ∀ s, m.init s → n.init (abs s))
    (hstep : ∀ s a t, m.ReachableBy ok s → ok s a → m.next s a = some t →
      abs t = abs s ∨ ∃ b, n.next (abs s) b = some (abs t)) {s : σ} (h : m.ReachableBy ok s) :
    n.Reachable (abs s) := by
  induction h with
  | start h => exact .start (hinit _ h)
  | step hs hok hn ih =>
    rcases hstep _ _ _ hs hok hn with hsame | ⟨b, hb⟩
    · exact hsame ▸ ih
    · exact ih.step hb

end Machine

end Transition
