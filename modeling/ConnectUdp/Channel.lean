import ConnectUdp.Transition

/-!
# Lossless ordered channels

The abstract channel between one sender and one receiver: everything sent, and everything received
so far.  A receiver can only take the next value it has not taken, so in every reachable state what
was received is a prefix of what was sent.
-/

namespace Transition

structure Channel (α : Type*) where
  sent : List α
  received : List α

inductive ChannelAct (α : Type*)
  | send (x : α)
  | receive

namespace Channel

variable {α : Type*}

def empty : Channel α := ⟨[], []⟩

-- What was sent and not received yet.
def pending (c : Channel α) : List α :=
  c.sent.drop c.received.length

def next (c : Channel α) : ChannelAct α → Option (Channel α)
  | .send x => some { c with sent := c.sent ++ [x] }
  | .receive => c.pending.head?.map fun x => { c with received := c.received ++ [x] }

def machine : Machine (Channel α) (ChannelAct α) where
  init c := c = empty
  next := next

/-- Nothing was lost, repeated or reordered so far. -/
def Ordered (c : Channel α) : Prop :=
  c.received <+: c.sent

theorem Ordered.sent_eq {c : Channel α} (h : c.Ordered) : c.sent = c.received ++ c.pending := by
  obtain ⟨rest, hrest⟩ := h
  rw [pending, ← hrest, List.drop_left]

theorem Ordered.next {c d : Channel α} {a : ChannelAct α} (h : c.Ordered)
    (hn : c.next a = some d) : d.Ordered := by
  cases a with
  | send x =>
    simp only [Channel.next, Option.some.injEq] at hn
    subst hn
    exact List.IsPrefix.trans h (List.prefix_append _ _)
  | receive =>
    simp only [Channel.next, Option.map_eq_some_iff] at hn
    obtain ⟨x, hx, rfl⟩ := hn
    obtain ⟨rest, hrest⟩ := List.head?_eq_some_iff.mp hx
    refine ⟨rest, ?_⟩
    change (c.received ++ [x]) ++ rest = c.sent
    rw [List.append_assoc, List.singleton_append, ← hrest]
    exact h.sent_eq.symm

theorem ordered_of_reachable {c : Channel α} (h : machine.Reachable c) : c.Ordered :=
  h.invariant (forall_eq.mpr (show empty.Ordered from List.prefix_rfl))
    (fun _ _ _ hi hn => hi.next hn)

end Channel

end Transition
