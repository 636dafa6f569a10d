import ConnectUdp.Descriptor
import ConnectUdp.Tcp.Calls
import ConnectUdp.Transition

/-!
# The descriptors of the TCP rendezvous

One process calls `initializeTcpSender`, `initializeTcpReceiver` and `closeTcpSocket` in any
order, with every outcome of their system calls, while the rest of it opens descriptors of its
own.  Another thread may call `closeTcpSocket` while the receiver is blocked in `accept`.
-/

namespace ConnectUdp.Tcp

open Transition Descriptor

inductive Call
  | idle
  | sender (pc : SenderPc)
  | receiver (pc : ReceiverPc)
  deriving DecidableEq, Repr

structure Process where
  call : Call
  serverFd : Int
  newSocket : Int
  -- The open descriptors of the rest of the process.
  others : Finset Int
  -- the open descriptors that `socket` and `accept` gave to these functions, by the call that
  -- obtained them: still running; returned `false` and no `closeTcpSocket` since; all others
  running : Finset Int
  failed : Finset Int
  settled : Finset Int
  -- What `close` was applied to besides these.
  strayCloses : List Int
  deriving DecidableEq

namespace Process

/-- The globals start out as 0, and 0 to 2 are open. -/
def start : Process where
  call := .idle
  serverFd := 0
  newSocket := 0
  others := {0, 1, 2}
  running := ∅
  failed := ∅
  settled := ∅
  strayCloses := []

def held (p : Process) : Finset Int :=
  p.running ∪ p.failed ∪ p.settled

-- The number that `socket` and `accept` return, or -1.
def newFd (p : Process) (ret : Int) : Int :=
  if ret < 0 then -1 else lowestFree (p.others ∪ p.held)

-- The process after `socket` or `accept`.
def opened (p : Process) (ret : Int) : Process :=
  if ret < 0 then p else { p with running := insert (p.newFd ret) p.running }

def close (p : Process) (fd : Int) : Process :=
  if fd ∈ p.held then
    { p with
      running := p.running.erase fd, failed := p.failed.erase fd, settled := p.settled.erase fd }
  else { p with others := p.others.erase fd, strayCloses := p.strayCloses ++ [fd] }

/-- What the call has obtained and not closed is left to `closeTcpSocket` if it returns `false`,
and to nobody if it returns `true`. -/
def returned (p : Process) : Bool → Process
  | true => { p with call := .idle, running := ∅, settled := p.settled ∪ p.running }
  | false => { p with call := .idle, running := ∅, failed := p.failed ∪ p.running }

def senderAt (p : Process) : SenderPc → Process
  | .returned result => p.returned result
  | pc => { p with call := .sender pc }

def receiverAt (p : Process) : ReceiverPc → Process
  | .returned result => p.returned result
  | pc => { p with call := .receiver pc }

def senderStep (p : Process) (pc : SenderPc) (ret : Int) : Process :=
  match pc with
  | .socket => (p.opened ret).senderAt (initializeTcpSender pc (p.newFd ret))
  | .closeFailed sock | .close sock => (p.close sock).senderAt (initializeTcpSender pc ret)
  | .inetPton _ | .connect _ | .send _ | .read _ | .returned _ =>
    p.senderAt (initializeTcpSender pc ret)

def receiverStep (p : Process) (pc : ReceiverPc) (ret : Int) : Process :=
  match pc with
  | .socket => { p.opened ret with serverFd := p.newFd ret }.receiverAt
      (initializeTcpReceiver pc (p.newFd ret))
  | .accept => { p.opened ret with newSocket := p.newFd ret }.receiverAt
      (initializeTcpReceiver pc (p.newFd ret))
  | .closeNewSocket => (p.close p.newSocket).receiverAt (initializeTcpReceiver pc ret)
  | .closeServer => (p.close p.serverFd).receiverAt (initializeTcpReceiver pc ret)
  | .setsockopt | .bind | .listen | .read | .send | .returned _ =>
    p.receiverAt (initializeTcpReceiver pc ret)

/-- Nobody closes from here on what the calls that returned `false` have left. -/
def settle (p : Process) : Process :=
  { p with failed := ∅, settled := p.settled ∪ p.failed }

def closeTcpSocket (p : Process) : Process :=
  ((p.close p.newSocket).close p.serverFd).settle

inductive Act
  | callSender
  | callReceiver
  | step (ret : Int)
  | closeTcpSocket
  | openOther
  deriving DecidableEq, Repr

def next (p : Process) : Act → Option Process
  | .callSender => if p.call = .idle then some { p with call := .sender .socket } else none
  | .callReceiver => if p.call = .idle then some { p with call := .receiver .socket } else none
  | .step ret =>
    match p.call with
    | .idle => none
    | .sender pc => some (p.senderStep pc ret)
    | .receiver pc => some (p.receiverStep pc ret)
  | .closeTcpSocket =>
    if p.call = .idle ∨ p.call = .receiver .accept then some p.closeTcpSocket else none
  | .openOther => some { p with others := insert (lowestFree (p.others ∪ p.held)) p.others }

def machine : Machine Process Act where
  init p := p = start
  next := next

section close

variable {p : Process} {fd : Int}

theorem close_of_mem (h : fd ∈ p.held) : p.close fd = { p with
    running := p.running.erase fd, failed := p.failed.erase fd, settled := p.settled.erase fd } :=
  if_pos h

theorem call_close : (p.close fd).call = p.call := by
  unfold close
  split <;> rfl

theorem mem_held_of_running (h : fd ∈ p.running) : fd ∈ p.held :=
  Finset.mem_union_left _ (Finset.mem_union_left _ h)

theorem held_close_of_mem (h : fd ∈ p.held) : (p.close fd).held = p.held.erase fd := by
  rw [close_of_mem h]
  unfold held
  rw [Finset.erase_union_distrib, Finset.erase_union_distrib]

theorem held_eq_empty :
    p.held = ∅ ↔ p.running = ∅ ∧ p.failed = ∅ ∧ p.settled = ∅ := by
  unfold held
  rw [Finset.union_eq_empty, Finset.union_eq_empty, and_assoc]

-- A stray `close` is never forgotten.
theorem strayCloses_close : p.strayCloses <+: (p.close fd).strayCloses := by
  unfold close
  split
  · exact List.prefix_rfl
  · exact List.prefix_append _ _

theorem mem_held_of_strayCloses_close (h : (p.close fd).strayCloses = []) : fd ∈ p.held := by
  by_cases hmem : fd ∈ p.held
  · exact hmem
  · rw [close, if_neg hmem] at h
    exact absurd h (List.append_ne_nil_of_right_ne_nil _ (List.cons_ne_nil _ _))

theorem mem_failed_close {x : Int} (hx : x ∈ p.failed) (hne : x ≠ fd) :
    x ∈ (p.close fd).failed := by
  unfold close
  split
  · exact Finset.mem_erase.mpr ⟨hne, hx⟩
  · exact hx

end close

/-! ## A number belongs to one side -/

section separate

variable {p t : Process}

def Separate (p : Process) : Prop :=
  Disjoint p.others p.held

theorem Separate.close (h : p.Separate) (fd : Int) : (p.close fd).Separate := by
  by_cases hmem : fd ∈ p.held
  · unfold Separate
    rw [held_close_of_mem hmem, close_of_mem hmem]
    exact Finset.disjoint_of_subset_right (Finset.erase_subset _ _) h
  · rw [Process.close, if_neg hmem]
    exact Finset.disjoint_of_subset_left (Finset.erase_subset _ _) h

theorem Separate.opened (h : p.Separate) (ret : Int) : (p.opened ret).Separate := by
  unfold Process.opened
  split
  · exact h
  · next hret =>
    have hnew : p.newFd ret ∉ p.others ∪ p.held := by
      rw [newFd, if_neg hret]
      exact lowestFree_not_mem _
    unfold Separate held
    rw [Finset.insert_union, Finset.insert_union, Finset.disjoint_insert_right]
    exact ⟨fun hmem => hnew (Finset.mem_union_left _ hmem), h⟩

theorem Separate.of_held_eq (h : p.Separate) (hothers : t.others = p.others)
    (hheld : t.held = p.held) : t.Separate := by
  unfold Separate
  rw [hothers, hheld]
  exact h

theorem held_returned (result : Bool) : (p.returned result).held = p.held := by
  cases result with
  | false =>
    change ∅ ∪ (p.failed ∪ p.running) ∪ p.settled = p.running ∪ p.failed ∪ p.settled
    rw [Finset.empty_union, Finset.union_comm p.failed]
  | true =>
    change ∅ ∪ p.failed ∪ (p.settled ∪ p.running) = p.running ∪ p.failed ∪ p.settled
    rw [Finset.empty_union, ← Finset.union_assoc, Finset.union_comm _ p.running,
      Finset.union_assoc]

theorem held_settle (p : Process) : p.settle.held = p.held := by
  change p.running ∪ ∅ ∪ (p.settled ∪ p.failed) = p.running ∪ p.failed ∪ p.settled
  rw [Finset.union_empty, Finset.union_comm p.settled, Finset.union_assoc]

theorem Separate.senderAt (h : p.Separate) (pc : SenderPc) : (p.senderAt pc).Separate := by
  cases pc with
  | returned result => exact h.of_held_eq (by cases result <;> rfl) (held_returned result)
  | _ => exact h

theorem Separate.receiverAt (h : p.Separate) (pc : ReceiverPc) : (p.receiverAt pc).Separate := by
  cases pc with
  | returned result => exact h.of_held_eq (by cases result <;> rfl) (held_returned result)
  | _ => exact h

theorem Separate.withServerFd (h : p.Separate) (fd : Int) :
    Separate { p with serverFd := fd } :=
  h

theorem Separate.withNewSocket (h : p.Separate) (fd : Int) :
    Separate { p with newSocket := fd } :=
  h

theorem Separate.next (h : p.Separate) {a : Act} (hn : p.next a = some t) : t.Separate := by
  cases a with
  | callSender | callReceiver =>
    simp only [Process.next] at hn
    split at hn <;> cases hn
    exact h
  | step ret =>
    simp only [Process.next] at hn
    split at hn <;> cases hn
    · next pc _ =>
      cases pc with
      | socket => exact (h.opened ret).senderAt _
      | closeFailed sock | close sock => exact (h.close sock).senderAt _
      | _ => exact h.senderAt _
    · next pc _ =>
      cases pc with
      | socket => exact ((h.opened ret).withServerFd (p.newFd ret)).receiverAt _
      | accept => exact ((h.opened ret).withNewSocket (p.newFd ret)).receiverAt _
      | closeNewSocket | closeServer => exact (h.close _).receiverAt _
      | _ => exact h.receiverAt _
  | closeTcpSocket =>
    simp only [Process.next] at hn
    split at hn <;> cases hn
    exact ((h.close p.newSocket).close p.serverFd).of_held_eq rfl (held_settle _)
  | openOther =>
    cases hn
    have hnew := lowestFree_not_mem (p.others ∪ p.held)
    refine Finset.disjoint_insert_left.mpr ⟨fun hmem => hnew ?_, h⟩
    exact Finset.mem_union_right _ hmem

/-- No open descriptor of the rest of the process is one of these functions' own: a stray `close`
closes a descriptor of the others, or none. -/
theorem separate_of_reachable (h : machine.Reachable p) : p.Separate :=
  h.invariant (forall_eq.mpr (show start.Separate from Finset.disjoint_empty_right _))
    fun _ _ _ hi hn => hi.next hn

end separate

end Process

end ConnectUdp.Tcp
