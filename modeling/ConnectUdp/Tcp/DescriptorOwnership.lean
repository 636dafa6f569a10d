import ConnectUdp.Tcp.Descriptors

/-!
# Who closes what

`closeTcpSocket` closes what the two globals hold, whoever put it there.  A step keeps the books
when what it closes is there and nothing else is left.
-/

namespace ConnectUdp.Tcp.Process

open Transition Descriptor

/-- `close` has only been applied to descriptors of these functions, and nothing is open that a
settled call obtained. -/
def Accounted (p : Process) : Prop :=
  p.strayCloses = [] ∧ p.settled = ∅

/-- `closeTcpSocket` finds two different descriptors in the globals, both open, and no third one;
the `close(server_fd)` of the receiver finds it open. -/
def closesOwn (p : Process) : Act → Prop
  | .closeTcpSocket => p.newSocket ≠ p.serverFd ∧ p.held = {p.newSocket, p.serverFd}
  | .step _ => p.call = .receiver .closeServer → p.serverFd ∈ p.held
  | .callSender | .callReceiver | .openOther => True

instance closesOwn.decidable (p : Process) : (a : Act) → Decidable (closesOwn p a)
  | .closeTcpSocket => inferInstanceAs (Decidable (_ ∧ _))
  | .step _ => inferInstanceAs (Decidable (_ → _))
  | .callSender | .callReceiver | .openOther => .isTrue trivial

/-- What the running call holds at each of its steps. -/
def Holds (p : Process) : Call → Prop
  | .idle | .sender .socket | .receiver .socket => p.running = ∅
  | .sender (.inetPton sock) | .sender (.connect sock) | .sender (.closeFailed sock)
  | .sender (.send sock) | .sender (.read sock) | .sender (.close sock) => p.running = {sock}
  -- `closeTcpSocket` may have closed it during `accept`
  | .receiver .setsockopt | .receiver .bind | .receiver .listen | .receiver .accept
  | .receiver .closeServer => p.running ⊆ {p.serverFd}
  | .receiver .read | .receiver .send | .receiver .closeNewSocket =>
    p.newSocket ∈ p.running ∧ p.running ⊆ {p.newSocket, p.serverFd}
  | .sender (.returned _) | .receiver (.returned _) => False

structure Inv (p : Process) : Prop where
  accounted : p.Accounted
  holds : p.Holds p.call

variable {p t : Process} {ret : Int}

theorem inv_start : Inv start where
  accounted := ⟨rfl, rfl⟩
  holds := rfl

/-! ## The steps that keep the books -/

theorem newFd_of_neg (h : ret < 0) : p.newFd ret = -1 :=
  if_pos h

theorem opened_of_neg (h : ret < 0) : p.opened ret = p :=
  if_pos h

theorem opened_of_nonneg (h : ¬ ret < 0) :
    p.opened ret = { p with running := insert (p.newFd ret) p.running } :=
  if_neg h

theorem inv_returned_false (h : p.Accounted) : Inv (p.returned false) where
  accounted := h
  holds := rfl

theorem inv_returned_true (h : p.Accounted) (hrunning : p.running = ∅) :
    Inv (p.returned true) where
  accounted := by
    refine ⟨h.1, ?_⟩
    change p.settled ∪ p.running = ∅
    rw [h.2, hrunning, Finset.union_empty]
  holds := rfl

theorem Accounted.close {fd : Int} (h : p.Accounted) (hmem : fd ∈ p.held) :
    (p.close fd).Accounted := by
  rw [close_of_mem hmem]
  refine ⟨h.1, ?_⟩
  change p.settled.erase fd = ∅
  rw [h.2, Finset.erase_empty]

-- `close` of what the call holds alone leaves it nothing.
theorem running_close {fd : Int} (hmem : fd ∈ p.held) (hsub : p.running ⊆ {fd}) :
    (p.close fd).running = ∅ := by
  rw [close_of_mem hmem]
  change p.running.erase fd = ∅
  apply Finset.eq_empty_of_forall_notMem
  intro x hx
  obtain ⟨hne, hx⟩ := Finset.mem_erase.mp hx
  exact hne (Finset.mem_singleton.mp (hsub hx))

theorem Inv.sender (h : Inv p) {pc : SenderPc} (hcall : p.call = .sender pc) :
    Inv (p.senderStep pc ret) := by
  have hholds := h.holds
  rw [hcall] at hholds
  cases pc with
  | socket =>
    by_cases hret : ret < 0
    · simp only [senderStep, opened_of_neg hret, newFd_of_neg hret]
      exact inv_returned_false h.accounted
    · have hrunning : insert (p.newFd ret) p.running = {p.newFd ret} := by
        rw [show p.running = ∅ from hholds]
        rfl
      simp only [senderStep, opened_of_nonneg hret, initializeTcpSender]
      by_cases hfd : p.newFd ret < 0
      · rw [if_pos hfd]
        exact inv_returned_false h.accounted
      · rw [if_neg hfd]
        exact ⟨h.accounted, hrunning⟩
  | inetPton sock =>
    simp only [senderStep, initializeTcpSender]
    split
    · exact inv_returned_false h.accounted
    · exact ⟨h.accounted, hholds⟩
  | connect sock =>
    simp only [senderStep, initializeTcpSender]
    split
    · exact ⟨h.accounted, hholds⟩
    · exact ⟨h.accounted, hholds⟩
  | closeFailed sock =>
    have hrunning : p.running = {sock} := hholds
    have hmem := mem_held_of_running (hrunning ▸ Finset.mem_singleton_self sock)
    exact inv_returned_false (h.accounted.close hmem)
  | send sock | read sock => exact ⟨h.accounted, hholds⟩
  | close sock =>
    have hrunning : p.running = {sock} := hholds
    have hmem := mem_held_of_running (hrunning ▸ Finset.mem_singleton_self sock)
    exact inv_returned_true (h.accounted.close hmem) (running_close hmem hrunning.subset)
  | returned result => exact hholds.elim

theorem Inv.receiver (h : Inv p) {pc : ReceiverPc} (hcall : p.call = .receiver pc)
    (hok : closesOwn p (.step ret)) : Inv (p.receiverStep pc ret) := by
  have hholds := h.holds
  rw [hcall] at hholds
  cases pc with
  | socket =>
    have hempty : p.running = ∅ := hholds
    by_cases hret : ret < 0
    · -- the test against 0 lets the -1 through, and `server_fd` holds it from here on
      simp only [receiverStep, opened_of_neg hret, newFd_of_neg hret]
      refine ⟨h.accounted, ?_⟩
      change p.running ⊆ {-1}
      rw [hempty]
      exact Finset.empty_subset _
    · simp only [receiverStep, opened_of_nonneg hret, initializeTcpReceiver]
      by_cases hfd : p.newFd ret = 0
      · rw [if_pos hfd]
        exact inv_returned_false h.accounted
      · rw [if_neg hfd]
        refine ⟨h.accounted, ?_⟩
        change insert (p.newFd ret) p.running ⊆ {p.newFd ret}
        rw [hempty]
        exact Finset.Subset.refl _
  | setsockopt | bind | listen =>
    simp only [receiverStep, initializeTcpReceiver]
    split
    · exact inv_returned_false h.accounted
    · exact ⟨h.accounted, hholds⟩
  | accept =>
    by_cases hret : ret < 0
    · simp only [receiverStep, opened_of_neg hret, newFd_of_neg hret]
      exact inv_returned_false h.accounted
    · simp only [receiverStep, opened_of_nonneg hret, initializeTcpReceiver]
      by_cases hfd : p.newFd ret < 0
      · rw [if_pos hfd]
        exact inv_returned_false h.accounted
      · rw [if_neg hfd]
        have hsub : p.running ⊆ {p.serverFd} := hholds
        exact ⟨h.accounted, Finset.mem_insert_self _ _, Finset.insert_subset_insert _ hsub⟩
  | read | send => exact ⟨h.accounted, hholds⟩
  | closeNewSocket =>
    obtain ⟨hnew, hsub⟩ := hholds
    have hmem := mem_held_of_running hnew
    refine ⟨h.accounted.close hmem, ?_⟩
    · -- only the listening socket can be left
      simp only [receiverStep, close_of_mem hmem, initializeTcpReceiver]
      change p.running.erase p.newSocket ⊆ {p.serverFd}
      exact Finset.subset_insert_iff.mp hsub
  | closeServer =>
    have hmem := hok hcall
    exact inv_returned_true (h.accounted.close hmem) (running_close hmem hholds)
  | returned result => exact hholds.elim

/-- While `closeTcpSocket` can be called, the running call holds at most the listening socket. -/
theorem Inv.running_subset (h : Inv p) (hcall : p.call = .idle ∨ p.call = .receiver .accept) :
    p.running ⊆ {p.serverFd} := by
  have hholds := h.holds
  rcases hcall with hidle | haccept
  · rw [hidle] at hholds
    rw [show p.running = ∅ from hholds]
    exact Finset.empty_subset _
  · rw [haccept] at hholds
    exact hholds

theorem accounted_settle :
    p.settle.Accounted ↔ p.strayCloses = [] ∧ p.settled = ∅ ∧ p.failed = ∅ := by
  change p.strayCloses = [] ∧ p.settled ∪ p.failed = ∅ ↔ _
  rw [Finset.union_eq_empty]

theorem inv_settle (hcall : p.call = .idle ∨ p.call = .receiver .accept)
    (hstray : p.strayCloses = []) (hnone : p.held = ∅) : Inv p.settle := by
  obtain ⟨hrunning, hfailed, hsettled⟩ := held_eq_empty.mp hnone
  refine ⟨accounted_settle.mpr ⟨hstray, hsettled, hfailed⟩, ?_⟩
  change Holds p.settle p.call
  rcases hcall with hidle | haccept
  · rw [hidle]
    exact hrunning
  · rw [haccept]
    change p.running ⊆ {p.serverFd}
    rw [hrunning]
    exact Finset.empty_subset _

-- Each of the two closes finds its descriptor, and then nothing is left.
theorem held_close_close (hok : closesOwn p .closeTcpSocket) :
    p.newSocket ∈ p.held ∧ p.serverFd ∈ (p.close p.newSocket).held ∧
      ((p.close p.newSocket).close p.serverFd).held = ∅ := by
  obtain ⟨hne, hheld⟩ := hok
  have hnew : p.newSocket ∈ p.held := by
    rw [hheld]
    exact Finset.mem_insert_self _ _
  have hserver : p.serverFd ∈ (p.close p.newSocket).held := by
    rw [held_close_of_mem hnew, hheld]
    exact Finset.mem_erase.mpr
      ⟨hne.symm, Finset.mem_insert_of_mem (Finset.mem_singleton_self _)⟩
  refine ⟨hnew, hserver, ?_⟩
  rw [held_close_of_mem hserver, held_close_of_mem hnew, hheld,
    Finset.erase_insert (fun hmem => hne (Finset.mem_singleton.mp hmem)),
    Finset.erase_singleton]

theorem Inv.closeTcpSocket (h : Inv p) (hcall : p.call = .idle ∨ p.call = .receiver .accept)
    (hok : closesOwn p .closeTcpSocket) : Inv p.closeTcpSocket := by
  obtain ⟨hnew, hserver, hempty⟩ := held_close_close hok
  apply inv_settle
  · rw [call_close, call_close]
    exact hcall
  · rw [close_of_mem hserver, close_of_mem hnew]
    exact h.accounted.1
  · exact hempty

theorem Inv.next (h : Inv p) {a : Act} (hok : closesOwn p a) (hn : p.next a = some t) :
    Inv t := by
  cases a with
  | callSender | callReceiver =>
    simp only [Process.next] at hn
    split at hn <;> cases hn
    have hholds := h.holds
    rw [‹p.call = .idle›] at hholds
    exact ⟨h.accounted, hholds⟩
  | step ret =>
    simp only [Process.next] at hn
    split at hn <;> cases hn
    · exact h.sender ‹_›
    · exact h.receiver ‹_› hok
  | closeTcpSocket =>
    simp only [Process.next] at hn
    split at hn <;> cases hn
    exact h.closeTcpSocket ‹_› hok
  | openOther =>
    cases hn
    exact ⟨h.accounted, h.holds⟩

/-! ## The steps that do not -/

theorem strayCloses_receiverAt (pc : ReceiverPc) :
    (p.receiverAt pc).strayCloses = p.strayCloses := by
  cases pc with
  | returned result => cases result <;> rfl
  | _ => rfl

theorem closesOwn_of_closeTcpSocket (h : Inv p)
    (hcall : p.call = .idle ∨ p.call = .receiver .accept) (ht : p.closeTcpSocket.Accounted) :
    closesOwn p .closeTcpSocket := by
  obtain ⟨hstray, -, hfailed⟩ := accounted_settle.mp ht
  -- neither `close` was stray, so both globals held a descriptor when their turn came
  have hserver := mem_held_of_strayCloses_close hstray
  have hnew : p.newSocket ∈ p.held := by
    apply mem_held_of_strayCloses_close
    exact List.prefix_nil.mp (hstray ▸ strayCloses_close)
  rw [held_close_of_mem hnew] at hserver
  obtain ⟨hne, hserver⟩ := Finset.mem_erase.mp hserver
  refine ⟨hne.symm, Finset.Subset.antisymm ?_ ?_⟩
  · intro x hx
    by_contra hother
    have hxnew : x ≠ p.newSocket := fun heq => hother (heq ▸ Finset.mem_insert_self _ _)
    have hxserver : x ≠ p.serverFd := fun heq =>
      hother (heq ▸ Finset.mem_insert_of_mem (Finset.mem_singleton_self _))
    unfold held at hx
    rw [h.accounted.2, Finset.union_empty] at hx
    rcases Finset.mem_union.mp hx with hrunning | hleft
    · exact hxserver (Finset.mem_singleton.mp (h.running_subset hcall hrunning))
    · -- a third descriptor outlives both closes
      have hstays := mem_failed_close (mem_failed_close hleft hxnew) hxserver
      rw [hfailed] at hstays
      exact Finset.notMem_empty x hstays
  · exact Finset.insert_subset hnew (Finset.singleton_subset_iff.mpr hserver)

theorem closesOwn_of_accounted (h : Inv p) {a : Act} (hn : p.next a = some t)
    (ht : t.Accounted) : closesOwn p a := by
  cases a with
  | callSender | callReceiver | openOther => trivial
  | step ret =>
    intro hcall
    simp only [Process.next, hcall, Option.some.injEq] at hn
    subst hn
    have hstray := ht.1
    simp only [receiverStep, strayCloses_receiverAt] at hstray
    exact mem_held_of_strayCloses_close hstray
  | closeTcpSocket =>
    simp only [Process.next] at hn
    split at hn <;> cases hn
    exact closesOwn_of_closeTcpSocket h ‹_› ht

end ConnectUdp.Tcp.Process
