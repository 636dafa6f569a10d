import ConnectUdp.Tcp.DescriptorOwnership
import Mathlib.Data.Finset.Dedup

/-!
# What the calls have returned and who may close

The globals are right or wrong for `closeTcpSocket` by what the calls and their system calls have
returned so far: which of them have left a descriptor, and under which number.
-/

namespace ConnectUdp.Tcp.Process

open Transition Descriptor

/-! ## The results so far -/

/-- What `socket` has returned to the calls that left their descriptor open. -/
structure Results where
  -- by a sender whose `inet_pton` failed or a receiver that returned `false`, since the last
  -- `closeTcpSocket`
  left : List Int
  -- by the running receiver, until `closeTcpSocket` is called; none if `socket` returned -1
  listening : Option Int
  deriving DecidableEq

namespace Results

def empty : Results :=
  ⟨[], none⟩

-- The receiver goes on, or it returns.
def exit (r : Results) : ReceiverPc → Results
  | .returned false => ⟨r.left ++ r.listening.toList, none⟩
  | .returned true => { r with listening := none }
  | _ => r

-- `ret` is what the system call at this place has returned.
def note (r : Results) : Call → Int → Results
  | .sender (.inetPton sock), ret => if ret ≤ 0 then { r with left := r.left ++ [sock] } else r
  | .receiver .socket, ret =>
    { r with listening := if ret < 0 then none else some ret }.exit
      (initializeTcpReceiver .socket ret)
  | .receiver pc, ret => r.exit (initializeTcpReceiver pc ret)
  | .sender _, _ | .idle, _ => r

end Results

-- What the system call at this place returns.
def result (p : Process) (ret : Int) : Call → Int
  | .sender .socket | .receiver .socket | .receiver .accept => p.newFd ret
  | _ => ret

def Results.after (r : Results) (p : Process) : Act → Results
  | .step ret => r.note p.call (p.result ret p.call)
  | .closeTcpSocket => .empty
  | .callSender | .callReceiver | .openOther => r

def recorded : Machine (Process × Results) Act :=
  machine.recording Results.after .empty

/-- `closeTcpSocket` is called when two calls have left a descriptor, the receiver in `accept`
counted, and the globals hold what `socket` returned to these two.  The receiver closes
`server_fd` when `socket` has not returned -1 and `closeTcpSocket` was not called behind it. -/
def ResultsOk (s : Process × Results) : Act → Prop
  | .closeTcpSocket =>
    (s.2.left ++ s.2.listening.toList).Perm [s.1.newSocket, s.1.serverFd]
  | .step _ => s.1.call = .receiver .closeServer → s.2.listening ≠ none
  | .callSender | .callReceiver | .openOther => True

instance ResultsOk.decidable (s : Process × Results) : (a : Act) → Decidable (ResultsOk s a)
  | .closeTcpSocket => inferInstanceAs (Decidable (List.Perm _ _))
  | .step _ => inferInstanceAs (Decidable (_ → _))
  | .callSender | .callReceiver | .openOther => .isTrue trivial

/-- `closeTcpSocket` is not called, and no receiver to which `socket` returned -1 gets as far as
its `close(server_fd)`. -/
def Untouched (p : Process) : Act → Prop
  | .closeTcpSocket => False
  | .step _ => p.call = .receiver .closeServer → p.serverFd ≠ -1
  | .callSender | .callReceiver | .openOther => True

/-! ## The results and the books -/

/-- The running call's side of the record. -/
def Listening (p : Process) (r : Results) : Call → Prop
  | .idle | .sender _ | .receiver .socket => r.listening = none
  | .receiver .read | .receiver .send | .receiver .closeNewSocket =>
    p.serverFd ∉ p.failed ∧ (∀ fd ∈ r.listening, fd = p.serverFd) ∧
      p.newSocket ∉ r.listening ∧ p.running = insert p.newSocket r.listening.toList.toFinset
  | .receiver _ =>
    p.serverFd ∉ p.failed ∧ (∀ fd ∈ r.listening, fd = p.serverFd) ∧
      p.running = r.listening.toList.toFinset

structure Noted (p : Process) (r : Results) : Prop where
  failed : p.failed = r.left.toFinset
  nodup : r.left.Nodup
  apart : Disjoint p.running p.failed
  nonneg : ∀ fd ∈ p.held, 0 ≤ fd
  listening : Listening p r p.call

variable {p t : Process} {r : Results} {ret : Int}

theorem noted_start : Noted start .empty where
  failed := rfl
  nodup := List.nodup_nil
  apart := Finset.disjoint_empty_right _
  nonneg fd hfd := by cases hfd
  listening := rfl

theorem newFd_notMem (h : ¬ ret < 0) : p.newFd ret ∉ p.held := by
  rw [newFd, if_neg h]
  intro hmem
  exact lowestFree_not_mem _ (Finset.mem_union_right _ hmem)

theorem newFd_nonneg (h : ¬ ret < 0) : 0 ≤ p.newFd ret := by
  rw [newFd, if_neg h]
  exact Int.natCast_nonneg _

theorem Noted.neg_one_notMem (h : Noted p r) : -1 ∉ p.failed := by
  intro hmem
  have hneg := h.nonneg (-1) (Finset.mem_union_left _ (Finset.mem_union_right _ hmem))
  omega

/-- A call that returns `false` leaves the descriptors it still has. -/
theorem Noted.returned_false (h : Noted p r) {l : List Int} {r' : Results} (hl : l.Nodup)
    (hrunning : p.running = l.toFinset) (hleft : r'.left = r.left ++ l)
    (hlistening : r'.listening = none) : Noted (p.returned false) r' where
  failed := by
    change p.failed ∪ p.running = r'.left.toFinset
    rw [hleft, List.toFinset_append, h.failed, hrunning]
  nodup := by
    rw [hleft]
    refine List.Nodup.append h.nodup hl fun fd hfd hfd' => ?_
    have hdisjoint := Finset.disjoint_left.mp h.apart
    rw [h.failed, hrunning] at hdisjoint
    exact hdisjoint (List.mem_toFinset.mpr hfd') (List.mem_toFinset.mpr hfd)
  apart := Finset.disjoint_empty_left _
  nonneg fd hfd := h.nonneg fd (held_returned (p := p) false ▸ hfd)
  listening := hlistening

theorem Noted.returned_true (h : Noted p r) {r' : Results} (hleft : r'.left = r.left)
    (hlistening : r'.listening = none) : Noted (p.returned true) r' where
  failed := by
    rw [hleft]
    exact h.failed
  nodup := by
    rw [hleft]
    exact h.nodup
  apart := Finset.disjoint_empty_left _
  nonneg fd hfd := h.nonneg fd (held_returned (p := p) true ▸ hfd)
  listening := hlistening

-- The steps that only move on.
theorem Noted.goes (h : Noted p r) {c : Call} (hlistening : Listening p r c) :
    Noted { p with call := c } r where
  failed := h.failed
  nodup := h.nodup
  apart := h.apart
  nonneg := h.nonneg
  listening := by
    cases c with
    | receiver pc => cases pc <;> exact hlistening
    | idle | sender => exact hlistening

theorem failed_close {fd : Int} (h : Noted p r) (hmem : fd ∈ p.running) :
    (p.close fd).failed = p.failed := by
  rw [close_of_mem (mem_held_of_running hmem)]
  exact Finset.erase_eq_of_notMem (Finset.disjoint_left.mp h.apart hmem)

-- `close` of a descriptor of the running call.
theorem Noted.close {fd : Int} (h : Noted p r) (hmem : fd ∈ p.running) {c : Call} {r' : Results}
    (hleft : r'.left = r.left) (hlistening : Listening { p.close fd with call := c } r' c) :
    Noted { p.close fd with call := c } r' where
  failed := by
    rw [hleft]
    exact (failed_close h hmem).trans h.failed
  nodup := by
    rw [hleft]
    exact h.nodup
  apart := by
    change Disjoint (p.close fd).running (p.close fd).failed
    rw [failed_close h hmem, close_of_mem (mem_held_of_running hmem)]
    exact Finset.disjoint_of_subset_left (Finset.erase_subset _ _) h.apart
  nonneg x hx := by
    have hx' : x ∈ (p.close fd).held := hx
    rw [held_close_of_mem (mem_held_of_running hmem)] at hx'
    exact h.nonneg x (Finset.mem_of_mem_erase hx')
  listening := hlistening

-- The sender closes what `socket` gave it.
theorem Noted.close_sock {sock : Int} (h : Noted p r) (hrunning : p.running = {sock})
    (hnone : r.listening = none) :
    Noted { p.close sock with call := .idle } r ∧ (p.close sock).running = ∅ := by
  have hmem : sock ∈ p.running := hrunning ▸ Finset.mem_singleton_self sock
  exact ⟨h.close hmem rfl hnone, running_close (mem_held_of_running hmem) hrunning.subset⟩

-- `socket` or `accept` has given the running call a descriptor.
theorem Noted.opened (h : Noted p r) (hret : ¬ ret < 0) {c : Call} {server new : Int}
    {r' : Results} (hleft : r'.left = r.left)
    (hlistening : Listening { p with
      call := c, serverFd := server, newSocket := new
      running := insert (p.newFd ret) p.running } r' c) :
    Noted { p with
      call := c, serverFd := server, newSocket := new
      running := insert (p.newFd ret) p.running } r' where
  failed := by
    rw [hleft]
    exact h.failed
  nodup := by
    rw [hleft]
    exact h.nodup
  apart := by
    refine Finset.disjoint_insert_left.mpr ⟨fun hmem => newFd_notMem (p := p) hret ?_, h.apart⟩
    exact Finset.mem_union_left _ (Finset.mem_union_right _ hmem)
  nonneg fd hfd := by
    have hfd' : fd ∈ insert (p.newFd ret) p.running ∪ p.failed ∪ p.settled := hfd
    rw [Finset.insert_union, Finset.insert_union, Finset.mem_insert] at hfd'
    rcases hfd' with rfl | hold
    · exact newFd_nonneg hret
    · exact h.nonneg fd hold
  listening := hlistening

theorem Noted.sender (hi : Inv p) (h : Noted p r) {pc : SenderPc} (hcall : p.call = .sender pc) :
    Noted (p.senderStep pc ret) (r.note (.sender pc) (p.result ret (.sender pc))) := by
  have hholds := hi.holds
  have hnone := h.listening
  rw [hcall] at hholds hnone
  cases pc with
  | socket =>
    by_cases hret : ret < 0
    · simp only [senderStep, opened_of_neg hret, newFd_of_neg hret]
      exact h.returned_false List.nodup_nil hholds (List.append_nil _).symm hnone
    · simp only [senderStep, opened_of_nonneg hret, initializeTcpSender]
      rw [if_neg (Int.not_lt.mpr (newFd_nonneg hret))]
      exact h.opened hret (c := .sender (.inetPton (p.newFd ret))) rfl hnone
  | inetPton sock =>
    change Noted (p.senderAt (if ret ≤ 0 then .returned false else .connect sock))
      (if ret ≤ 0 then { r with left := r.left ++ [sock] } else r)
    split
    · exact h.returned_false (List.nodup_singleton sock) hholds rfl hnone
    · exact h.goes (c := .sender (.connect sock)) hnone
  | connect sock =>
    simp only [senderStep, initializeTcpSender]
    split
    · exact h.goes (c := .sender (.closeFailed sock)) hnone
    · exact h.goes (c := .sender (.send sock)) hnone
  | send sock => exact h.goes (c := .sender (.read sock)) hnone
  | read sock => exact h.goes (c := .sender (.close sock)) hnone
  | closeFailed sock =>
    obtain ⟨hclosed, hempty⟩ := h.close_sock hholds hnone
    exact hclosed.returned_false List.nodup_nil hempty (List.append_nil _).symm hnone
  | close sock => exact (h.close_sock hholds hnone).1.returned_true rfl hnone
  | returned result => exact hholds.elim

theorem Noted.receiver (hi : Inv p) (h : Noted p r) {pc : ReceiverPc}
    (hcall : p.call = .receiver pc) (hok : closesOwn p (.step ret)) :
    Noted (p.receiverStep pc ret) (r.note (.receiver pc) (p.result ret (.receiver pc))) := by
  have hholds := hi.holds
  have hlistening := h.listening
  rw [hcall] at hholds hlistening
  cases pc with
  | socket =>
    have hempty : p.running = ∅ := hholds
    change Noted (p.receiverStep .socket ret) (r.note (.receiver .socket) (p.newFd ret))
    by_cases hret : ret < 0
    · have hserver : Noted { p with call := .receiver .setsockopt, serverFd := -1 }
          { r with listening := none } :=
        ⟨h.failed, h.nodup, h.apart, h.nonneg, h.neg_one_notMem, nofun, hempty⟩
      simp only [receiverStep, opened_of_neg hret, newFd_of_neg hret]
      exact hserver
    · have hnew := newFd_notMem (p := p) hret
      have hnewFailed : p.newFd ret ∉ p.failed := fun hmem =>
        hnew (Finset.mem_union_left _ (Finset.mem_union_right _ hmem))
      have hopened : Noted { p with
          call := .receiver .setsockopt, serverFd := p.newFd ret
          running := insert (p.newFd ret) p.running }
          { r with listening := some (p.newFd ret) } := by
        refine Noted.opened h hret rfl ?_
        refine ⟨hnewFailed, fun fd hfd => (Option.some.inj hfd).symm, ?_⟩
        change insert (p.newFd ret) p.running = _
        rw [hempty]
        rfl
      simp only [receiverStep, opened_of_nonneg hret, Results.note]
      rw [if_neg (Int.not_lt.mpr (newFd_nonneg hret)), initializeTcpReceiver]
      split
      · exact hopened.returned_false (List.nodup_singleton _) hopened.listening.2.2 rfl rfl
      · exact hopened
  | setsockopt | bind | listen =>
    change Noted (p.receiverAt (initializeTcpReceiver _ ret))
      (r.exit (initializeTcpReceiver _ ret))
    rw [initializeTcpReceiver]
    split
    · exact h.returned_false (Option.toList_nodup _) hlistening.2.2 rfl rfl
    · exact h.goes (c := .receiver _) hlistening
  | accept =>
    obtain ⟨hserver, hglobal, hrunning⟩ := hlistening
    change Noted (p.receiverStep .accept ret)
      (r.exit (initializeTcpReceiver .accept (p.newFd ret)))
    by_cases hret : ret < 0
    · simp only [receiverStep, opened_of_neg hret, newFd_of_neg hret]
      have hnew : Noted { p with newSocket := -1 } r :=
        ⟨h.failed, h.nodup, h.apart, h.nonneg, by
          change Listening _ r p.call
          rw [hcall]
          exact ⟨hserver, hglobal, hrunning⟩⟩
      exact hnew.returned_false (Option.toList_nodup _) hrunning rfl rfl
    · simp only [receiverStep, opened_of_nonneg hret, initializeTcpReceiver,
        if_neg (Int.not_lt.mpr (newFd_nonneg hret))]
      refine Noted.opened h hret rfl ?_
      refine ⟨hserver, hglobal, fun hmem => newFd_notMem (p := p) hret ?_, ?_⟩
      · apply mem_held_of_running
        rw [hrunning, List.mem_toFinset]
        exact Option.mem_toList.mpr hmem
      · change insert (p.newFd ret) p.running = _
        rw [hrunning]
        rfl
  | read | send => exact h.goes (c := .receiver _) hlistening
  | closeNewSocket =>
    obtain ⟨hserver, hglobal, hapart, hrunning⟩ := hlistening
    have hmem : p.newSocket ∈ p.running := by
      rw [hrunning]
      exact Finset.mem_insert_self _ _
    refine h.close hmem (c := .receiver .closeServer) rfl ?_
    rw [close_of_mem (mem_held_of_running hmem)]
    refine ⟨fun hin => hserver (Finset.mem_of_mem_erase hin), hglobal, ?_⟩
    change p.running.erase p.newSocket = _
    rw [hrunning, Finset.erase_insert]
    · rfl
    · rw [List.mem_toFinset]
      exact fun hin => hapart (Option.mem_toList.mp hin)
  | closeServer =>
    obtain ⟨hserver, -, -⟩ := hlistening
    have hmem : p.serverFd ∈ p.running := by
      rcases Finset.mem_union.mp (hok hcall) with hheld | hsettled
      · exact (Finset.mem_union.mp hheld).resolve_right hserver
      · rw [hi.accounted.2] at hsettled
        cases hsettled
    have hclosed : Noted { p.close p.serverFd with call := .idle } { r with listening := none } :=
      h.close hmem rfl rfl
    exact hclosed.returned_true rfl rfl
  | returned result => exact hholds.elim

/-- While `closeTcpSocket` can be called, the record names what is open. -/
theorem Noted.held_eq (hi : Inv p) (h : Noted p r)
    (hcall : p.call = .idle ∨ p.call = .receiver .accept) :
    (r.left ++ r.listening.toList).Nodup ∧
      p.held = (r.left ++ r.listening.toList).toFinset := by
  have hrunning : p.running = r.listening.toList.toFinset := by
    have hholds := hi.holds
    have hlistening := h.listening
    rcases hcall with hidle | haccept
    · rw [hidle] at hholds hlistening
      rw [show r.listening = none from hlistening, show p.running = ∅ from hholds]
      rfl
    · rw [haccept] at hlistening
      exact hlistening.2.2
  constructor
  · refine List.Nodup.append h.nodup (Option.toList_nodup _) fun fd hfd hfd' => ?_
    have hdisjoint := Finset.disjoint_left.mp h.apart
    rw [h.failed, hrunning] at hdisjoint
    exact hdisjoint (List.mem_toFinset.mpr hfd') (List.mem_toFinset.mpr hfd)
  · rw [List.toFinset_append, held, hi.accounted.2, hrunning, h.failed, Finset.union_empty,
      Finset.union_comm]

theorem Noted.closeTcpSocket (hcall : p.call = .idle ∨ p.call = .receiver .accept)
    (hempty : p.closeTcpSocket.held = ∅) : Noted p.closeTcpSocket .empty := by
  obtain ⟨hrunning, hfailed, -⟩ := held_eq_empty.mp hempty
  refine ⟨hfailed, List.nodup_nil, ?_, fun fd hfd => ?_, ?_⟩
  · rw [hrunning]
    exact Finset.disjoint_empty_left _
  · rw [hempty] at hfd
    cases hfd
  · have hsame : p.closeTcpSocket.call = p.call := call_close.trans call_close
    rw [hsame]
    rcases hcall with hidle | haccept
    · rw [hidle]
      rfl
    · rw [haccept]
      refine ⟨?_, nofun, hrunning⟩
      rw [hfailed]
      exact Finset.notMem_empty _

theorem Noted.next (hi : Inv p) (h : Noted p r) {a : Act} (hok : closesOwn p a)
    (hn : p.next a = some t) : Noted t (r.after p a) := by
  cases a with
  | callSender | callReceiver =>
    simp only [Process.next] at hn
    split at hn <;> cases hn
    have hlistening := h.listening
    rw [‹p.call = .idle›] at hlistening
    exact h.goes hlistening
  | step ret =>
    simp only [Process.next] at hn
    split at hn <;> cases hn
    · rw [Results.after, ‹p.call = _›]
      exact h.sender hi ‹_›
    · rw [Results.after, ‹p.call = _›]
      exact h.receiver hi ‹_› hok
  | closeTcpSocket =>
    simp only [Process.next] at hn
    split at hn <;> cases hn
    exact Noted.closeTcpSocket ‹_› ((held_settle _).trans (held_close_close hok).2.2)
  | openOther =>
    cases hn
    exact ⟨h.failed, h.nodup, h.apart, h.nonneg, h.listening⟩

-- In the receiver the record and `server_fd` agree.
theorem Noted.serverFd_mem_iff (hi : Inv p) (h : Noted p r)
    (hcall : p.call = .receiver .closeServer) : p.serverFd ∈ p.held ↔ r.listening ≠ none := by
  have hlistening := h.listening
  rw [hcall] at hlistening
  obtain ⟨hserver, hglobal, hrunning⟩ := hlistening
  rw [held, hi.accounted.2, Finset.union_empty, Finset.mem_union, or_iff_left hserver, hrunning,
    List.mem_toFinset, Option.mem_toList]
  cases heq : r.listening with
  | none => exact iff_of_false nofun fun hne => hne rfl
  | some fd =>
    have hfd : fd = p.serverFd := hglobal fd heq
    exact iff_of_true (congrArg some hfd) nofun

/-- Under the invariant the results tell which steps keep the books. -/
theorem closesOwn_iff_resultsOk (hi : Inv p) (h : Noted p r) {a : Act}
    (hn : p.next a = some t) : closesOwn p a ↔ ResultsOk (p, r) a := by
  cases a with
  | callSender | callReceiver | openOther => exact Iff.rfl
  | step ret => exact forall_congr' fun hcall => h.serverFd_mem_iff hi hcall
  | closeTcpSocket =>
    have hcall : p.call = .idle ∨ p.call = .receiver .accept := by
      by_contra hno
      rw [Process.next, if_neg hno] at hn
      cases hn
    obtain ⟨hnodup, hheld⟩ := h.held_eq hi hcall
    change p.newSocket ≠ p.serverFd ∧ p.held = _ ↔ List.Perm _ [p.newSocket, p.serverFd]
    have hpair : [p.newSocket, p.serverFd].toFinset = {p.newSocket, p.serverFd} := by
      rw [List.toFinset_cons, List.toFinset_cons, List.toFinset_nil, insert_empty_eq]
    have hne : [p.newSocket, p.serverFd].Nodup ↔ p.newSocket ≠ p.serverFd := by
      rw [List.nodup_cons, List.mem_singleton]
      exact and_iff_left (List.nodup_singleton _)
    rw [hheld, ← hpair, ← hne]
    constructor
    · rintro ⟨hnodup', heq⟩
      exact List.perm_of_nodup_nodup_toFinset_eq hnodup hnodup' heq
    · intro hperm
      exact ⟨hperm.nodup_iff.mp hnodup, List.toFinset_eq_of_perm _ _ hperm⟩

/-! ## Whole runs -/

-- A receiver without a listening socket has -1 for it, as long as `closeTcpSocket` is not called.
def Deaf (p : Process) (r : Results) : Call → Prop
  | .idle | .sender _ | .receiver .socket => True
  | .receiver _ => r.listening = none → p.serverFd = -1

theorem Deaf.senderAt (p : Process) (r : Results) (pc : SenderPc) :
    Deaf (p.senderAt pc) r (p.senderAt pc).call := by
  cases pc with
  | returned result => cases result <;> trivial
  | _ => trivial

theorem Deaf.senderStep (p : Process) (r : Results) (pc : SenderPc) :
    Deaf (p.senderStep pc ret) r (p.senderStep pc ret).call := by
  cases pc with
  | socket | inetPton | connect | returned =>
    exact Deaf.senderAt _ r (initializeTcpSender _ _)
  | closeFailed | send | read | close => trivial

theorem Deaf.receiverAt (h : r.listening = none → p.serverFd = -1) (pc : ReceiverPc) :
    Deaf (p.receiverAt pc) (r.exit pc) (p.receiverAt pc).call := by
  cases pc with
  | returned result => cases result <;> trivial
  | socket => trivial
  | _ => exact h

theorem serverFd_close (p : Process) (fd : Int) : (p.close fd).serverFd = p.serverFd := by
  unfold close
  split <;> rfl

theorem serverFd_opened (p : Process) (ret : Int) : (p.opened ret).serverFd = p.serverFd := by
  unfold opened
  split <;> rfl

theorem Deaf.receiver {pc : ReceiverPc} (h : Deaf p r (.receiver pc)) :
    Deaf (p.receiverStep pc ret) (r.note (.receiver pc) (p.result ret (.receiver pc)))
      (p.receiverStep pc ret).call := by
  cases pc with
  | socket =>
    apply Deaf.receiverAt
    intro hnone
    change p.newFd ret = -1
    by_cases hret : ret < 0
    · exact newFd_of_neg hret
    · have hsome : (if p.newFd ret < 0 then none else some (p.newFd ret)) = none := hnone
      rw [if_neg (Int.not_lt.mpr (newFd_nonneg hret))] at hsome
      cases hsome
  | accept =>
    apply Deaf.receiverAt
    intro hnone
    exact (serverFd_opened p ret).trans (h hnone)
  | closeNewSocket =>
    have hclosed : r.listening = none → (p.close p.newSocket).serverFd = -1 :=
      fun hnone => (serverFd_close p _).trans (h hnone)
    exact Deaf.receiverAt hclosed (initializeTcpReceiver .closeNewSocket ret)
  | closeServer =>
    have hclosed : r.listening = none → (p.close p.serverFd).serverFd = -1 :=
      fun hnone => (serverFd_close p _).trans (h hnone)
    exact Deaf.receiverAt hclosed (initializeTcpReceiver .closeServer ret)
  | read | send => exact h
  | setsockopt | bind | listen | returned =>
    exact Deaf.receiverAt h (initializeTcpReceiver _ ret)

theorem Deaf.next (h : Deaf p r p.call) {a : Act} (hok : Untouched p a)
    (hn : p.next a = some t) : Deaf t (r.after p a) t.call := by
  cases a with
  | callSender | callReceiver =>
    simp only [Process.next] at hn
    split at hn <;> cases hn
    trivial
  | step ret =>
    simp only [Process.next] at hn
    split at hn <;> cases hn
    · next pc _ => exact Deaf.senderStep p _ pc
    · next pc hcall =>
      rw [hcall] at h
      rw [Results.after, hcall]
      exact h.receiver
  | closeTcpSocket => exact hok.elim
  | openOther =>
    cases hn
    exact h

/-- The descriptors stay accounted for in exactly the runs in which the results let
`closeTcpSocket` and the receiver close; so they do when `closeTcpSocket` is not called and no
receiver closes -1. -/
theorem accounted_iff_resultsOk (as : List Act) :
    (machine.Throughout Accounted start as ↔
      recorded.StepsMeet ResultsOk (start, .empty) as) ∧
    (machine.StepsMeet Untouched start as → machine.Throughout Accounted start as) := by
  have hkeep : ∀ (s : Process × Results) a u, Inv s.1 ∧ Noted s.1 s.2 → ResultsOk s a →
      recorded.next s a = some u → Inv u.1 ∧ Noted u.1 u.2 := by
    rintro s a u ⟨hi, hnoted⟩ hok hu
    obtain ⟨t, hn, rfl⟩ := Machine.recording_next.mp hu
    have hown := (closesOwn_iff_resultsOk hi hnoted hn).mpr hok
    exact ⟨hi.next hown hn, hnoted.next hi hown hn⟩
  have hiff : machine.Throughout Accounted start as ↔
      recorded.StepsMeet ResultsOk (start, .empty) as := by
    rw [← Machine.recording_throughout (m := machine)]
    apply Machine.throughout_iff_stepsMeet (fun s h => h.1.accounted) hkeep
    · rintro s a u ⟨hi, hnoted⟩ hbad hu haccounted
      obtain ⟨t, hn, rfl⟩ := Machine.recording_next.mp hu
      have hown := closesOwn_of_accounted hi hn haccounted
      exact hbad ((closesOwn_iff_resultsOk hi hnoted hn).mp hown)
    · exact ⟨inv_start, noted_start⟩
  refine ⟨hiff, fun huntouched => hiff.mpr ?_⟩
  have himp : ∀ (s : Process × Results) a, Deaf s.1 s.2 s.1.call → Untouched s.1 a →
      ResultsOk s a := by
    intro s a hdeaf hok
    cases a with
    | callSender | callReceiver | openOther => trivial
    | closeTcpSocket => exact hok.elim
    | step ret =>
      intro hcall hnone
      rw [hcall] at hdeaf
      exact hok hcall (hdeaf hnone)
  rw [← Machine.recording_stepsMeet (m := machine)] at huntouched
  refine Machine.StepsMeet.imp
    (I := fun s => (Inv s.1 ∧ Noted s.1 s.2) ∧ Deaf s.1 s.2 s.1.call) ?_
    (fun s a _ h hok _ => himp s a h.2 hok) ?_ huntouched
  · rintro s a u ⟨hinv, hdeaf⟩ hok hu
    have hkept := hkeep s a u hinv (himp s a hdeaf hok) hu
    obtain ⟨t, hn, rfl⟩ := Machine.recording_next.mp hu
    exact ⟨hkept, hdeaf.next hok hn⟩
  · exact ⟨⟨inv_start, noted_start⟩, trivial⟩

-- After a success, two failed `bind` calls leave the numbers that the globals still hold.
def cleanRun : List Act :=
  [.callReceiver, .step 0, .step 0, .step 0, .step 0, .step 0, .step 0, .step 0, .step 0, .step 0,
    .openOther, .callReceiver, .step 0, .step 0, .step (-1),
    .callReceiver, .step 0, .step 0, .step (-1), .closeTcpSocket]

example : recorded.StepsMeet ResultsOk (start, .empty) cleanRun ∧
    (machine.exec start cleanRun).map held = some ∅ := by decide

/-- `connect` fails, the sender returns `false`, and `closeTcpSocket` closes descriptor 0 twice. -/
theorem failed_connect_closes_zero :
    (∃ p, machine.exec start [.callSender, .step 0, .step 1, .step (-1), .step 0,
        .closeTcpSocket] = some p ∧ p.strayCloses = [0, 0] ∧ p.others = {1, 2}) ∧
    ¬ ∀ p, machine.Reachable p → p.Accounted := by
  have hrun : ∃ p, machine.exec start [.callSender, .step 0, .step 1, .step (-1), .step 0,
      .closeTcpSocket] = some p ∧ p.strayCloses = [0, 0] ∧ p.others = {1, 2} :=
    ⟨_, rfl, by decide, by decide⟩
  refine ⟨hrun, ?_⟩
  obtain ⟨p, hexec, hstray, -⟩ := hrun
  apply Machine.not_forall_reachable rfl hexec
  intro h
  rw [h.1] at hstray
  cases hstray

end ConnectUdp.Tcp.Process
