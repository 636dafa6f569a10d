import ConnectUdp.Tcp.Rendezvous

/-!
# When the two sides agree

Neither function looks at what `send` and `read` return.  As long as both reads find bytes, their
`true` means that the other side was there.
-/

namespace ConnectUdp.Tcp

open Transition

def SenderPc.beforeSend : SenderPc → Bool
  | .socket | .inetPton _ | .connect _ | .send _ => true
  | _ => false

-- The read is behind the sender and it goes on to return `true`.
def SenderPc.hasRead : SenderPc → Bool
  | .close _ | .returned true => true
  | _ => false

def ReceiverPc.beforeSend : ReceiverPc → Bool
  | .closeNewSocket | .closeServer | .returned _ => false
  | _ => true

def ReceiverPc.hasAccepted : ReceiverPc → Bool
  | .read | .send | .closeNewSocket | .closeServer | .returned true => true
  | _ => false

def ReceiverPc.hasRead : ReceiverPc → Bool
  | .send | .closeNewSocket | .closeServer | .returned true => true
  | _ => false

def SenderPc.isRead : SenderPc → Bool
  | .read _ => true
  | _ => false

namespace Rendezvous

/-- Each of the two reads finds the connection up and bytes of the other side's message, the
sender's at least `count`. -/
def readsArrived (count : Nat) (s : Rendezvous) : Act → Prop
  | .sender _ => s.sender.isRead = true → s.reset = false ∧ count ≤ s.toSender.readable
  | .receiver _ => s.receiver = .read → s.reset = false ∧ 0 < s.toReceiver.readable
  | _ => True

instance readsArrived.decidable (count : Nat) (s : Rendezvous) :
    (a : Act) → Decidable (readsArrived count s a)
  | .sender _ | .receiver _ => inferInstanceAs (Decidable (_ → _))
  | .deliverToReceiver _ | .deliverToSender _ | .stopSender | .stopReceiver | .reset =>
    .isTrue trivial

structure Inv (count : Nat) (s : Rendezvous) : Prop where
  replies : s.toSender.written = [] ∨ s.toSender.written = reply ∧ s.accepted = true
  greetings : s.toReceiver.written = [] ∨ s.toReceiver.written = greeting
  replyOnce : s.receiver.beforeSend = true → s.toSender.written = []
  greetOnce : s.sender.beforeSend = true → s.toReceiver.written = []
  accepted : s.receiver.hasAccepted = true → s.accepted = true
  senderRead : s.sender.hasRead = true → count ≤ s.toSender.taken
  receiverRead : s.receiver.hasRead = true → 0 < s.toReceiver.taken

variable {count : Nat} {s t : Rendezvous}

theorem inv_start : Inv count start where
  replies := .inl rfl
  greetings := .inl rfl
  replyOnce _ := rfl
  greetOnce _ := rfl
  accepted h := nomatch h
  senderRead h := nomatch h
  receiverRead h := nomatch h

theorem Inv.written_le (h : Inv count s) :
    s.toSender.written.length ≤ bufferSize ∧ s.toReceiver.written.length ≤ bufferSize := by
  constructor
  · rcases h.replies with hw | ⟨hw, -⟩ <;> rw [hw] <;> decide
  · rcases h.greetings with hw | hw <;> rw [hw] <;> decide

-- Where the sender goes from a call that is neither its write nor its read.
theorem Inv.senderMoves (h : Inv count s) {pc : SenderPc} {senderEnd : Bool}
    (hbefore : pc.beforeSend = true → s.sender.beforeSend = true)
    (hread : pc.hasRead = true → s.sender.hasRead = true) :
    Inv count { s with sender := pc, senderEnd := senderEnd } :=
  ⟨h.replies, h.greetings, h.replyOnce, fun hpc => h.greetOnce (hbefore hpc), h.accepted,
    fun hpc => h.senderRead (hread hpc), h.receiverRead⟩

theorem Inv.sender (h : Inv count s) {ret : Int} (hok : readsArrived count s (.sender ret))
    (hn : senderStep s ret = some t) : Inv count t := by
  have hlimit := h.written_le.1
  cases hpc : s.sender with
  | socket | inetPton sock =>
    simp only [senderStep, hpc, initializeTcpSender, Option.some.injEq] at hn
    subst hn
    refine h.senderMoves (fun _ => by rw [hpc]; rfl) ?_
    split <;> exact nofun
  | closeFailed sock =>
    simp only [senderStep, hpc, initializeTcpSender, Option.some.injEq] at hn
    subst hn
    exact h.senderMoves nofun nofun
  | connect sock =>
    have hempty := h.greetOnce (by rw [hpc]; rfl)
    simp only [senderStep, hpc, initializeTcpSender] at hn
    split at hn
    · cases hn
      refine ⟨h.replies, h.greetings, h.replyOnce, fun _ => hempty, h.accepted, ?_,
        h.receiverRead⟩
      split <;> exact nofun
    · split at hn <;> cases hn
      refine ⟨h.replies, h.greetings, h.replyOnce, fun _ => hempty, h.accepted, ?_,
        h.receiverRead⟩
      split <;> exact nofun
  | send sock =>
    have hempty := h.greetOnce (by rw [hpc]; rfl)
    simp only [senderStep, hpc, initializeTcpSender] at hn
    split at hn <;> cases hn
    by_cases hret : ret < 0
    · -- a failed `send` writes nothing, and the sender goes on all the same
      rw [if_pos hret]
      exact h.senderMoves nofun nofun
    · rw [if_neg hret]
      refine ⟨h.replies, .inr ?_, h.replyOnce, nofun, h.accepted, nofun, h.receiverRead⟩
      change s.toReceiver.written ++ greeting = greeting
      rw [hempty, List.nil_append]
  | read sock =>
    simp only [senderStep, hpc, initializeTcpSender] at hn
    split at hn <;> cases hn
    -- with the connection up and bytes there, the read takes them
    obtain ⟨hreset, hfound⟩ := hok (by rw [hpc]; rfl)
    rw [if_neg (by rw [hreset]; exact nofun)]
    exact ⟨h.replies, h.greetings, h.replyOnce, nofun, h.accepted,
      fun _ => s.toSender.le_taken_read hlimit hfound, h.receiverRead⟩
  | close sock =>
    simp only [senderStep, hpc, initializeTcpSender, Option.some.injEq] at hn
    subst hn
    exact h.senderMoves nofun fun _ => by rw [hpc]; rfl
  | returned result =>
    simp only [senderStep, hpc] at hn
    cases hn

-- Where the receiver goes from a call before its `accept`.
theorem Inv.receiverMoves (h : Inv count s) {pc : ReceiverPc} {serverFd : Int} {listening : Bool}
    (hbefore : s.receiver.beforeSend = true) (haccepted : pc.hasAccepted = false)
    (hread : pc.hasRead = false) :
    Inv count { s with receiver := pc, serverFd := serverFd, listening := listening } :=
  ⟨h.replies, h.greetings, fun _ => h.replyOnce hbefore, h.greetOnce,
    fun hpc => absurd hpc (by change ¬ pc.hasAccepted = true; rw [haccepted]; exact nofun),
    h.senderRead,
    fun hpc => absurd hpc (by change ¬ pc.hasRead = true; rw [hread]; exact nofun)⟩

-- Where the receiver goes from a call behind its read that writes nothing.
theorem Inv.receiverLeaves (h : Inv count s) {pc : ReceiverPc} {receiverEnd listening : Bool}
    (hbefore : pc.beforeSend = false) (haccepted : s.receiver.hasAccepted = true)
    (hread : s.receiver.hasRead = true) :
    Inv count { s with receiver := pc, receiverEnd := receiverEnd, listening := listening } :=
  ⟨h.replies, h.greetings, fun hpc => absurd (hbefore.symm.trans hpc) Bool.false_ne_true,
    h.greetOnce, fun _ => h.accepted haccepted, h.senderRead, fun _ => h.receiverRead hread⟩

theorem Inv.receiver (h : Inv count s) {ret : Int} (hok : readsArrived count s (.receiver ret))
    (hn : receiverStep s ret = some t) : Inv count t := by
  have hlimit := h.written_le.2
  cases hpc : s.receiver with
  | socket | bind | listen =>
    simp only [receiverStep, hpc, initializeTcpReceiver, Option.some.injEq] at hn
    subst hn
    refine h.receiverMoves (by rw [hpc]; rfl) ?_ ?_ <;> split <;> rfl
  | setsockopt =>
    simp only [receiverStep, hpc, initializeTcpReceiver] at hn
    split at hn <;> cases hn
    refine h.receiverMoves (by rw [hpc]; rfl) ?_ ?_ <;> split <;> rfl
  | accept =>
    have hempty := h.replyOnce (by rw [hpc]; rfl)
    simp only [receiverStep, hpc, initializeTcpReceiver] at hn
    split at hn
    · cases hn
      exact h.receiverMoves (by rw [hpc]; rfl) rfl rfl
    · split at hn <;> cases hn
      exact ⟨.inl hempty, h.greetings, fun _ => hempty, h.greetOnce, fun _ => rfl, h.senderRead,
        nofun⟩
  | read =>
    have haccepted := h.accepted (by rw [hpc]; rfl)
    have hempty := h.replyOnce (by rw [hpc]; rfl)
    simp only [receiverStep, hpc, initializeTcpReceiver] at hn
    split at hn <;> cases hn
    obtain ⟨hreset, hfound⟩ := hok hpc
    rw [if_neg (by rw [hreset]; exact nofun)]
    exact ⟨h.replies, h.greetings, fun _ => hempty, h.greetOnce, fun _ => haccepted,
      h.senderRead, fun _ => s.toReceiver.le_taken_read hlimit hfound⟩
  | send =>
    have haccepted := h.accepted (by rw [hpc]; rfl)
    have hread := h.receiverRead (by rw [hpc]; rfl)
    have hempty := h.replyOnce (by rw [hpc]; rfl)
    simp only [receiverStep, hpc, initializeTcpReceiver] at hn
    split at hn <;> cases hn
    by_cases hret : ret < 0
    · rw [if_pos hret]
      exact h.receiverLeaves rfl (by rw [hpc]; rfl) (by rw [hpc]; rfl)
    · rw [if_neg hret]
      refine ⟨.inr ⟨?_, haccepted⟩, h.greetings, nofun, h.greetOnce, fun _ => haccepted,
        h.senderRead, fun _ => hread⟩
      change s.toSender.written ++ reply = reply
      rw [hempty, List.nil_append]
  | closeNewSocket | closeServer =>
    simp only [receiverStep, hpc, initializeTcpReceiver, Option.some.injEq] at hn
    subst hn
    exact h.receiverLeaves rfl (by rw [hpc]; rfl) (by rw [hpc]; rfl)
  | returned result =>
    simp only [receiverStep, hpc] at hn
    cases hn

/-- The network and a stopping process change neither what was written nor what was read. -/
theorem Inv.next (h : Inv count s) {a : Act} (hok : readsArrived count s a)
    (hn : next s a = some t) : Inv count t := by
  cases a with
  | sender ret =>
    simp only [Rendezvous.next] at hn
    split at hn
    · cases hn
    · exact h.sender hok hn
  | receiver ret =>
    simp only [Rendezvous.next] at hn
    split at hn
    · cases hn
    · exact h.receiver hok hn
  | deliverToReceiver k | deliverToSender k | reset =>
    simp only [Rendezvous.next] at hn
    split at hn <;> cases hn
    exact ⟨h.replies, h.greetings, h.replyOnce, h.greetOnce, h.accepted, h.senderRead,
      h.receiverRead⟩
  | stopSender | stopReceiver =>
    cases hn
    exact ⟨h.replies, h.greetings, h.replyOnce, h.greetOnce, h.accepted, h.senderRead,
      h.receiverRead⟩

theorem inv_of_reachableBy (h : machine.ReachableBy (readsArrived count) s) : Inv count s :=
  h.invariant (forall_eq.mpr inv_start)
    fun _ _ _ hi hok hn => hi.next hok hn

/-- If both reads find bytes, `true` from the sender means that the receiver accepted the
connection and its reply was read, as far as it had arrived, and `true` from the receiver that
bytes of the greeting were read on the accepted connection. -/
theorem rendezvous_agrees (hcount : 0 < count)
    (h : machine.ReachableBy (readsArrived count) s) :
    (s.sender = .returned true → s.accepted = true ∧ s.toSender.received <+: reply ∧
      count ≤ s.toSender.received.length) ∧
    (s.receiver = .returned true → s.accepted = true ∧ s.toReceiver.received <+: greeting ∧
      0 < s.toReceiver.received.length) := by
  have hinv := inv_of_reachableBy h
  constructor
  · intro hpc
    have htaken := hinv.senderRead (by rw [hpc]; rfl)
    have hreceived := s.toSender.received_isPrefix
    rw [ByteStream.received_length]
    rcases hinv.replies with hempty | ⟨hwritten, haccepted⟩
    · exact absurd hempty (s.toSender.written_ne_nil (by omega))
    · exact ⟨haccepted, hwritten ▸ hreceived, htaken⟩
  · intro hpc
    have htaken := hinv.receiverRead (by rw [hpc]; rfl)
    have hreceived := s.toReceiver.received_isPrefix
    rw [ByteStream.received_length]
    rcases hinv.greetings with hempty | hwritten
    · exact absurd hempty (s.toReceiver.written_ne_nil htaken)
    · exact ⟨hinv.accepted (by rw [hpc]; rfl), hwritten ▸ hreceived, htaken⟩

-- Both sides run to the end, and the reply arrives in two pieces.
def happyRun : List Act :=
  [.receiver 3, .receiver 0, .receiver 0, .receiver 0, .sender 3, .sender 1, .sender 0, .sender 17,
    .receiver 4, .deliverToReceiver 17, .receiver 17, .receiver 19, .deliverToSender 5,
    .deliverToSender 14, .sender 19, .receiver 0, .receiver 0, .sender 0]

theorem rendezvous_agrees_run : ∃ s, machine.exec start happyRun = some s ∧
    s.sender = .returned true ∧ s.accepted = true ∧ s.toSender.received = reply ∧
    s.receiver = .returned true ∧ 0 < s.toReceiver.received.length := by
  have hsteps : machine.StepsMeet (readsArrived 19) start happyRun := by decide
  have h := rendezvous_agrees (by decide)
    ((Machine.ReachableBy.start (m := machine) rfl).of_exec hsteps rfl)
  obtain ⟨haccepted, hreply, hlength⟩ := h.1 rfl
  exact ⟨_, rfl, rfl, haccepted, hreply.eq_of_length_le hlength, rfl, (h.2 rfl).2.2⟩

/-- The receiver stops before `accept`; `send` and `read` fail, and the sender returns `true`. -/
theorem sender_alone_run :
    (∃ s, machine.exec start [.receiver 3, .receiver 0, .receiver 0, .receiver 0, .sender 3,
        .sender 1, .sender 0, .stopReceiver, .sender (-1), .sender 0, .sender 0] = some s ∧
      s.sender = .returned true ∧ s.accepted = false ∧ s.toSender.received = []) ∧
    ¬ ∀ s, machine.Reachable s → s.sender = .returned true →
      s.accepted = true ∧ s.toSender.received ≠ [] := by
  have hrun : ∃ s, machine.exec start [.receiver 3, .receiver 0, .receiver 0, .receiver 0,
      .sender 3, .sender 1, .sender 0, .stopReceiver, .sender (-1), .sender 0, .sender 0] = some s ∧
      s.sender = .returned true ∧ s.accepted = false ∧ s.toSender.received = [] :=
    ⟨_, rfl, rfl, rfl, rfl⟩
  refine ⟨hrun, ?_⟩
  obtain ⟨s, hexec, hpc, -, hnothing⟩ := hrun
  exact Machine.not_forall_reachable rfl hexec fun h => (h hpc).2 hnothing

end Rendezvous

end ConnectUdp.Tcp
