import ConnectUdp.Uvgrtp.ReceptionFlow
import Mathlib.Data.List.TakeDrop

/-!
# Datagrams are handled and frames pulled in order

As long as the receiver finds room in the ring the handlers get every datagram once and in order,
and what they return can be pulled once and in order, whatever the scheduler does.
-/

namespace ConnectUdp.Uvgrtp

open RingBuffer Transition

def ReceiverPc.unpublished : ReceiverPc → Nat
  | .publish _ => 1
  | _ => 0

-- The processing thread has taken a place it has not read yet.
def ProcessorPc.holding {F : Type} : ProcessorPc F → Nat
  | .handle => 1
  | _ => 0

def ProcessorPc.leaving {F : Type} : ProcessorPc F → List F
  | .returning frames => frames
  | _ => []

namespace Flow

variable {σ ι F : Type} {handle : σ → ι → List UInt8 → σ × List F} {handlers : σ}
  {s t : Flow σ ι F} {a : FlowAct ι}

/-! ## The ring -/

def slotOf (datagram : List UInt8) : Slot :=
  ⟨datagram, datagram.length⟩

structure RingInv (s : Flow σ ι F) : Prop where
  read : s.ringReadIndex = index s.ringSize (s.handled.length + s.processor.holding)
  write : ∃ published, s.lastRingWriteIndex = index s.ringSize published ∧
    published + s.receiver.unpublished = s.received.length ∧
    s.handled.length + s.processor.holding ≤ published
  recvfrom : ∀ i, s.receiver = .recvfrom i → i = index s.ringSize (s.received.length + 1)
  publish : ∀ i, s.receiver = .publish i → i = index s.ringSize s.received.length
  places : Holds s.ringSize s.ring (s.received.map slotOf) s.handled.length
  nonempty : ∀ d ∈ s.received, d ≠ []
  order : s.handled.map Prod.snd = s.received.take s.handled.length
  room : s.received.length < s.handled.length + s.ringSize

-- A datagram that is read finds two more places than the datagrams that are not handled yet.
def RoomOk (s : Flow σ ι F) : FlowAct ι → Prop
  | .recvfrom (.datagram bytes) => (bytes.take s.payloadSize).length ≠ 0 →
    s.received.length + 1 < s.handled.length + s.ringSize
  | _ => True

instance RoomOk.decidable (s : Flow σ ι F) : ∀ a, Decidable (s.RoomOk a)
  | .recvfrom (.datagram _) => inferInstanceAs (Decidable (_ → _))
  | .recvfrom .interrupted | .recvfrom .failed | .receiver | .poll _ | .pollFailed | .processor
  | .handle _ | .spuriousWake | .stop | .pull => isTrue trivial

theorem ringInv_start {ringSize : Nat} (hsize : 0 < ringSize) (payloadSize : Nat) (handlers : σ) :
    RingInv (start ringSize payloadSize handlers : Flow σ ι F) where
  read := rfl
  write := ⟨0, rfl, rfl, Nat.le_refl 0⟩
  recvfrom i h := by cases h
  publish i h := by cases h
  places j x _ h := by cases h
  nonempty d h := by cases h
  order := rfl
  room := by
    change 0 < 0 + ringSize
    omega

theorem RingInv.processorAt (h : RingInv s) (pc : ProcessorPc F)
    (hsame : pc.holding = s.processor.holding) : RingInv { s with processor := pc } where
  read := by
    rw [hsame]
    exact h.read
  write := by
    rw [hsame]
    exact h.write
  recvfrom := h.recvfrom
  publish := h.publish
  places := h.places
  nonempty := h.nonempty
  order := h.order
  room := h.room

theorem RingInv.receiverAt (h : RingInv s) (pc : ReceiverPc)
    (hsame : pc.unpublished = s.receiver.unpublished) (hrecvfrom : ∀ i, pc ≠ .recvfrom i)
    (hpublish : ∀ i, pc ≠ .publish i) : RingInv { s with receiver := pc } where
  read := h.read
  write := by
    rw [hsame]
    exact h.write
  recvfrom i hi := absurd hi (hrecvfrom i)
  publish i hi := absurd hi (hpublish i)
  places := h.places
  nonempty := h.nonempty
  order := h.order
  room := h.room

theorem RingInv.notify (h : RingInv s) : RingInv s.notify := by
  rw [Flow.notify]
  split
  next hpc => exact h.processorAt .woken (by rw [hpc]; rfl)
  next => exact h

-- Whatever happens at the place of the next datagram, the ones waiting are not touched.
theorem RingInv.spoil (h : RingInv s) {i : Int} (hpc : s.receiver = .recvfrom i) (slot : Slot) :
    RingInv { s with ring := Function.update s.ring i slot, receiver := .notify } where
  read := h.read
  write := by
    have hw := h.write
    rw [hpc] at hw
    exact hw
  recvfrom j hj := by cases hj
  publish j hj := by cases hj
  places := by
    have hplaces := h.places.update (by rw [List.length_map]; exact h.room) slot
    rw [List.length_map] at hplaces
    rw [h.recvfrom i hpc]
    exact hplaces
  nonempty := h.nonempty
  order := h.order
  room := h.room

theorem RingInv.receive (h : RingInv s)
    (hroom : s.received.length + 1 < s.handled.length + s.ringSize) {i : Int}
    (hpc : s.receiver = .recvfrom i) {data : List UInt8} (hdata : data.length ≠ 0) :
    RingInv { s with
      ring := Function.update s.ring i (slotOf data)
      received := s.received ++ [data]
      receiver := .publish i } where
  read := h.read
  write := by
    obtain ⟨published, hw, heq, hle⟩ := h.write
    rw [hpc] at heq
    refine ⟨published, hw, ?_, hle⟩
    rw [List.length_append, List.length_singleton, ← heq]
    rfl
  recvfrom j hj := by cases hj
  publish j hj := by
    cases hj
    rw [h.recvfrom i hpc, List.length_append, List.length_singleton]
  places := by
    have hplaces := h.places.write (by rw [List.length_map]; omega) (slotOf data)
    rw [List.length_map] at hplaces
    rw [h.recvfrom i hpc, List.map_append]
    exact hplaces
  nonempty d hd := by
    rcases List.mem_append.mp hd with hd | hd
    · exact h.nonempty d hd
    · rw [List.mem_singleton.mp hd]
      exact fun hnil => hdata (congrArg List.length hnil)
  order := by
    have hle : s.handled.length ≤ s.received.length := by
      have hlength := congrArg List.length h.order
      rw [List.length_map, List.length_take] at hlength
      omega
    rw [List.take_append_of_le_length hle]
    exact h.order
  room := by
    rw [List.length_append, List.length_singleton]
    exact hroom

/-- The place the processing thread has taken holds the next datagram. -/
theorem RingInv.taken (h : RingInv s) (hpc : s.processor = .handle) :
    ∃ d, s.received[s.handled.length]? = some d ∧ s.ring s.ringReadIndex = slotOf d ∧ d ≠ [] := by
  obtain ⟨published, -, heq, hle⟩ := h.write
  have hread := h.read
  rw [hpc] at hle hread
  have hlt : s.handled.length < s.received.length := by
    rw [← heq]
    exact Nat.lt_of_lt_of_le hle (Nat.le_add_right _ _)
  refine ⟨s.received[s.handled.length], List.getElem?_eq_getElem hlt, ?_,
    h.nonempty _ (List.getElem_mem hlt)⟩
  rw [hread]
  apply h.places s.handled.length _ (Nat.le_refl _)
  rw [List.getElem?_map, List.getElem?_eq_getElem hlt]
  rfl

theorem RingInv.handles (h : RingInv s) (hpc : s.processor = .handle) (input : ι)
    {datagram : List UInt8}
    (hd : s.received[s.handled.length]? = some datagram) (handlers : σ) (frames : List F) :
    RingInv { s with
      handlers := handlers
      handled := s.handled ++ [(input, datagram)]
      processor := .returning frames } where
  read := by
    have hread := h.read
    rw [hpc] at hread
    rw [List.length_append, List.length_singleton]
    exact hread
  write := by
    have hw := h.write
    rw [hpc] at hw
    rw [List.length_append, List.length_singleton]
    exact hw
  recvfrom := h.recvfrom
  publish := h.publish
  places := h.places.later (by rw [List.length_append]; exact Nat.le_add_right _ _)
  nonempty := h.nonempty
  order := by
    rw [List.map_append, h.order, List.length_append, List.length_singleton, List.take_add_one, hd]
    rfl
  room := by
    have hroom := h.room
    rw [List.length_append, List.length_singleton]
    change s.received.length < s.handled.length + 1 + s.ringSize
    omega

theorem RingInv.free (h : RingInv s) (hpc : s.processor = .returning []) (slot : Slot) :
    RingInv { s with
      ring := Function.update s.ring s.ringReadIndex slot
      processor := .drain } where
  read := by
    have hread := h.read
    rw [hpc] at hread
    exact hread
  write := by
    have hw := h.write
    rw [hpc] at hw
    exact hw
  recvfrom := h.recvfrom
  publish := h.publish
  places j x hj hx := by
    have hread := h.read
    rw [hpc] at hread
    have hlt := (List.getElem?_eq_some_iff.mp hx).1
    rw [List.length_map] at hlt
    have hroom := h.room
    change Function.update s.ring s.ringReadIndex slot (index s.ringSize (j + 1)) = x
    rw [hread, Function.update_of_ne]
    · exact h.places j x hj hx
    · intro heq
      have hj : s.handled.length ≤ j := hj
      change j < s.received.length at hlt
      have := (index_eq_iff (m := s.handled.length) (by omega) (by omega)).mp heq.symm
      omega
  nonempty := h.nonempty
  order := h.order
  room := h.room

theorem RingInv.step (h : RingInv s) (hok : s.RoomOk a) (hs : Step handle s a t) :
    RingInv t := by
  cases hs with
  | leaveReceiver hpc | stayReceiver hpc | leaveReading hpc | pollReady hpc | pollTimeout hpc
  | pollFailed hpc =>
    exact h.receiverAt _ (by rw [hpc]; rfl) nofun nofun
  | read hpc =>
    obtain ⟨published, hw, heq, hle⟩ := h.write
    rw [hpc] at heq
    refine ⟨h.read, ⟨published, hw, heq, hle⟩, fun i hi => ?_, nofun, h.places, h.nonempty,
      h.order, h.room⟩
    cases hi
    rw [hw, nextIndex_index, show published = s.received.length from heq]
  | publish i hpc =>
    obtain ⟨published, hw, heq, hle⟩ := h.write
    rw [hpc] at heq
    exact ⟨h.read, ⟨s.received.length, h.publish i hpc, rfl, hle.trans (Nat.le.intro heq)⟩, nofun,
      nofun, h.places, h.nonempty, h.order, h.room⟩
  | notify hpc =>
    have hreceiver : s.notify.receiver = s.receiver := by
      rw [Flow.notify]
      split <;> rfl
    exact h.notify.receiverAt .outer (by rw [hreceiver, hpc]; rfl) nofun nofun
  | interrupted i hpc => exact h.spoil hpc _
  | failed i hpc =>
    have hspoilt := h.spoil hpc { s.ring i with read := -1 }
    exact ⟨hspoilt.read, hspoilt.write, hspoilt.recvfrom, hspoilt.publish, hspoilt.places,
      hspoilt.nonempty, hspoilt.order, hspoilt.room⟩
  | empty i bytes data hpc => exact h.spoil hpc _
  | datagram i bytes data hpc hdata hpos => exact h.receive (hok (hdata ▸ hpos)) hpc hpos
  | leaveProcessor hpc =>
    refine h.processorAt _ ?_
    rcases hpc with hpc | hpc <;> rw [hpc] <;> rfl
  | lieDown hpc | fallAsleep hpc | getUp hpc | drained hpc | spuriousWake hpc =>
    exact h.processorAt _ (by rw [hpc]; rfl)
  | take hpc hne =>
    obtain ⟨published, hw, heq, hle⟩ := h.write
    have hread := h.read
    rw [hpc] at hread hle
    refine ⟨?_, ⟨published, hw, heq, ?_⟩, h.recvfrom, h.publish, h.places, h.nonempty, h.order,
      h.room⟩
    · change nextIndex s.ringSize s.ringReadIndex = _
      rw [hread, nextIndex_index]
      rfl
    · rcases Nat.lt_or_eq_of_le hle with hlt | hsame
      · exact hlt
      · exact absurd (hread.trans ((congrArg (index s.ringSize) hsame).trans hw.symm)) hne
  | giveBack frame frames hpc =>
    have hprocessor := h.processorAt (.returning frames) (by rw [hpc]; rfl)
    exact ⟨hprocessor.read, hprocessor.write, h.recvfrom, h.publish, h.places, h.nonempty,
      h.order, h.room⟩
  | free hpc => exact h.free hpc _
  | handle input datagram hpc hread hdatagram =>
    obtain ⟨d, hd, hslot, -⟩ := h.taken hpc
    have hsame : datagram = d := by
      rw [hdatagram, hslot]
      exact List.take_of_length_le (Nat.le_refl _)
    exact h.handles hpc input (hsame ▸ hd) _ _
  | skip input hpc hread =>
    obtain ⟨d, -, hslot, hne⟩ := h.taken hpc
    rw [hslot] at hread
    exact absurd (Int.natCast_pos.mpr (List.length_pos_iff.mpr hne)) hread
  | store | joinReceiver | joinProcessor | clear | pull =>
    exact ⟨h.read, h.write, h.recvfrom, h.publish, h.places, h.nonempty, h.order, h.room⟩
  | notifyAll =>
    have hn := h.notify
    exact ⟨hn.read, hn.write, hn.recvfrom, hn.publish, hn.places, hn.nonempty, hn.order, hn.room⟩
  | pullNothing => exact h

theorem ringInv_of_reachable (h : (machine handle handlers).ReachableBy RoomOk s) : RingInv s := by
  refine h.invariant ?_ fun _ _ _ hi hok hn => hi.step hok (step_of_next hn)
  rintro s ⟨ringSize, payloadSize, hsize, rfl⟩
  exact ringInv_start hsize payloadSize handlers

/-! ## The queue of frames -/

def runHandlers (handle : σ → ι → List UInt8 → σ × List F) :
    σ → List (ι × List UInt8) → σ × List F
  | handlers, [] => (handlers, [])
  | handlers, (input, datagram) :: rest =>
    let now := handle handlers input datagram
    let later := runHandlers handle now.1 rest
    (later.1, now.2 ++ later.2)

theorem runHandlers_concat (handle : σ → ι → List UInt8 → σ × List F) (handlers : σ)
    (handled : List (ι × List UInt8)) (input : ι) (datagram : List UInt8) :
    runHandlers handle handlers (handled ++ [(input, datagram)]) =
      ((handle (runHandlers handle handlers handled).1 input datagram).1,
        (runHandlers handle handlers handled).2 ++
          (handle (runHandlers handle handlers handled).1 input datagram).2) := by
  induction handled generalizing handlers with
  | nil => exact Prod.ext rfl (List.append_nil _)
  | cons first rest ih =>
    rw [List.cons_append, runHandlers, ih, runHandlers, List.append_assoc]

structure QueueInv (handle : σ → ι → List UInt8 → σ × List F) (handlers : σ) (s : Flow σ ι F) :
    Prop where
  state : s.handlers = (runHandlers handle handlers s.handled).1
  pulled : s.pulled <+: (runHandlers handle handlers s.handled).2
  queue : s.stopper ≠ .cleared → (runHandlers handle handlers s.handled).2 =
    s.pulled ++ s.frames ++ s.processor.leaving
  joined : s.stopper = .processorJoined ∨ s.stopper = .cleared → s.processor = .exited
  cleared : s.stopper = .cleared → s.frames = []

theorem queueInv_start (handle : σ → ι → List UInt8 → σ × List F) (ringSize payloadSize : Nat)
    (handlers : σ) : QueueInv handle handlers (start ringSize payloadSize handlers) where
  state := rfl
  pulled := List.nil_prefix
  queue _ := rfl
  joined h := by rcases h with h | h <;> cases h
  cleared h := by cases h

theorem QueueInv.processorAt (h : QueueInv handle handlers s) (pc : ProcessorPc F)
    (hsame : pc.leaving = s.processor.leaving) (hexited : s.processor = .exited → pc = .exited) :
    QueueInv handle handlers { s with processor := pc } where
  state := h.state
  pulled := h.pulled
  queue hne := by
    rw [hsame]
    exact h.queue hne
  joined hst := hexited (h.joined hst)
  cleared := h.cleared

theorem QueueInv.notify (h : QueueInv handle handlers s) : QueueInv handle handlers s.notify := by
  rw [Flow.notify]
  split
  next hpc =>
    refine h.processorAt .woken (by rw [hpc]; rfl) fun hx => ?_
    rw [hpc] at hx
    cases hx
  next => exact h

theorem QueueInv.not_joined (h : QueueInv handle handlers s) (hpc : s.processor ≠ .exited) :
    ¬ (s.stopper = .processorJoined ∨ s.stopper = .cleared) :=
  fun hst => hpc (h.joined hst)

theorem QueueInv.step (h : QueueInv handle handlers s) (hs : Step handle s a t) :
    QueueInv handle handlers t := by
  cases hs with
  | leaveReceiver | stayReceiver | leaveReading | read | publish | pollReady | pollTimeout
  | pollFailed | interrupted | failed | empty | datagram =>
    exact ⟨h.state, h.pulled, h.queue, h.joined, h.cleared⟩
  | notify =>
    have hn := h.notify
    exact ⟨hn.state, hn.pulled, hn.queue, hn.joined, hn.cleared⟩
  | leaveProcessor hpc =>
    exact h.processorAt _ (by rcases hpc with hpc | hpc <;> rw [hpc] <;> rfl) fun _ => rfl
  | lieDown hpc | fallAsleep hpc | getUp hpc | drained hpc | spuriousWake hpc | skip _ hpc =>
    refine h.processorAt _ (by rw [hpc]; rfl) fun hx => ?_
    rw [hpc] at hx
    cases hx
  | take hpc =>
    have hprocessor := h.processorAt .handle (by rw [hpc]; rfl) fun hx => by
      rw [hpc] at hx
      cases hx
    exact ⟨hprocessor.state, hprocessor.pulled, hprocessor.queue, hprocessor.joined,
      hprocessor.cleared⟩
  | giveBack frame frames hpc =>
    have hnot := h.not_joined (by rw [hpc]; nofun)
    refine ⟨h.state, h.pulled, fun hne => ?_, fun hst => absurd hst hnot,
      fun hst => absurd (.inr hst) hnot⟩
    have hqueue := h.queue hne
    rw [hpc] at hqueue
    rw [hqueue, ProcessorPc.leaving, ProcessorPc.leaving, List.append_cons]
    simp only [List.append_assoc]
  | free hpc =>
    have hprocessor := h.processorAt .drain (by rw [hpc]; rfl) fun hx => by
      rw [hpc] at hx
      cases hx
    exact ⟨hprocessor.state, hprocessor.pulled, hprocessor.queue, hprocessor.joined,
      hprocessor.cleared⟩
  | handle input datagram hpc hread hdatagram =>
    have hnot := h.not_joined (by rw [hpc]; nofun)
    have hrun := runHandlers_concat handle handlers s.handled input datagram
    rw [← h.state] at hrun
    refine ⟨(congrArg Prod.fst hrun).symm, ?_, fun hne => ?_, fun hst => absurd hst hnot,
      fun hst => absurd (.inr hst) hnot⟩
    · rw [congrArg Prod.snd hrun]
      exact h.pulled.trans (List.prefix_append _ _)
    · have hqueue := h.queue hne
      rw [hpc] at hqueue
      change _ = s.pulled ++ s.frames ++ [] at hqueue
      rw [List.append_nil] at hqueue
      rw [congrArg Prod.snd hrun, hqueue]
      rfl
  | store hpc =>
    refine ⟨h.state, h.pulled, fun _ => h.queue (by rw [hpc]; nofun), fun hst => ?_, nofun⟩
    rcases hst with hst | hst <;> cases hst
  | notifyAll hpc =>
    have hn := h.notify
    have hstopper : s.notify.stopper = s.stopper := by
      rw [Flow.notify]
      split <;> rfl
    refine ⟨hn.state, hn.pulled, fun _ => hn.queue (by rw [hstopper, hpc]; nofun), fun hst => ?_,
      nofun⟩
    rcases hst with hst | hst <;> cases hst
  | joinReceiver hpc =>
    refine ⟨h.state, h.pulled, fun _ => h.queue (by rw [hpc]; nofun), fun hst => ?_, nofun⟩
    rcases hst with hst | hst <;> cases hst
  | joinProcessor hpc hexited =>
    exact ⟨h.state, h.pulled, fun _ => h.queue (by rw [hpc]; nofun), fun _ => hexited, nofun⟩
  | clear hpc =>
    exact ⟨h.state, h.pulled, fun hne => absurd rfl hne, fun _ => h.joined (.inl hpc),
      fun _ => rfl⟩
  | pull frame frames hstop hframes =>
    have hne : s.stopper ≠ .cleared := by
      intro hst
      rw [h.cleared hst] at hframes
      cases hframes
    have hqueue := h.queue hne
    rw [hframes, List.append_cons] at hqueue
    refine ⟨h.state, ?_, fun _ => hqueue, h.joined, fun hst => absurd hst hne⟩
    rw [hqueue, List.append_assoc]
    exact List.prefix_append _ _
  | pullNothing => exact h

theorem queueInv_of_reachable {ok : Flow σ ι F → FlowAct ι → Prop}
    (h : (machine handle handlers).ReachableBy ok s) : QueueInv handle handlers s := by
  refine h.invariant ?_ fun _ _ _ hi _ hn => hi.step (step_of_next hn)
  rintro s ⟨ringSize, payloadSize, -, rfl⟩
  exact queueInv_start handle ringSize payloadSize handlers

/-! ## The flow as a whole -/

/-- Equal indices mean that nothing waits in the ring. -/
theorem RingInv.handled_eq (h : RingInv s) (hindices : s.ringReadIndex = s.lastRingWriteIndex)
    (hprocessor : s.processor.holding = 0) (hreceiver : s.receiver.unpublished = 0) :
    s.handled.map Prod.snd = s.received := by
  obtain ⟨published, hw, heq, hle⟩ := h.write
  have hread := h.read
  have hroom := h.room
  rw [hreceiver] at heq
  rw [hprocessor] at hread hle
  have hsame := (index_eq_iff hle (by omega)).mp (hread.symm.trans (hindices.trans hw))
  rw [h.order, List.take_of_length_le (by omega)]

/-- The handlers get a beginning of what was received, and all of it once the indices agree and no
datagram is between them and the handlers; until `stop` clears the queue what they return is what
was pulled, then the queue, then what is on its way to it. -/
theorem flow_in_order (h : (machine handle handlers).ReachableBy RoomOk s) :
    s.handled.map Prod.snd <+: s.received ∧
      (s.ringReadIndex = s.lastRingWriteIndex → s.processor.holding = 0 →
        s.receiver.unpublished = 0 → s.handled.map Prod.snd = s.received) ∧
      s.pulled <+: (runHandlers handle handlers s.handled).2 ∧
      (s.stopper ≠ .cleared → (runHandlers handle handlers s.handled).2 =
        s.pulled ++ s.frames ++ s.processor.leaving) := by
  have hring := ringInv_of_reachable h
  have hqueue := queueInv_of_reachable h
  refine ⟨?_, hring.handled_eq, hqueue.pulled, hqueue.queue⟩
  rw [hring.order]
  exact List.take_prefix _ _

-- Two datagrams arrive at once; the first is handled and its frame pulled while the second waits.
def twoDatagrams : List (FlowAct Unit) :=
  [.processor, .processor, .receiver, .poll true, .receiver, .recvfrom (.datagram [1, 2]),
    .receiver, .receiver, .recvfrom (.datagram [3]), .receiver, .receiver, .recvfrom .interrupted,
    .receiver, .processor, .processor, .handle (), .processor, .processor, .pull]

-- Handlers that return the datagram.
def echo (handlers : Unit) (_ : Unit) (datagram : List UInt8) : Unit × List (List UInt8) :=
  (handlers, [datagram])

theorem flow_in_order_twoDatagrams :
    ∃ s, (machine echo ()).exec (start 4 10 ()) twoDatagrams = some s ∧
      (s.received, s.handled.map Prod.snd, s.pulled) = ([[1, 2], [3]], [[1, 2]], [[1, 2]]) ∧
      s.handled.map Prod.snd <+: s.received ∧
      s.pulled <+: (runHandlers echo () s.handled).2 ∧
      (runHandlers echo () s.handled).2 = s.pulled ++ s.frames ++ s.processor.leaving := by
  have hrun : ((machine echo ()).exec (start 4 10 ()) twoDatagrams).map
      (fun s => ((s.received, s.handled.map Prod.snd, s.pulled), s.stopper)) =
        some (([[1, 2], [3]], [[1, 2]], [[1, 2]]), .running) := by
    decide
  obtain ⟨s, hs, hresult⟩ := Option.map_eq_some_iff.mp hrun
  obtain ⟨hlists, hstopper⟩ := Prod.mk.inj hresult
  have hsteps : (machine echo ()).StepsMeet RoomOk (start 4 10 ()) twoDatagrams := by
    decide
  have hinit : (machine echo ()).init (start 4 10 ()) := ⟨4, 10, by decide, rfl⟩
  obtain ⟨hbegins, -, hpulled, hqueue⟩ :=
    flow_in_order ((Machine.ReachableBy.start hinit).of_exec hsteps hs)
  exact ⟨s, hs, hlists, hbegins, hpulled, hqueue (by rw [hstopper]; decide)⟩

end Flow

end ConnectUdp.Uvgrtp
