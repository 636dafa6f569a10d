import ConnectUdp.Uvgrtp.H264Safety
import ConnectUdp.Uvgrtp.ReceptionOrder

/-!
# From one program to the other

The handlers of an H.264 stream run in the processing thread of a flow.  What the network of a
session delivers goes through the ring, and what comes out of `pull_frame` are the NAL units the
other side pushed.
-/

namespace ConnectUdp.Uvgrtp

open Transition

variable {cfg : Settings} {s t : Session}

-- The handlers of an H.264 stream; they read the clock.
def h264Handlers (cfg : Settings) (r : Except Fault H26x) (now : Nat) (datagram : List UInt8) :
    Except Fault H26x × List Frame :=
  match r.bind fun r => processPacket cfg now r datagram with
  | .error fault => (.error fault, [])
  | .ok (r, frames) => (.ok r, frames)

def deliveryOf (s : Session) : SessionAct → List (Nat × List UInt8)
  | .push .. => []
  | .deliver p k now =>
    (s.pushes[p]?.bind fun push => push.datagrams[k]?).toList.map fun datagram => (now, datagram)

-- What the network delivers in the run that performs `as` from `s`, with the time of each.
def deliveries (cfg : Settings) : Session → List SessionAct → List (Nat × List UInt8)
  | _, [] => []
  | s, a :: as =>
    match s.next cfg a with
    | none => []
    | some t => deliveryOf s a ++ deliveries cfg t as

theorem push_receiver (s : Session) (data : List UInt8) (now : Nat) (random : UInt32) :
    (s.push data now random).receiver = s.receiver ∧
      (s.push data now random).delivered = s.delivered := by
  rw [Session.push]
  split <;> exact ⟨rfl, rfl⟩

theorem runHandlers_append {σ ι F : Type} (handle : σ → ι → List UInt8 → σ × List F)
    (handlers : σ) (first second : List (ι × List UInt8)) :
    Flow.runHandlers handle handlers (first ++ second) =
      ((Flow.runHandlers handle (Flow.runHandlers handle handlers first).1 second).1,
        (Flow.runHandlers handle handlers first).2 ++
          (Flow.runHandlers handle (Flow.runHandlers handle handlers first).1 second).2) := by
  induction first generalizing handlers with
  | nil => rfl
  | cons entry first ih =>
    rw [List.cons_append, Flow.runHandlers, ih, Flow.runHandlers, List.append_assoc]

theorem exec_crashed {as : List SessionAct} (hcrashed : s.crashed = true)
    (hexec : (Session.machine cfg).exec s as = some t) : t.crashed = true := by
  cases as with
  | nil =>
    cases hexec
    exact hcrashed
  | cons a as =>
    obtain ⟨u, hn, -⟩ := Machine.exec_cons_eq_some.mp hexec
    cases a with
    | push data now random => simp [Session.machine, Session.next, hcrashed] at hn
    | deliver p k now => simp [Session.machine, Session.next, hcrashed] at hn

/-- A step of a session that does not fail is one of the handlers on what it delivers. -/
theorem runHandlers_deliveryOf {a : SessionAct} (hn : s.next cfg a = some t)
    (hrunning : t.crashed = false) : ∃ frames,
      Flow.runHandlers (h264Handlers cfg) (.ok s.receiver) (deliveryOf s a) =
        (.ok t.receiver, frames) ∧
      t.delivered.map Prod.snd = s.delivered.map Prod.snd ++ frames := by
  cases a with
  | push data now random =>
    rw [Session.next] at hn
    split at hn
    · cases hn
    cases hn
    obtain ⟨hreceiver, hdelivered⟩ := push_receiver s data now random
    rw [hreceiver, hdelivered]
    exact ⟨[], rfl, (List.append_nil _).symm⟩
  | deliver p k now =>
    rw [Session.next] at hn
    split at hn
    · cases hn
    obtain ⟨datagram, hd, rfl⟩ := Option.map_eq_some_iff.mp hn
    rw [deliveryOf, hd]
    rcases hprocess : processPacket cfg now s.receiver datagram with fault | ⟨r, frames⟩
    · rw [Session.deliver, hprocess] at hrunning
      cases hrunning
    · refine ⟨frames, ?_, ?_⟩
      · rw [deliver_eq hprocess]
        change ((h264Handlers cfg (.ok s.receiver) now datagram).1,
          (h264Handlers cfg (.ok s.receiver) now datagram).2 ++ []) = _
        rw [List.append_nil, h264Handlers, Except.bind, hprocess]
        rfl
      · rw [deliver_eq hprocess, Session.advanced, List.map_append, List.map_map]
        exact congrArg _ (List.map_id frames)

theorem runHandlers_deliveries {as : List SessionAct}
    (hexec : (Session.machine cfg).exec s as = some t) (hrunning : t.crashed = false) :
    ∃ frames,
      Flow.runHandlers (h264Handlers cfg) (.ok s.receiver) (deliveries cfg s as) =
        (.ok t.receiver, frames) ∧
      t.delivered.map Prod.snd = s.delivered.map Prod.snd ++ frames := by
  induction as generalizing s with
  | nil =>
    cases hexec
    exact ⟨[], rfl, (List.append_nil _).symm⟩
  | cons a as ih =>
    obtain ⟨u, hn, hrest⟩ := Machine.exec_cons_eq_some.mp hexec
    have hu : u.crashed = false := by
      rw [Bool.eq_false_iff]
      intro hcrashed
      rw [exec_crashed hcrashed hrest] at hrunning
      cases hrunning
    obtain ⟨first, hfirst, hdelivered⟩ := runHandlers_deliveryOf hn hu
    obtain ⟨later, hlater, hdelivered'⟩ := ih hrest
    refine ⟨first ++ later, ?_, ?_⟩
    · have hn' : s.next cfg a = some u := hn
      rw [deliveries, hn', runHandlers_append, hfirst, hlater]
    · rw [hdelivered', hdelivered, List.append_assoc]

section endToEnd

variable {s₀ : Session} {as : List SessionAct} {flow : Flow (Except Fault H26x) Nat Frame}

theorem handled_frames (hinit : s₀.init) (hexec : (Session.machine cfg).exec s₀ as = some s)
    (hsteps : (Session.machine cfg).StepsMeet Session.StepOk s₀ as)
    (hhandled : flow.handled = deliveries cfg s₀ as) :
    (Flow.runHandlers (h264Handlers cfg) (.ok s₀.receiver) flow.handled).2 =
      s.delivered.map Prod.snd := by
  have hi := inv_of_reachable ((Machine.ReachableBy.start hinit).of_exec hsteps hexec)
  obtain ⟨frames, hrun, hdelivered⟩ := runHandlers_deliveries hexec hi.running
  have hempty : s₀.delivered = [] := by
    obtain ⟨rtp, now, rfl⟩ := hinit
    rfl
  rw [hempty, List.map_nil, List.nil_append] at hdelivered
  rw [hhandled, hrun, hdelivered]

/-- Every frame that is pulled belongs to a push, no two to the same. -/
theorem pulled_pushes (hinit : s₀.init) (hexec : (Session.machine cfg).exec s₀ as = some s)
    (hsteps : (Session.machine cfg).StepsMeet Session.StepOk s₀ as)
    (hflow : (Flow.machine (h264Handlers cfg) (.ok s₀.receiver)).ReachableBy Flow.RoomOk flow)
    (hhandled : flow.handled = deliveries cfg s₀ as) :
    ∃ ps : List Nat, ps.Nodup ∧ List.Forall₂ (fun p frame => ∃ push : Push,
      s.pushes[p]? = some push ∧ frame.payload = startCode cfg ++ push.data) ps flow.pulled := by
  have hreach := (Machine.ReachableBy.start hinit).of_exec hsteps hexec
  have hi := inv_of_reachable hreach
  have hqueue := Flow.queueInv_of_reachable hflow
  have hframes := handled_frames hinit hexec hsteps hhandled
  obtain ⟨n, hn⟩ : ∃ n, flow.pulled = (s.delivered.take n).map Prod.snd := by
    refine ⟨flow.pulled.length, ?_⟩
    rw [List.map_take, ← hframes]
    exact List.prefix_iff_eq_take.mp hqueue.pulled
  refine ⟨(s.delivered.take n).map Prod.fst, ?_, ?_⟩
  · rw [List.map_take]
    exact (Reassembly.consistent_of_reachable (reassembles hreach)).nodup.sublist
      (List.take_sublist _ _)
  · rw [hn, List.forall₂_map_left_iff, List.forall₂_map_right_iff, List.forall₂_same]
    rintro ⟨p, frame⟩ hmem
    exact hi.frames p frame (List.mem_of_mem_take hmem)

/-- What can be pulled are NAL units that were pushed, each as it was pushed and none twice, in the
order in which the receiver completed them. -/
theorem pulled_as_pushed (hinit : s₀.init) (hexec : (Session.machine cfg).exec s₀ as = some s)
    (hsteps : (Session.machine cfg).StepsMeet Session.StepOk s₀ as)
    (hflow : (Flow.machine (h264Handlers cfg) (.ok s₀.receiver)).ReachableBy Flow.RoomOk flow)
    (hhandled : flow.handled = deliveries cfg s₀ as) :
    (flow.stopper ≠ .cleared → s.delivered.map Prod.snd =
      flow.pulled ++ flow.frames ++ flow.processor.leaving) ∧
    ∃ ps : List Nat, ps.Nodup ∧ List.Forall₂ (fun p frame => ∃ push : Push,
      s.pushes[p]? = some push ∧ frame.payload = startCode cfg ++ push.data) ps flow.pulled := by
  have hframes := handled_frames hinit hexec hsteps hhandled
  have hqueue := Flow.queueInv_of_reachable hflow
  exact ⟨fun hne => hframes.symm.trans (hqueue.queue hne),
    pulled_pushes hinit hexec hsteps hflow hhandled⟩

-- The datagrams are all in the ring before the first is handled; the first and the fifth complete a
-- NAL unit.
def reorderedFlow (datagrams : List (Nat × List UInt8)) : List (FlowAct Nat) :=
  [.processor, .processor, .receiver, .poll true, .receiver] ++
    datagrams.flatMap (fun d => [.recvfrom (.datagram d.2), .receiver, .receiver]) ++
    [.recvfrom .interrupted, .receiver, .processor] ++
    (datagrams.zip [1, 0, 0, 0, 1, 0]).flatMap (fun d =>
      [.processor, .handle d.1.1] ++ List.replicate (d.2 + 1) .processor) ++
    [.pull, .pull]

theorem reorderedFlow_exec : ∃ flow,
    (Flow.machine (h264Handlers ⟨false, false, 500⟩) (.ok idle.receiver)).exec
      (Flow.start 8 1464 (.ok idle.receiver))
      (reorderedFlow (deliveries ⟨false, false, 500⟩ idle reordered)) = some flow ∧
    (Flow.machine (h264Handlers ⟨false, false, 500⟩) (.ok idle.receiver)).ReachableBy
      Flow.RoomOk flow ∧
    flow.handled = deliveries ⟨false, false, 500⟩ idle reordered ∧ flow.pulled.length = 2 := by
  have hrun : ((Flow.machine (h264Handlers ⟨false, false, 500⟩) (.ok idle.receiver)).exec
      (Flow.start 8 1464 (.ok idle.receiver))
      (reorderedFlow (deliveries ⟨false, false, 500⟩ idle reordered))).map
        (fun flow => (flow.handled, flow.pulled.length)) =
      some (deliveries ⟨false, false, 500⟩ idle reordered, 2) := by
    decide +kernel
  have hroom : (Flow.machine (h264Handlers ⟨false, false, 500⟩) (.ok idle.receiver)).StepsMeet
      Flow.RoomOk (Flow.start 8 1464 (.ok idle.receiver))
      (reorderedFlow (deliveries ⟨false, false, 500⟩ idle reordered)) := by
    decide +kernel
  obtain ⟨flow, hflow, hresult⟩ := Option.map_eq_some_iff.mp hrun
  obtain ⟨hhandled, hpulled⟩ := Prod.mk.inj hresult
  have hstart : (Flow.machine (h264Handlers ⟨false, false, 500⟩) (.ok idle.receiver)).init
      (Flow.start 8 1464 (.ok idle.receiver)) := ⟨8, 1464, by decide, rfl⟩
  exact ⟨flow, hflow, (Machine.ReachableBy.start hstart).of_exec hroom hflow, hhandled, hpulled⟩

theorem pulled_as_pushed_reordered :
    ∃ s flow, (Session.machine ⟨false, false, 500⟩).exec idle reordered = some s ∧
      (Flow.machine (h264Handlers ⟨false, false, 500⟩) (.ok idle.receiver)).exec
        (Flow.start 8 1464 (.ok idle.receiver))
        (reorderedFlow (deliveries ⟨false, false, 500⟩ idle reordered)) = some flow ∧
      flow.pulled.length = 2 ∧
      ∃ ps : List Nat, ps.Nodup ∧ List.Forall₂ (fun p frame => ∃ push : Push,
        s.pushes[p]? = some push ∧ frame.payload = [0, 0, 1] ++ push.data) ps flow.pulled := by
  obtain ⟨s, hexec, -⟩ := reordered_exec
  obtain ⟨flow, hflow, hreach, hhandled, hpulled⟩ := reorderedFlow_exec
  exact ⟨s, flow, hexec, hflow, hpulled,
    (pulled_as_pushed idle_init hexec reordered_steps hreach hhandled).2⟩

end endToEnd

end ConnectUdp.Uvgrtp
