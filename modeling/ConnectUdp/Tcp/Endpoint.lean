import ConnectUdp.CharArray
import ConnectUdp.DottedQuad
import ConnectUdp.Tcp.Calls
import ConnectUdp.Transition

/-!
# The endpoint that `initializeTcpSender` connects to

`setAddressAndPort` copies the address into 16 bytes and the ports into `uint16_t`; the calls of
`initializeTcpSender` that follow hand what is left to `inet_pton` and `connect`.
-/

namespace ConnectUdp.Tcp

open Transition

/-- The globals that `setAddressAndPort` assigns. -/
structure Addresses where
  peerAddress : CharArray 16
  myTcpPort : UInt16
  peerTcpPort : UInt16
  myVideoPort : UInt16
  peerVideoPort : UInt16
  myAudioPort : UInt16
  peerAudioPort : UInt16
  deriving DecidableEq, Repr

-- The arguments of `setAddressAndPort`; the address is the memory behind the pointer.
structure AddressAndPort where
  address : List UInt8
  mytcpport : Int
  peertcpport : Int
  myvideoport : Int
  peervideoport : Int
  myaudioport : Int
  peeraudioport : Int
  deriving DecidableEq, Repr

def setAddressAndPort (g : Addresses) (given : AddressAndPort) : Addresses :=
  let copied := g.peerAddress.strncpy given.address 15
  { peerAddress := (copied.set? 15 0).getD copied
    myTcpPort := UInt16.ofInt given.mytcpport
    peerTcpPort := UInt16.ofInt given.peertcpport
    myVideoPort := UInt16.ofInt given.myvideoport
    peerVideoPort := UInt16.ofInt given.peervideoport
    myAudioPort := UInt16.ofInt given.myaudioport
    peerAudioPort := UInt16.ofInt given.peeraudioport }

-- The port in host order, before `htons`.
structure ServAddr where
  sin_port : UInt16
  sin_addr : DottedQuad
  deriving DecidableEq, Repr

/-- A process that calls `initializeTcpSender` after `setAddressAndPort`; the running call has its
local `serv_addr`, and `connects` lists where `connect` was tried. -/
structure Dialer where
  addresses : Addresses
  call : Option (SenderPc × ServAddr)
  connects : List ServAddr
  deriving DecidableEq, Repr

namespace Dialer

def proceed (d : Dialer) (pc : SenderPc) (serv_addr : ServAddr) : Dialer :=
  match pc with
  | .returned _ => { d with call := none }
  | pc => { d with call := some (pc, serv_addr) }

-- `peerAddress` as `inet_pton` reads it.
def quad (g : Addresses) : Option DottedQuad :=
  DottedQuad.parse (cstring g.peerAddress.bytes)

-- `ret` is what the next system call returns; `inet_pton` returns 1 or 0.
def step (d : Dialer) (pc : SenderPc) (serv_addr : ServAddr) (ret : Int) : Dialer :=
  match pc with
  | .socket => d.proceed (initializeTcpSender pc ret)
      { serv_addr with sin_port := d.addresses.peerTcpPort }
  | .inetPton _ =>
    match quad d.addresses with
    | some sin_addr => d.proceed (initializeTcpSender pc 1) { serv_addr with sin_addr := sin_addr }
    | none => d.proceed (initializeTcpSender pc 0) serv_addr
  | .connect _ =>
    { d with connects := d.connects ++ [serv_addr] }.proceed (initializeTcpSender pc ret) serv_addr
  | .closeFailed _ | .send _ | .read _ | .close _ | .returned _ =>
    d.proceed (initializeTcpSender pc ret) serv_addr

-- A call starts with whatever its uninitialised `serv_addr` holds.
inductive Act
  | initializeTcpSender (serv_addr : ServAddr)
  | step (ret : Int)
  deriving DecidableEq, Repr

def next (d : Dialer) : Act → Option Dialer
  | .initializeTcpSender serv_addr =>
    if d.call = none then some { d with call := some (.socket, serv_addr) } else none
  | .step ret => d.call.map fun call => d.step call.1 call.2 ret

/-- Any number of calls after `setAddressAndPort` has left the globals `g`. -/
def machine (g : Addresses) : Machine Dialer Act where
  init d := d = ⟨g, none, []⟩
  next := next

/-! ## Where the calls connect -/

-- The endpoint that the globals stand for.
def Dials (g : Addresses) (serv_addr : ServAddr) : Prop :=
  serv_addr.sin_port = g.peerTcpPort ∧ quad g = some serv_addr.sin_addr

-- What a running call has put into `serv_addr` before its next system call.
def Filled (g : Addresses) (serv_addr : ServAddr) : SenderPc → Prop
  | .inetPton _ => serv_addr.sin_port = g.peerTcpPort
  | .connect _ => Dials g serv_addr
  | _ => True

structure Inv (g : Addresses) (d : Dialer) : Prop where
  addresses : d.addresses = g
  filled : ∀ call ∈ d.call, Filled g call.2 call.1
  connects : ∀ serv_addr ∈ d.connects, Dials g serv_addr

section runs

variable {g : Addresses} {d t : Dialer} {serv_addr : ServAddr}

theorem Inv.proceed (h : Inv g d) (pc : SenderPc) (serv_addr : ServAddr)
    (hfilled : Filled g serv_addr pc) : Inv g (d.proceed pc serv_addr) := by
  refine ⟨?_, ?_, ?_⟩
  · cases pc <;> exact h.addresses
  · intro call hcall
    cases pc <;> cases hcall <;> exact hfilled
  · cases pc <;> exact h.connects

theorem Inv.step (h : Inv g d) {pc : SenderPc} (hfilled : Filled g serv_addr pc) (ret : Int) :
    Inv g (d.step pc serv_addr ret) := by
  cases pc with
  | socket =>
    apply h.proceed
    change Filled g _ (if ret < 0 then .returned false else .inetPton ret)
    by_cases hret : ret < 0
    · rw [if_pos hret]
      trivial
    · rw [if_neg hret]
      exact congrArg Addresses.peerTcpPort h.addresses
  | inetPton sock =>
    have haddr : quad d.addresses = quad g := congrArg quad h.addresses
    unfold Dialer.step
    cases hquad : quad d.addresses with
    | none => exact h.proceed (.returned false) serv_addr trivial
    | some sin_addr => exact h.proceed (.connect sock) _ ⟨hfilled, haddr.symm.trans hquad⟩
  | connect sock =>
    have hdialled : Inv g { d with connects := d.connects ++ [serv_addr] } := by
      refine ⟨h.addresses, h.filled, ?_⟩
      exact List.forall_mem_append.mpr ⟨h.connects, List.forall_mem_singleton.mpr hfilled⟩
    apply hdialled.proceed
    change Filled g _ (if ret < 0 then .closeFailed sock else .send sock)
    split <;> trivial
  | closeFailed sock => exact h.proceed (.returned false) serv_addr trivial
  | send sock => exact h.proceed (.read sock) _ trivial
  | read sock => exact h.proceed (.close sock) _ trivial
  | close sock => exact h.proceed (.returned true) serv_addr trivial
  | returned result => exact h.proceed (.returned result) serv_addr trivial

theorem Inv.next (h : Inv g d) {a : Act} (hn : d.next a = some t) : Inv g t := by
  cases a with
  | initializeTcpSender serv_addr =>
    simp only [Dialer.next] at hn
    split at hn <;> cases hn
    exact ⟨h.addresses, fun call hcall => by cases hcall; trivial, h.connects⟩
  | step ret =>
    obtain ⟨call, hcall, rfl⟩ := Option.map_eq_some_iff.mp hn
    exact h.step (h.filled call hcall) ret

theorem inv_start (g : Addresses) : Inv g ⟨g, none, []⟩ :=
  ⟨rfl, fun _ hcall => (by cases hcall), fun _ hmem => (by cases hmem)⟩

/-- Every call connects to the endpoint that the globals stand for, and to no other. -/
theorem connects_dial (h : (machine g).Reachable d) : ∀ serv_addr ∈ d.connects, Dials g serv_addr :=
  (h.invariant (I := Inv g) (forall_eq.mpr (inv_start g)) fun _ _ _ hi hn => hi.next hn).connects

theorem exists_connect (sin_addr : DottedQuad) (h : quad g = some sin_addr) :
    ∃ d, (machine g).Reachable d ∧ ⟨g.peerTcpPort, sin_addr⟩ ∈ d.connects := by
  have hexec : (machine g).exec ⟨g, none, []⟩ [.initializeTcpSender ⟨0, ⟨0, 0, 0, 0⟩⟩, .step 3,
      .step 1, .step 0] = some ⟨g, some (.send 3, ⟨g.peerTcpPort, sin_addr⟩),
        [⟨g.peerTcpPort, sin_addr⟩]⟩ := by
    simp [Machine.exec, machine, Dialer.next, Dialer.step, Dialer.proceed,
      Tcp.initializeTcpSender, h]
  exact ⟨_, (Machine.Reachable.start rfl).of_exec hexec, List.mem_singleton.mpr rfl⟩

end runs

end Dialer

/-! ## What was given and what is dialled -/

namespace AddressAndPort

variable (given : AddressAndPort)

-- The C string that was given.
def text : List UInt8 :=
  cstring given.address

def Denotes (serv_addr : ServAddr) : Prop :=
  DottedQuad.parse given.text = some serv_addr.sin_addr ∧
    (serv_addr.sin_port.toNat : Int) = given.peertcpport

/-- `peerAddress` is a terminated string, and whatever `initializeTcpSender` connects to from now
on is what was given. -/
structure Faithful (g : Addresses) : Prop where
  terminated : 0 ∈ (setAddressAndPort g given).peerAddress.bytes
  connects : ∀ d, (Dialer.machine (setAddressAndPort g given)).Reachable d →
    ∀ serv_addr ∈ d.connects, given.Denotes serv_addr

/-- The first 15 characters are no dotted quad, or they are all there is and the port is one. -/
def Representable : Prop :=
  DottedQuad.parse (given.text.take 15) = none ∨
    given.text.length ≤ 15 ∧ 0 ≤ given.peertcpport ∧ given.peertcpport < 65536

end AddressAndPort

section given

variable (g : Addresses) (given : AddressAndPort)

theorem peerAddress_setAddressAndPort :
    (setAddressAndPort g given).peerAddress = .padded 16 (given.text.take 15) := by
  have hset := CharArray.strncpy_set?_terminator g.peerAddress given.address (n := 15) rfl
  exact congrArg (fun a => a.getD (g.peerAddress.strncpy given.address 15)) hset

theorem take_text_length : (given.text.take 15).length < 16 := by
  rw [List.length_take]
  omega

theorem quad_setAddressAndPort : Dialer.quad (setAddressAndPort g given) =
    DottedQuad.parse (given.text.take 15) := by
  have hnul : 0 ∉ given.text.take 15 :=
    fun hmem => nul_not_mem_cstring given.address (List.mem_of_mem_take hmem)
  rw [Dialer.quad, peerAddress_setAddressAndPort,
    CharArray.cstring_padded hnul (take_text_length given)]

-- Whatever the length of the address, its copy ends in a NUL.
theorem terminated_setAddressAndPort : 0 ∈ (setAddressAndPort g given).peerAddress.bytes := by
  have hlength := take_text_length given
  rw [peerAddress_setAddressAndPort, CharArray.padded_bytes hlength.le]
  apply List.mem_append_right
  exact List.mem_replicate.mpr ⟨by omega, rfl⟩

theorem toNat_ofInt_port (port : Int) : ((UInt16.ofInt port).toNat : Int) = port % 65536 := by
  change (((port % 2 ^ 16).toNat % 2 ^ 16 : Nat) : Int) = port % 65536
  omega

/-- A dotted quad that is not cut off and a port that is not narrowed are dialled as given. -/
theorem denotes_of_dials {serv_addr : ServAddr} (hlength : given.text.length ≤ 15)
    (hlo : 0 ≤ given.peertcpport) (hhi : given.peertcpport < 65536)
    (h : Dialer.Dials (setAddressAndPort g given) serv_addr) : given.Denotes serv_addr := by
  obtain ⟨hport, haddr⟩ := h
  rw [quad_setAddressAndPort, List.take_of_length_le hlength] at haddr
  refine ⟨haddr, ?_⟩
  rw [hport]
  change ((UInt16.ofInt given.peertcpport).toNat : Int) = _
  rw [toNat_ofInt_port, Int.emod_eq_of_lt hlo hhi]

/-- What was given is dialled, and nothing else, exactly when the cut-off address is no dotted
quad or neither the address nor the port loses anything on its way. -/
theorem faithful_iff_representable : given.Faithful g ↔ given.Representable := by
  constructor
  · intro h
    cases hquad : DottedQuad.parse (given.text.take 15) with
    | none => exact .inl hquad
    | some sin_addr =>
      obtain ⟨d, hreach, hmem⟩ :=
        Dialer.exists_connect sin_addr ((quad_setAddressAndPort g given).trans hquad)
      obtain ⟨hparse, hport⟩ := h.connects d hreach _ hmem
      change ((UInt16.ofInt given.peertcpport).toNat : Int) = _ at hport
      rw [toNat_ofInt_port] at hport
      have hlo := Int.emod_nonneg given.peertcpport (show (65536 : Int) ≠ 0 by decide)
      have hhi := Int.emod_lt_of_pos given.peertcpport (show (0 : Int) < 65536 by decide)
      exact .inr ⟨DottedQuad.parse_length_le hparse, by omega, by omega⟩
  · intro h
    refine ⟨terminated_setAddressAndPort g given, fun d hreach serv_addr hmem => ?_⟩
    have hdials := Dialer.connects_dial hreach serv_addr hmem
    rcases h with hnone | ⟨hlength, hlo, hhi⟩
    · have hsome := hdials.2
      rw [quad_setAddressAndPort, hnone] at hsome
      cases hsome
    · exact denotes_of_dials g given hlength hlo hhi hdials

end given

-- The globals as they are initialised: `"127.0.0.1"`.
def defaultAddresses : Addresses :=
  ⟨.padded 16 [49, 50, 55, 46, 48, 46, 48, 46, 49], 30001, 30000, 30006, 30002, 30004, 30008⟩

-- `"192.168.100.1001"`, 16 characters.
def longAddress : AddressAndPort :=
  ⟨[49, 57, 50, 46, 49, 54, 56, 46, 49, 48, 48, 46, 49, 48, 48, 49], 30001, 30000, 30006, 30002,
    30004, 30008⟩

-- `"127.0.0.1"` and a port that is 80 modulo `2 ^ 16`.
def widePort : AddressAndPort :=
  ⟨[49, 50, 55, 46, 48, 46, 48, 46, 49], 30001, 65616, 30006, 30002, 30004, 30008⟩

/-- `"192.168.100.1001"` is no dotted quad, but 192.168.100.100 is dialled; port 65616 becomes
port 80. -/
theorem truncated_address_dialled :
    (¬ longAddress.Faithful defaultAddresses ∧
      ∃ d, (Dialer.machine (setAddressAndPort defaultAddresses longAddress)).Reachable d ∧
        ⟨30000, ⟨192, 168, 100, 100⟩⟩ ∈ d.connects) ∧
    ¬ widePort.Faithful defaultAddresses := by
  have hlong : Dialer.quad (setAddressAndPort defaultAddresses longAddress) =
      some ⟨192, 168, 100, 100⟩ :=
    (quad_setAddressAndPort defaultAddresses longAddress).trans (by decide)
  have hwide : Dialer.quad (setAddressAndPort defaultAddresses widePort) = some ⟨127, 0, 0, 1⟩ :=
    (quad_setAddressAndPort defaultAddresses widePort).trans (by decide)
  refine ⟨⟨?_, Dialer.exists_connect _ hlong⟩, ?_⟩
  · intro h
    obtain ⟨d, hreach, hmem⟩ := Dialer.exists_connect _ hlong
    exact absurd (h.connects d hreach _ hmem).1 (by decide)
  · intro h
    obtain ⟨d, hreach, hmem⟩ := Dialer.exists_connect _ hwide
    exact absurd (h.connects d hreach _ hmem).2 (by decide)

end ConnectUdp.Tcp
