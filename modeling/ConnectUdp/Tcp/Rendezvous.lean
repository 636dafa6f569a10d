import ConnectUdp.ByteStream
import ConnectUdp.Tcp.Calls
import ConnectUdp.Transition

/-!
# Two processes and one connection

One process runs `initializeTcpSender` and one `initializeTcpReceiver`, a system call at a time.
The kernel completes `connect` as soon as the peer listens, before `accept`.  Either process may
stop and the connection may be reset between any two steps.
-/

namespace ConnectUdp.Tcp

open Transition

-- `"Hello from Sender"`.
def greeting : List UInt8 :=
  [72, 101, 108, 108, 111, 32, 102, 114, 111, 109, 32, 83, 101, 110, 100, 101, 114]

-- `"Hello from Receiver"`.
def reply : List UInt8 :=
  [72, 101, 108, 108, 111, 32, 102, 114, 111, 109, 32, 82, 101, 99, 101, 105, 118, 101, 114]

-- The size of the local `buffer` of both functions.
def bufferSize : Nat := 1024

structure Rendezvous where
  sender : SenderPc
  receiver : ReceiverPc
  senderStopped : Bool
  receiverStopped : Bool
  -- the receiver's socket
  serverFd : Int
  listening : Bool
  -- the connection; an end is down once its process has closed it or has stopped
  connected : Bool
  accepted : Bool
  reset : Bool
  senderEnd : Bool
  receiverEnd : Bool
  toReceiver : ByteStream
  toSender : ByteStream
  -- The texts passed to the sender's `debugCallback`.
  log : List String
  deriving DecidableEq, Repr

namespace Rendezvous

def start : Rendezvous where
  sender := .socket
  receiver := .socket
  senderStopped := false
  receiverStopped := false
  serverFd := 0
  listening := false
  connected := false
  accepted := false
  reset := false
  senderEnd := false
  receiverEnd := false
  toReceiver := .empty
  toSender := .empty
  log := []

-- `ret` is what the next system call returns where the environment decides it.
inductive Act
  | sender (ret : Int)
  | receiver (ret : Int)
  | deliverToReceiver (count : Nat)
  | deliverToSender (count : Nat)
  | stopSender
  | stopReceiver
  | reset
  deriving DecidableEq, Repr

-- A write fails only on a reset connection or one whose other end is down.
def mayWrite (s : Rendezvous) (peerEnd : Bool) (ret : Int) : Bool :=
  if ret < 0 then s.reset || !peerEnd else !s.reset

/-- A read returns bytes, or -1 on a reset connection, or 0 when the other end is down and
nothing is on its way; otherwise it blocks. -/
def mayRead (s : Rendezvous) (peerEnd : Bool) (stream : ByteStream) : Bool :=
  s.reset || 0 < stream.readable || !peerEnd && stream.arrived = stream.written.length

def senderStep (s : Rendezvous) (ret : Int) : Option Rendezvous :=
  let s' := { s with sender := initializeTcpSender s.sender ret }
  match s.sender with
  | .socket | .inetPton _ | .closeFailed _ => some s'
  | .connect _ =>
    -- `connect` succeeds exactly when the peer listens
    if s.listening = true ∧ 0 ≤ ret then
      some { s' with
        connected := true, senderEnd := true, receiverEnd := true, log := s.log ++ ["接続完了"] }
    else if s.listening = false ∧ ret < 0 then
      some { s' with log := s.log ++ ["接続先が見つかりませんでした"] }
    else none
  | .send _ =>
    if mayWrite s s.receiverEnd ret then
      some { s' with toReceiver := if ret < 0 then s.toReceiver else s.toReceiver.write greeting }
    else none
  | .read _ =>
    if mayRead s s.receiverEnd s.toSender then
      some { s' with toSender := if s.reset then s.toSender else s.toSender.read bufferSize }
    else none
  | .close _ => some { s' with senderEnd := false }
  | .returned _ => none

def receiverStep (s : Rendezvous) (ret : Int) : Option Rendezvous :=
  let s' := { s with receiver := initializeTcpReceiver s.receiver ret }
  match s.receiver with
  | .socket => some { s' with serverFd := ret }
  | .setsockopt => if s.serverFd < 0 ∧ ret = 0 then none else some s'
  | .bind => some s'
  | .listen => some { s' with listening := 0 ≤ ret }
  | .accept =>
    if ret < 0 then some s' else if s.connected then some { s' with accepted := true } else none
  | .read =>
    if mayRead s s.senderEnd s.toReceiver then
      some { s' with
        toReceiver := if s.reset then s.toReceiver else s.toReceiver.read bufferSize }
    else none
  | .send =>
    if mayWrite s s.senderEnd ret then
      some { s' with toSender := if ret < 0 then s.toSender else s.toSender.write reply }
    else none
  | .closeNewSocket => some { s' with receiverEnd := false }
  | .closeServer => some { s' with listening := false }
  | .returned _ => none

def next (s : Rendezvous) : Act → Option Rendezvous
  | .sender ret => if s.senderStopped then none else senderStep s ret
  | .receiver ret => if s.receiverStopped then none else receiverStep s ret
  | .deliverToReceiver count =>
    if s.reset then none else some { s with toReceiver := s.toReceiver.deliver count }
  | .deliverToSender count =>
    if s.reset then none else some { s with toSender := s.toSender.deliver count }
  | .stopSender => some { s with senderStopped := true, senderEnd := false }
  | .stopReceiver => some { s with
      receiverStopped := true, receiverEnd := false, listening := false }
  | .reset => if s.connected then some { s with reset := true } else none

def machine : Machine Rendezvous Act where
  init s := s = start
  next := next

end Rendezvous

end ConnectUdp.Tcp
