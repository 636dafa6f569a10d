/-!
# The control flow of the TCP rendezvous in `mediaLibrary.cpp`

Each function is cut at its system calls: the state names the next call, and what that call
returns decides where the function goes on.  What the calls do is left to the environments in
which the functions are studied.
-/

namespace ConnectUdp.Tcp

/-- The next system call of `initializeTcpSender`, with its local `sock`. -/
inductive SenderPc
  | socket
  | inetPton (sock : Int)
  | connect (sock : Int)
  -- the `close` behind a failed `connect`
  | closeFailed (sock : Int)
  | send (sock : Int)
  | read (sock : Int)
  | close (sock : Int)
  | returned (result : Bool)
  deriving DecidableEq, Repr

def initializeTcpSender : SenderPc → Int → SenderPc
  | .socket, ret => if ret < 0 then .returned false else .inetPton ret
  | .inetPton sock, ret => if ret ≤ 0 then .returned false else .connect sock
  | .connect sock, ret => if ret < 0 then .closeFailed sock else .send sock
  | .closeFailed _, _ => .returned false
  -- the results of `send` and `read` are not looked at
  | .send sock, _ => .read sock
  | .read sock, _ => .close sock
  | .close _, _ => .returned true
  | .returned result, _ => .returned result

/-- The next system call of `initializeTcpReceiver`; its descriptors are the globals `server_fd`
and `new_socket`. -/
inductive ReceiverPc
  | socket
  | setsockopt
  | bind
  | listen
  | accept
  | read
  | send
  | closeNewSocket
  | closeServer
  | returned (result : Bool)
  deriving DecidableEq, Repr

def initializeTcpReceiver : ReceiverPc → Int → ReceiverPc
  -- a failed `socket` returns -1, which this test lets through
  | .socket, ret => if ret = 0 then .returned false else .setsockopt
  | .setsockopt, ret => if ret ≠ 0 then .returned false else .bind
  | .bind, ret => if ret ≠ 0 then .returned false else .listen
  | .listen, ret => if ret < 0 then .returned false else .accept
  | .accept, ret => if ret < 0 then .returned false else .read
  -- here too the results of `read` and `send` are dropped
  | .read, _ => .send
  | .send, _ => .closeNewSocket
  | .closeNewSocket, _ => .closeServer
  | .closeServer, _ => .returned true
  | .returned result, _ => .returned result

end ConnectUdp.Tcp
