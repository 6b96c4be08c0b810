import UdpTransport.Address.Native
import UdpTransport.Native

/-!
# Sockets

A socket owns a descriptor of the system, or none once it is closed. It knows its family, whether it
is bound and connected, and the local port it found out when it was bound.

Operations work on the socket together with the native side (`SocketAct`), and what they did before
a failure stays done. Calls that a signal interrupted are repeated (`persist`): the plan of the
kernel bounds how often that can happen.
-/

namespace UdpTransport

/-- A datagram socket. -/
structure Socket where
  fd : Int
  family : Nat
  /-- The local port as of the last bind or connect; reported arrivals are completed by it. -/
  localPort : Nat := 0
  bound : Bool := false
  connected : Bool := false
  deriving DecidableEq, Repr

/-- An operation of a part `ε` that talks to the native side. -/
abbrev NativeAct (ε α : Type) := Act (ε × Native) α

instance {ε : Type} : MonadLift (EStateM Fault Native) (EStateM Fault (ε × Native)) :=
  ⟨Act.focus Prod.snd fun native s => (s.1, native)⟩

/-- An operation of a socket. -/
abbrev SocketAct (α : Type) := NativeAct Socket α

namespace Socket

/-- The descriptor of a socket that has none. -/
abbrev noDescriptor : Int := -1

/-- The tag of what sockets log. -/
def logTag : String := "socket"

/-- Whether the socket still holds a descriptor. -/
def isOpen (socket : Socket) : Bool := socket.fd ≠ noDescriptor

/-- What is left of a socket whose descriptor was given away or closed. -/
def vacated (socket : Socket) : Socket :=
  { socket with fd := noDescriptor, bound := false, connected := false }

/-- The socket that an operation works on. -/
def current : SocketAct Socket := do return (← get).1

/-- Changes the socket that an operation works on. -/
def change (f : Socket → Socket) : SocketAct Unit := modify fun s => (f s.1, s.2)

/-- Runs an operation on a socket that nobody else knows of; after a failure the socket is lost. -/
def withSocket {α : Type} (socket : Socket) (act : SocketAct α) : Act Native (α × Socket) :=
  fun native =>
    match act (socket, native) with
    | .ok a (socket, native) => .ok (a, socket) native
    | .error fault (_, native) => .error fault native

/-- Repeats a call while it is interrupted, at most `times` times. -/
def retry {α : Type} : (times : Nat) → Act Native (Answer α) → Act Native (Answer α)
  | 0, call => call
  | times + 1, call => do
    match ← call with
    | .failure code =>
      if code = ErrorCode.interrupted then retry times call else pure (.failure code)
    | answer => pure answer

/-- Repeats a call until it is not interrupted. Interruptions come only from the answers laid down
for the call, so there are at most that many. -/
def persist {α β : Type} (plan : Script → Plan β) (call : Act Native (Answer α)) :
    Act Native (Answer α) := do
  retry (plan (← get).kernel.script).length call

end Socket

end UdpTransport
