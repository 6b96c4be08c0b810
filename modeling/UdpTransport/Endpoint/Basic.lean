import UdpTransport.Endpoint.Request
import UdpTransport.Socket.Transfer

/-!
# Endpoints

A channel needs little of what is below it: send and receive without waiting, bind, connect,
disconnect and close, and say what addresses it has. `Endpoint ε` says that the type `ε` can do that
together with the native side. Sockets are endpoints; an operation of a socket that takes memory by
its address and one that takes a view do the same.
-/

namespace UdpTransport

/-- What a channel needs of the endpoint below it. -/
class Endpoint (ε : Type) where
  isOpen : ε → Bool
  /-- The descriptor to watch for readiness; negative if there is none. -/
  descriptor : ε → Int
  localAddress : NativeAct ε Address
  remoteAddress : NativeAct ε (Option Address)
  bind : Address → NativeAct ε Unit
  connect : Address → NativeAct ε Unit
  disconnect : NativeAct ε Unit
  close : NativeAct ε Unit
  /-- Offers one datagram; gives the number of bytes taken, zero if it would have to wait. -/
  send : SendRequest → NativeAct ε Int
  /-- Takes a datagram of the connected peer. -/
  read : Access → (room : Nat) → NativeAct ε Incoming
  /-- Takes a datagram of any sender, if one is there. -/
  receive : Access → (room : Nat) → NativeAct ε (Option Received)
  /-- What happens when nobody uses the endpoint any more. -/
  drop : NativeAct ε Unit

namespace Socket

/-- Sends what a channel hands over. -/
def serve (request : SendRequest) : SocketAct Int :=
  match request.payload with
  | .single .address bytes =>
    sendAddress bytes bytes.length request.recipient request.segmentSize
  | .single .view bytes => send bytes request.recipient request.segmentSize
  | .gather gather => sendGather gather request.recipient request.segmentSize

instance : Endpoint Socket where
  isOpen := isOpen
  descriptor := fd
  localAddress := localAddress
  remoteAddress := remoteAddress
  bind := bind
  connect := connect
  disconnect := disconnect
  close := close
  send := serve
  read
    | .address, room => readAddress room
    | .view, room => read room
  receive
    | .address, room => receiveAddress room
    | .view, room => receive room
  drop := do
    let socket ← current
    socket.drop

end Socket

end UdpTransport
