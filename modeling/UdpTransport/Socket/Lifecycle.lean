import UdpTransport.Socket.Options

/-!
# The life of a socket

`Socket.create` makes a socket that never waits and applies the options asked for. If the system or
a rule of sockets stands against an option, the descriptor is closed again; a buffer size out of
range is refused without that.

`bind` and `connect` note the local port right away, `disconnect` dissolves the association with
the peer, and `close` gives the descriptor up before it is closed, so that a failure to close leaves
no socket behind that could be closed again.
-/

namespace UdpTransport

/-- What a new socket is made with. -/
structure SocketOptions where
  family : Int := 2
  reuseAddress : Bool := false
  reusePort : Bool := false
  broadcast : Bool := false
  /-- Whether an IPv6 socket keeps away from IPv4 traffic. -/
  version6Only : Bool := false
  /-- Whether the destination of arrivals is reported. -/
  packetInfo : Bool := true
  receiveBufferSize : Option Int := none
  sendBufferSize : Option Int := none
  deriving DecidableEq, Repr

namespace Socket

/-- A number converted to an unsigned word of 64 bits. -/
def word64 (n : Int) : Nat := (n % Bytes.span 8).toNat

/-- Applies the options of a new socket. -/
def configure (options : SocketOptions) : SocketAct Unit := do
  setNonBlocking true
  if (← current).family = Family.ipv6 then setVersion6Only options.version6Only
  if options.reuseAddress then setReuseAddress true
  if options.reusePort then setReusePort true
  if options.broadcast then setBroadcast true
  match options.receiveBufferSize with
  | some size => setReceiveBufferSize (word64 size)
  | none => pure ()
  match options.sendBufferSize with
  | some size => setSendBufferSize (word64 size)
  | none => pure ()
  if options.packetInfo then setPacketInfo true

/-- Makes a socket. -/
def create (options : SocketOptions) : Act Native Socket := do
  if ¬ (options.family = Family.ipv4 ∨ options.family = Family.ipv6) then
    Act.violate .socketFamily
  let answer ← Native.attemptSocket (.socket options.family Number.datagramType Number.udp)
    (Kernel.socket options.family)
  let fd ← Native.orFail "socket" answer
  match ← (withSocket ⟨fd, options.family.toNat, 0, false, false⟩ (configure options)).capture with
  | .ok (_, socket) =>
    Native.writeLog .debug logTag
      (s!"created fd {fd}" ++ if socket.family = Family.ipv6 then " (AF_INET6)" else " (AF_INET)")
    pure socket
  | .error fault =>
    if fault.isSocketFault then
      let _ ← Native.close fd
    throw fault

/-- The descriptor of a socket that nobody uses any more is closed. -/
def drop (socket : Socket) : Act Native Unit := do
  if socket.isOpen then
    match ← Native.close socket.fd with
    | .value _ => pure ()
    | .failure code =>
      Native.writeLog .warn logTag s!"close() failed for fd {socket.fd}: {systemText code}"

/-- The descriptor of a socket that is about to be replaced is closed without further notice. -/
def vacate (socket : Socket) : Act Native Unit := do
  if socket.isOpen then
    let _ ← Native.close socket.fd

/-- Closes the socket. -/
def close : SocketAct Unit := do
  let socket ← current
  if socket.isOpen then
    change vacated
    let answer ← Native.close socket.fd
    let _ ← Native.orFail "close" answer
    Native.writeLog .debug logTag s!"closed fd {socket.fd}"

/-- The local address as the system knows it. -/
def localAddress : SocketAct Address := do
  let socket ← current
  if socket.isOpen then
    let answer ← Native.perform (.socketName socket.fd) (fun _ => 0) (Kernel.socketName socket.fd)
    let bytes ← Native.orFail "getsockname" answer
    Address.ofNative bytes bytes.length
  else pure .unspecified

/-- The peer as the system knows it, if there is one. -/
def remoteAddress : SocketAct (Option Address) := do
  let socket ← current
  if socket.isOpen && socket.connected then
    let answer ← Native.perform (.peerName socket.fd) (fun _ => 0) (Kernel.peerName socket.fd)
    match answer with
    | .value bytes =>
      let address ← Address.ofNative bytes bytes.length
      pure (some address)
    | .failure code =>
      if code = ErrorCode.notConnected then pure none else throw (.native "getpeername" code)
  else pure none

/-- Notes the local port as the system knows it. -/
def notePort : SocketAct Unit := do
  let address ← localAddress
  change fun socket => { socket with localPort := address.port }

/-- Binds the socket to a local address. -/
def bind (address : Address) : SocketAct Unit := do
  let socket ← requireOpen .bindClosed
  if socket.bound then Act.violate .alreadyBound
  let raw ← address.toNative socket.family
  let answer ← Native.attemptSocket (.bind socket.fd raw) (Kernel.bind socket.fd raw)
  let _ ← Native.orFail "bind" answer
  change fun socket => { socket with bound := true }
  notePort
  let bound ← localAddress
  Native.writeLog .debug logTag s!"fd {socket.fd} bound to {bound.toText}"

/-- Connects the socket to a peer; the system binds it if it is not bound yet. -/
def connect (address : Address) : SocketAct Unit := do
  let socket ← requireOpen .connectClosed
  let raw ← address.toNative socket.family
  let answer ← persist Script.connect
    (Native.attemptSocket (.connect socket.fd raw) (Kernel.connect socket.fd raw))
  let _ ← Native.orFail "connect" answer
  change fun socket => { socket with bound := true, connected := true }
  notePort

/-- Dissolves the association with the peer. Some systems do so and report the family as
unsupported nevertheless. -/
def disconnect : SocketAct Unit := do
  let socket ← current
  if socket.connected then
    let none := Bytes.zeros Address.capacity
    let answer ← Native.attemptSocket (.connect socket.fd none) (Kernel.connect socket.fd none)
    match answer with
    | .value _ => pure ()
    | .failure code =>
      if code = ErrorCode.familyUnsupported then pure () else throw (.native "connect" code)
    change fun socket => { socket with connected := false }

end Socket

end UdpTransport
