import UdpTransport.Socket.Basic

/-!
# Socket options

Options are numbers of 32 bits, or bytes where a caller wants them so. Some options exist on IPv6
sockets only; before they are touched the system is asked for the family that the socket was made
with. Reporting the destination of arrivals on an IPv6 socket concerns both families, and a failure
for IPv4 is tolerated if the socket carries no IPv4 traffic (`setPacketInfo`).
-/

namespace UdpTransport.Socket

/-- Fails with a violation unless the socket is open. -/
def requireOpen (rule : Violation) : SocketAct Socket := do
  let socket ← current
  if socket.isOpen then pure socket else Act.violate rule

/-- Sets an option to the first `length` bytes of some memory. -/
def setOptionBytes (level name : Int) (value : Option Bytes) (length : Nat) : SocketAct Unit := do
  let socket ← requireOpen .setOptionClosed
  match value with
  | none => Act.violate .setOptionEmpty
  | some bytes =>
    if length = 0 then Act.violate .setOptionEmpty
    else
      let bytes := Bytes.fit length bytes
      let answer ← Native.attemptStatus (.setOption socket.fd level name bytes)
        (Kernel.setOption socket.fd level name bytes)
      let _ ← Native.orFail "setsockopt" answer

/-- Sets an option to a number. -/
def setOption (level name value : Int) : SocketAct Unit :=
  setOptionBytes level name (some (Kernel.optionValue value)) 4

/-- Reads an option into `room` bytes, if there is a place to store it and a length. -/
def getOptionBytes (level name : Int) (room : Option Nat) : SocketAct Bytes := do
  let socket ← requireOpen .getOptionClosed
  match room with
  | none | some 0 => Act.violate .getOptionEmpty
  | some room =>
    let answer ← Native.perform (.getOption socket.fd level name) (fun _ => 0)
      (Kernel.getOption socket.fd level name room)
    Native.orFail "getsockopt" answer

/-- Reads an option as a number. -/
def getOption (level name : Int) : SocketAct Int := do
  let bytes ← getOptionBytes level name (some 4)
  return Number.narrow (Bytes.littleEndian (Bytes.fit 4 bytes))

/-- Switches an option. -/
def setSwitch (level name : Int) (on : Bool) : SocketAct Unit :=
  setOption level name (if on then 1 else 0)

/-- Reads an option that is on or off. -/
def getSwitch (level name : Int) : SocketAct Bool := do
  return (← getOption level name) ≠ 0

/-- Says whether an address may be bound again while old traffic may still arrive. -/
def setReuseAddress : Bool → SocketAct Unit := setSwitch Number.socketLevel Number.reuseAddress

/-- Whether an address may be bound again. -/
def getReuseAddress : SocketAct Bool := getSwitch Number.socketLevel Number.reuseAddress

/-- Says whether several sockets may share one port. -/
def setReusePort : Bool → SocketAct Unit := setSwitch Number.socketLevel Number.reusePort

/-- Whether several sockets may share one port. -/
def getReusePort : SocketAct Bool := getSwitch Number.socketLevel Number.reusePort

/-- Says whether the socket may send to everyone on its network. -/
def setBroadcast : Bool → SocketAct Unit := setSwitch Number.socketLevel Number.broadcast

/-- Whether the socket may send to everyone on its network. -/
def getBroadcast : SocketAct Bool := getSwitch Number.socketLevel Number.broadcast

/-- A size of a system buffer, which has to be a positive 32-bit number. -/
def checkedSize (setting : Setting) (size : Nat) : Except Fault Int :=
  if 0 < size ∧ size ≤ maxInt32 then .ok size else .error (.violation (.outside setting size))

/-- Sizes the system buffer of arrivals. -/
def setReceiveBufferSize (size : Nat) : SocketAct Unit := do
  let value ← checkedSize .receiveBufferSize size
  setOption Number.socketLevel Number.receiveBuffer value

/-- The size of the system buffer of arrivals. -/
def getReceiveBufferSize : SocketAct Int := getOption Number.socketLevel Number.receiveBuffer

/-- Sizes the system buffer of departures. -/
def setSendBufferSize (size : Nat) : SocketAct Unit := do
  let value ← checkedSize .sendBufferSize size
  setOption Number.socketLevel Number.sendBuffer value

/-- The size of the system buffer of departures. -/
def getSendBufferSize : SocketAct Int := getOption Number.socketLevel Number.sendBuffer

/-- The family that the socket was made with, as the system knows it. -/
def systemFamily : SocketAct Int := do
  let _ ← requireOpen .familyClosed
  getOption Number.socketLevel Number.domain

/-- Says whether an IPv6 socket keeps away from IPv4 traffic. -/
def setVersion6Only (on : Bool) : SocketAct Unit := do
  let family ← systemFamily
  if family ≠ Family.ipv6 then Act.violate .setVersion6OnlyFamily
  else setSwitch Number.ipv6Level Number.version6Only on

/-- Whether an IPv6 socket keeps away from IPv4 traffic. -/
def getVersion6Only : SocketAct Bool := do
  let family ← systemFamily
  if family ≠ Family.ipv6 then Act.violate .getVersion6OnlyFamily
  else getSwitch Number.ipv6Level Number.version6Only

/-- Reads the flags of the descriptor. -/
def readFlags (fd : Int) : SocketAct Nat := do
  let answer ← Native.attemptStatus (.getFlags fd) (Kernel.getFlags fd)
  let flags ← Native.orFail "fcntl" answer
  return flags.toNat

/-- Says whether calls wait. -/
def setNonBlocking (on : Bool) : SocketAct Unit := do
  let socket ← requireOpen .setNonBlockingClosed
  let flags ← readFlags socket.fd
  let others := flags - (flags &&& Number.nonBlocking)
  let flags : Int := if on then (others + Number.nonBlocking : Nat) else others
  let answer ← Native.attemptStatus (.setFlags socket.fd flags) (Kernel.setFlags socket.fd flags)
  let _ ← Native.orFail "fcntl" answer

/-- Whether calls return at once. -/
def getNonBlocking : SocketAct Bool := do
  let socket ← requireOpen .getNonBlockingClosed
  let flags ← readFlags socket.fd
  return flags &&& Number.nonBlocking ≠ 0

/-- Says in which segments the system cuts every large send; zero leaves sends whole. -/
def setSegmentSize (size : Int) : SocketAct Unit :=
  if size < 0 ∨ maxSegmentSize < size then Act.violate .segmentOptionRange
  else setOption Number.udp Number.segment size

/-- The size of the segments that the system cuts every large send into. -/
def getSegmentSize : SocketAct Int := getOption Number.udp Number.segment

/-- Says whether the system reports the address that an arrival was sent to. -/
def setPacketInfo (on : Bool) : SocketAct Unit := do
  let value : Int := if on then 1 else 0
  let family ← systemFamily
  if family = Family.ipv6 then
    setOption Number.ipv6Level Number.receivePacketInfo6 value
    let socket ← current
    let bytes := Kernel.optionValue value
    let answer ← Native.attemptStatus
      (.setOption socket.fd Number.ipv4Level Number.packetInfo4 bytes)
      (Kernel.setOption socket.fd Number.ipv4Level Number.packetInfo4 bytes)
    match answer with
    | .value _ => pure ()
    | .failure code =>
      let version6Only ← getVersion6Only
      if version6Only then pure () else throw (.native "setsockopt" code)
  else setOption Number.ipv4Level Number.packetInfo4 value

end UdpTransport.Socket
