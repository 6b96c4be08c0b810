import UdpTransport.Socket.Lifecycle

/-!
# Sending and receiving

Interrupted calls are repeated. A call that would have to wait is no failure: a receive gives
nothing and a send gives zero. Everything else that goes wrong is a fault with the name of the call.

A receive with addresses reports the sender, and the local address that the datagram was sent to if
a control message says it (`localOfControl`); such an address is completed by the local port that
the socket noted. A positive segment size travels with the send as a control message.
-/

namespace UdpTransport.Socket

/-- A length that callers give as a signed number. -/
def checkedLength (length : Int) : Except Fault Nat :=
  if length < 0 then .error (.violation (.below .length length 0)) else .ok length.toNat

/-- Room for the control messages of one arrival. -/
abbrev controlRoom : Nat := 40

/-- Reads a datagram of the connected peer into `room` bytes. -/
def read (room : Nat) : SocketAct Incoming := do
  let socket ← current
  let answer ← persist Script.receive
    (Native.perform (.receive socket.fd room 0) (fun bytes => bytes.length) (Kernel.receive room))
  match answer with
  | .value bytes => pure ⟨bytes, bytes.length⟩
  | .failure code => if isWouldBlock code then pure ⟨[], 0⟩ else throw (.native "recv" code)

/-- Reads a datagram into memory at an address. -/
def readAddress (length : Int) : SocketAct Incoming := do
  let room ← checkedLength length
  read room

/-- The local address that an IPv6 control message reports. -/
def reported6 (port : Nat) (host : Bytes) (scope : Nat) : Address :=
  if Address.isMapped host then .ofHost4 port (host.drop 12)
  else .ofHost6 port host (if Address.isLinkLocal host then scope else 0)

/-- The local address that the first fitting control message reports. -/
def localOfControl (port : Nat) : List ControlView → Option Address
  | [] => none
  | view :: rest =>
    if view.level = Number.ipv4Level ∧ view.type = Number.packetInfo4 then
      some (.ofHost4 port (Bytes.window view.memory 8 4))
    else if view.level = Number.ipv6Level ∧ view.type = Number.packetInfo6 then
      some (reported6 port (Bytes.window view.memory 0 16)
        (Bytes.littleEndian (Bytes.window view.memory 16 4)))
    else localOfControl port rest

/-- Receives a datagram of any sender into `room` bytes. -/
def receive (room : Nat) : SocketAct (Option Received) := do
  let socket ← current
  let answer ← persist Script.receiveMessage
    (Native.perform (.receiveMessage socket.fd room Address.capacity controlRoom 0)
      (fun reception => reception.bytes.length) (Kernel.receiveMessage room controlRoom))
  match answer with
  | .value reception =>
    if reception.truncated then
      Native.writeLog .debug logTag s!"datagram truncated to {room} bytes"
    let sender ← Address.ofNative reception.sender reception.sender.length
    pure (some
      { bytes := reception.bytes
        amount := reception.bytes.length
        sender := sender
        local? := localOfControl socket.localPort (ControlMessage.views reception.control) })
  | .failure code => if isWouldBlock code then pure none else throw (.native "recvmsg" code)

/-- Receives a datagram of any sender into memory at an address. -/
def receiveAddress (length : Int) : SocketAct (Option Received) := do
  let room ← checkedLength length
  receive room

/-- Whether sends can be cut into segments by the system. -/
abbrev segmentsSupported : Bool := true

/-- The control message that asks for segments, if the segment size does. -/
def segmentControl (segmentSize : Int) : Except Fault (Option SegmentControl) :=
  if segmentSize ≤ 0 then .ok none
  else if (maxSegmentSize : Int) < segmentSize then
    .error (.violation (.above .segmentSize segmentSize maxSegmentSize))
  else .ok (some
    { room := 24
      length := 18
      level := Number.udp
      type := Number.segment
      data := Bytes.encodeLittle 2 segmentSize.toNat })

/-- Sends regions as one datagram, or as several of equal size; gives the number of bytes taken. -/
def sendRegions (regions : List Region) (recipient : Option Address) (segmentSize : Int) :
    SocketAct Int := do
  let socket ← current
  let raw ← recipient.mapM fun address => address.toNative socket.family
  let control ← segmentControl segmentSize
  let answer ← persist Script.sendMessage
    (Native.perform (.sendMessage socket.fd raw regions control Number.noSignal) id
      (Kernel.sendMessage regions))
  match answer with
  | .value amount => pure amount
  | .failure code => if isWouldBlock code then pure 0 else throw (.native "sendmsg" code)

/-- Sends one stretch of memory. -/
def send (bytes : Bytes) (recipient : Option Address) (segmentSize : Int) : SocketAct Int := do
  let amount ← sendRegions [.ofBytes bytes] recipient segmentSize
  return Number.narrow amount

/-- Sends the first `length` bytes of memory at an address. -/
def sendAddress (memory : Bytes) (length : Int) (recipient : Option Address)
    (segmentSize : Int) : SocketAct Int := do
  let length ← checkedLength length
  send (Bytes.fit length memory) recipient segmentSize

/-- Sends the regions of a gather. -/
def sendGather (gather : Gather) (recipient : Option Address) (segmentSize : Int) :
    SocketAct Int :=
  sendRegions gather.regions recipient segmentSize

end UdpTransport.Socket
