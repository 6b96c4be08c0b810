import UdpTransport.Scenario.World

/-!
# Steps on sockets

What an operation changed in a socket before it failed stays changed, as with any operation.
-/

namespace UdpTransport.Scenario.World

/-- Changes a socket without replacing it. -/
def setSocket (name : String) (socket : Socket) : WorldAct Unit :=
  arrange fun bench => { bench with sockets := bench.sockets.put name socket }

/-- Stores a socket; the descriptor of the one of that name is closed. -/
def storeSocket (name : String) (socket : Socket) : WorldAct Unit := do
  let before := (← bench).sockets.get? name
  setSocket name socket
  match before with
  | some before => (before.drop : Act Native Unit)
  | none => pure ()

/-- Runs an operation of a socket. -/
def onSocket {α : Type} (name : String) (act : SocketAct α) : WorldAct α := do
  let socket ← find Bench.sockets name
  let run : Act Native (Except Fault α × Socket) := fun native =>
    match act (socket, native) with
    | .ok a (after, native) => .ok (.ok a, after) native
    | .error fault (after, native) => .ok (.error fault, after) native
  let (result, after) ← run
  setSocket name after
  Act.ofExcept result

/-- Moves the descriptor of a socket out of its name. -/
def takeSocket (name : String) : WorldAct Socket := do
  let socket ← find Bench.sockets name
  setSocket name socket.vacated
  pure socket

/-- Runs an operation and gives its result as a value. -/
def valueOf {α : Type} (name : String) (wrap : α → Value) (act : SocketAct α) :
    WorldAct Reply := do
  return { result := some (wrap (← onSocket name act)) }

/-- Runs an operation without result. -/
def plainly (name : String) (act : SocketAct Unit) : WorldAct Reply := do
  onSocket name act
  pure {}

/-- Applies a setting. -/
def applySetting : OptionSetting → SocketAct Unit
  | .reuseAddress on => Socket.setReuseAddress on
  | .reusePort on => Socket.setReusePort on
  | .broadcast on => Socket.setBroadcast on
  | .version6Only on => Socket.setVersion6Only on
  | .nonBlocking on => Socket.setNonBlocking on
  | .packetInfo on => Socket.setPacketInfo on
  | .receiveBufferSize size => Socket.setReceiveBufferSize size
  | .sendBufferSize size => Socket.setSendBufferSize size
  | .segmentSize size => Socket.setSegmentSize size

/-- Reads a setting. -/
def readSetting : OptionQuery → SocketAct Value
  | .reuseAddress => do return .flag (← Socket.getReuseAddress)
  | .reusePort => do return .flag (← Socket.getReusePort)
  | .broadcast => do return .flag (← Socket.getBroadcast)
  | .version6Only => do return .flag (← Socket.getVersion6Only)
  | .nonBlocking => do return .flag (← Socket.getNonBlocking)
  | .receiveBufferSize => do return .number (← Socket.getReceiveBufferSize)
  | .sendBufferSize => do return .number (← Socket.getSendBufferSize)
  | .segmentSize => do return .number (← Socket.getSegmentSize)

/-- Finds a socket and memory to receive into. -/
def demandRoom (name : String) (size : Nat) : WorldAct Unit := do
  let _ ← find Bench.sockets name
  if Ledger.largestBlock < size then throw .outOfMemory

/-- Performs a step on a socket that is still there afterwards. -/
def socketReply (name : String) : SocketStep → WorldAct Reply
  | .make options => do
    let made ← (Socket.create options : Act Native Socket)
    storeSocket name made
    pure {}
  | .drop => pure {}
  | .view => do
    let _ ← find Bench.sockets name
    pure {}
  | .moveNew source => do
    let moved ← takeSocket source
    storeSocket name moved
    pure {}
  | .move source => do
    let _ ← find Bench.sockets source
    let before ← find Bench.sockets name
    if name ≠ source then
      (before.vacate : Act Native Unit)
      let moved ← takeSocket source
      setSocket name moved
    pure {}
  | .bind address => do
    let _ ← find Bench.sockets name
    let address ← address.make
    plainly name (Socket.bind address)
  | .connect address => do
    let _ ← find Bench.sockets name
    let address ← address.make
    plainly name (Socket.connect address)
  | .disconnect => plainly name Socket.disconnect
  | .close => plainly name Socket.close
  | .localAddress => valueOf name (fun address => .address (some address)) Socket.localAddress
  | .remoteAddress => valueOf name .address Socket.remoteAddress
  | .read size length => do
    demandRoom name size
    let incoming ← onSocket name (length.elim (Socket.read size) Socket.readAddress)
    pure
      { result := some (.number incoming.amount)
        memory := some (Bytes.fit size incoming.bytes) }
  | .receive size length => do
    demandRoom name size
    let received ← onSocket name (length.elim (Socket.receive size) Socket.receiveAddress)
    pure
      { result := some (.arrival received)
        memory := some (Bytes.fit size (received.elim [] Received.bytes)) }
  | .send bytes length recipient segmentSize => do
    let _ ← find Bench.sockets name
    let recipient ← AddressSpec.make? recipient
    valueOf name .number
      (length.elim (Socket.send bytes recipient segmentSize) fun length =>
        Socket.sendAddress bytes length recipient segmentSize)
  | .sendGather parts recipient segmentSize => do
    let _ ← find Bench.sockets name
    let recipient ← AddressSpec.make? recipient
    let (_, regions) := (Gather.empty Gather.maxReported).addAll (parts.map Region.ofBytes)
    valueOf name .number (Socket.sendGather regions recipient segmentSize)
  | .set setting => plainly name (applySetting setting)
  | .get query => valueOf name id (readSetting query)
  | .setNumber level option value => plainly name (Socket.setOption level option value)
  | .getNumber level option => valueOf name .number (Socket.getOption level option)
  | .setBytes level option value length =>
    plainly name (Socket.setOptionBytes level option value length)
  | .getBytes level option room =>
    valueOf name .option (Socket.getOptionBytes level option room)

/-- Performs a step on a socket, and shows the socket. -/
def performSocket (name : String) : SocketStep → WorldAct Reply
  | .drop => do
    let before := (← bench).sockets.get? name
    arrange fun bench => { bench with sockets := bench.sockets.erase name }
    match before with
    | some socket => (socket.drop : Act Native Unit)
    | none => pure ()
    pure {}
  | step => do
    let reply ← socketReply name step
    let socket ← find Bench.sockets name
    pure { reply with socket := some socket }

end UdpTransport.Scenario.World
