import UdpTransport.Endpoint.Basic

/-!
# In-memory endpoints

An endpoint that never leaves the machine: datagrams to receive and results of sends are laid down
beforehand. Beyond the results laid down, a send takes up to `accept` bytes, or all of them if that
number is negative, and a gather is taken whole unless another result is set for all gathers. Every
request is written into the journal. The result of a single stretch of memory is a number of 32
bits, whatever was laid down.

`ChannelEndpoint` is what a channel runs on: a socket or an in-memory endpoint.
-/

namespace UdpTransport

/-- The outcome of a send, laid down beforehand. -/
inductive SendOutcome where
  | taken (amount : Int)
  | failed (fault : Fault)
  deriving DecidableEq, Repr

/-- What a receive finds, laid down beforehand. -/
inductive Inbound where
  | failed (fault : Fault)
  | nothing
  /-- A datagram; `reported` replaces the number of bytes that were stored. -/
  | datagram (bytes : Bytes) (sender : Address) (local? : Option Address) (reported : Option Int)
  deriving DecidableEq, Repr

/-- Operations of an endpoint that can be made to fail once. -/
inductive EndpointStep where
  | bind
  | connect
  | disconnect
  | close
  deriving DecidableEq, Repr

/-- An endpoint without a network. -/
structure MemoryEndpoint where
  /-- The channel that the endpoint belongs to. -/
  channel : String
  accept : Int := -1
  gatherResult : Option Int := none
  results : List SendOutcome := []
  inbound : List Inbound := []
  failures : List (EndpointStep × Fault) := []
  localAddress : Address := .loopback 4000 Family.ipv4
  remote : Option Address := none
  isOpen : Bool := true
  deriving DecidableEq, Repr

namespace MemoryEndpoint

/-- An operation of an in-memory endpoint. -/
abbrev MemoryAct (α : Type) := NativeAct MemoryEndpoint α

/-- The endpoint that an operation works on. -/
def current : MemoryAct MemoryEndpoint := do return (← get).1

/-- Changes the endpoint that an operation works on. -/
def change (f : MemoryEndpoint → MemoryEndpoint) : MemoryAct Unit :=
  modify fun s => (f s.1, s.2)

/-- Fails if a failure was laid down for this step, and forgets the failure. -/
def failIfAsked (step : EndpointStep) : MemoryAct Unit := do
  match (← current).failures.lookup step with
  | none => pure ()
  | some fault =>
    change fun endpoint =>
      { endpoint with failures := endpoint.failures.filter (·.1 ≠ step) }
    throw fault

/-- The number of bytes taken where no result is laid down. -/
def ownResult (endpoint : MemoryEndpoint) (payload : Payload) : Int :=
  let total : Int := payload.toBytes.length
  match payload with
  | .gather _ => endpoint.gatherResult.getD total
  | .single .. => if endpoint.accept < 0 then total else min total endpoint.accept

/-- Takes a datagram to send. -/
def send (request : SendRequest) : MemoryAct Int := do
  let endpoint ← current
  match endpoint.results with
  | [] =>
    let amount := endpoint.ownResult request.payload
    Native.record (.send endpoint.channel request (some amount))
    pure amount
  | outcome :: rest =>
    change fun endpoint => { endpoint with results := rest }
    match outcome with
    | .taken amount =>
      Native.record (.send endpoint.channel request (some amount))
      match request.payload with
      | .gather _ => pure amount
      | .single .. => pure (Number.narrow amount)
    | .failed fault =>
      Native.record (.send endpoint.channel request none)
      throw fault

/-- Takes the next item that was laid down to be received. -/
def nextInbound (connected : Bool) (access : Access) (room : Nat) : MemoryAct Inbound := do
  let endpoint ← current
  Native.record (.receive endpoint.channel connected access room)
  if ¬ endpoint.isOpen then
    throw (.native (if connected then "recv" else "recvmsg") ErrorCode.badDescriptor)
  match endpoint.inbound with
  | [] => pure .nothing
  | item :: rest =>
    change fun endpoint => { endpoint with inbound := rest }
    pure item

/-- Takes a datagram of the connected peer. -/
def read (access : Access) (room : Nat) : MemoryAct Incoming := do
  match ← nextInbound true access room with
  | .failed fault => throw fault
  | .nothing => pure ⟨[], 0⟩
  | .datagram bytes _ _ reported =>
    let stored := bytes.take room
    pure ⟨stored, reported.getD stored.length⟩

/-- Takes a datagram of any sender. -/
def receive (access : Access) (room : Nat) : MemoryAct (Option Received) := do
  match ← nextInbound false access room with
  | .failed fault => throw fault
  | .nothing => pure none
  | .datagram bytes sender local? reported =>
    let stored := bytes.take room
    pure (some
      { bytes := stored
        amount := reported.getD stored.length
        sender := sender
        local? := local? })

instance : Endpoint MemoryEndpoint where
  isOpen := isOpen
  descriptor _ := Socket.noDescriptor
  localAddress := do return (← current).localAddress
  remoteAddress := do return (← current).remote
  bind address := do
    Native.record (.bind (← current).channel address)
    failIfAsked .bind
    change fun endpoint => { endpoint with localAddress := address }
  connect address := do
    Native.record (.connect (← current).channel address)
    failIfAsked .connect
    change fun endpoint => { endpoint with remote := some address }
  disconnect := do
    Native.record (.disconnect (← current).channel)
    failIfAsked .disconnect
    change fun endpoint => { endpoint with remote := none }
  close := do
    Native.record (.close (← current).channel)
    change fun endpoint => { endpoint with isOpen := false }
    failIfAsked .close
  send := send
  read := read
  receive := receive
  drop := pure ()

end MemoryEndpoint

/-- What a channel runs on. -/
inductive ChannelEndpoint where
  | memory (endpoint : MemoryEndpoint)
  | socket (socket : Socket)
  deriving DecidableEq, Repr

namespace ChannelEndpoint

/-- An operation for each of the two kinds of endpoint. -/
def either {α : Type} (onMemory : NativeAct MemoryEndpoint α) (onSocket : SocketAct α) :
    NativeAct ChannelEndpoint α := fun s =>
  match s with
  | (memory endpoint, native) =>
    match onMemory.run (endpoint, native) with
    | .ok a (endpoint, native) => .ok a (memory endpoint, native)
    | .error fault (endpoint, native) => .error fault (memory endpoint, native)
  | (socket endpoint, native) =>
    match onSocket.run (endpoint, native) with
    | .ok a (endpoint, native) => .ok a (socket endpoint, native)
    | .error fault (endpoint, native) => .error fault (socket endpoint, native)

instance : Endpoint ChannelEndpoint where
  isOpen
    | memory endpoint => Endpoint.isOpen endpoint
    | socket endpoint => Endpoint.isOpen endpoint
  descriptor
    | memory endpoint => Endpoint.descriptor endpoint
    | socket endpoint => Endpoint.descriptor endpoint
  localAddress := either Endpoint.localAddress Endpoint.localAddress
  remoteAddress := either Endpoint.remoteAddress Endpoint.remoteAddress
  bind address := either (Endpoint.bind address) (Endpoint.bind address)
  connect address := either (Endpoint.connect address) (Endpoint.connect address)
  disconnect := either Endpoint.disconnect Endpoint.disconnect
  close := either Endpoint.close Endpoint.close
  send request := either (Endpoint.send request) (Endpoint.send request)
  read access room := either (Endpoint.read access room) (Endpoint.read access room)
  receive access room := either (Endpoint.receive access room) (Endpoint.receive access room)
  drop := either Endpoint.drop Endpoint.drop

end ChannelEndpoint

end UdpTransport
