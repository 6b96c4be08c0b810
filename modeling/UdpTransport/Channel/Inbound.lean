import UdpTransport.Channel.WriteQueue

/-!
# Read bursts

When something can be received, a channel reads a burst of datagrams (`readReady`). Each datagram
gets a receive buffer of its own and goes to the handler at once; then the handler is told that the
burst is over, and after that what ended it, if a failure did. The burst ends when nothing more is
there, when the receive handle says so, when the channel is closed, or at a failure; a buffer that
was not handed on is given back before the handler hears of the end.

On the way in, a handler may do anything with the channel. Therefore every question is asked of the
state as it is at that moment, and only the allocator and whether the channel was connected are
those of the burst's beginning.
-/

namespace UdpTransport

/-- What a handler is told. -/
inductive Callback where
  /-- A packet, which now belongs to the handler. -/
  | packet (packet : Packet)
  | readComplete
  | failure (fault : Fault)

/-- Reacts to callbacks; it can do anything with the channel and the world around it. -/
abbrev Handler (ε ω : Type) := Callback → SiteAct ε ω Unit

/-- A receive handle that is kept outside of the channel. It follows the settings of the channel
that it was lent to last, or settings of its own. -/
structure LentHandle (ω : Type) where
  get : ω → ReceiveHandle
  set : ReceiveHandle → ω → ω
  /-- Makes the handle follow the settings of the channel that it is lent to. -/
  follow : ω → ω
  /-- Whether reading goes on by itself for the handle, if it does so (or not) for the channel that
  it is lent to. -/
  autoRead : Bool → ω → Bool

/-- The receive handle that a burst works with. -/
inductive HandleSource (ω : Type) where
  | own
  | lent (handle : LentHandle ω)

namespace Channel

variable {ε ω : Type}

/-! ## The receive handle -/

/-- The policy behind an id. -/
def policy (host : Host) (id : PolicyId) : ReceivePolicy :=
  host.policies.getD id { sizing := .fixed ReceivePolicy.defaultSize }

/-- The channel's own receive handle, made anew when the policy was exchanged. -/
def prepareHandle : SiteAct ε ω Unit := do
  let site ← get
  let id := site.channel.config.policy
  unless site.channel.handle.any (·.policy = id) do
    change fun channel =>
      { channel with handle := some (.ofPolicy id (policy site.host id)) }

/-- The receive handle as it is now. -/
def handleNow (source : HandleSource ω) : SiteAct ε ω ReceiveHandle := do
  let site ← get
  match source with
  | .own =>
    let id := site.channel.config.policy
    pure (site.channel.handle.getD (.ofPolicy id (policy site.host id)))
  | .lent handle => pure (handle.get site.outside)

/-- Changes the receive handle. -/
def changeHandle (source : HandleSource ω) (f : ReceiveHandle → ReceiveHandle) :
    SiteAct ε ω Unit := do
  let handle ← handleNow source
  match source with
  | .own => change fun channel => { channel with handle := some (f handle) }
  | .lent lent => modify fun site => { site with outside := lent.set (f handle) site.outside }

/-- Begins a burst with the receive handle, which follows the settings of the channel from now
on. -/
def beginBurst (source : HandleSource ω) : SiteAct ε ω Unit := do
  let site ← get
  let handle ← handleNow source
  changeHandle source (·.reset (policy site.host handle.policy))
  match source with
  | .own => pure ()
  | .lent lent => modify fun site => { site with outside := lent.follow site.outside }
  change fun channel => { channel with burstPackets := 0 }

/-- Whether reading goes on by itself, by the settings that the receive handle follows. -/
def readsOn (source : HandleSource ω) : SiteAct ε ω Bool := do
  let site ← get
  let own := site.channel.config.autoRead
  match source with
  | .own => pure own
  | .lent lent => pure (lent.autoRead own site.outside)

/-! ## One datagram -/

/-- The first component of a buffer that has room. -/
def firstWritable? (buffer : Buffer) : Option Component := buffer.writableComponents.head?

/-- Stores received bytes in the first component that has room, and says how many of them count. -/
def stored (data : Buffer) (bytes : Bytes) (amount : Nat) : Buffer :=
  data.withComponents
    (Buffer.updateFirst Component.isWritable (fun c => (c.poke bytes).commit amount)
      data.components)

/-- Reads a datagram of the connected peer into a buffer. -/
def readInto [Endpoint ε] (data : Buffer) : NativeAct ε (Buffer × Int) := do
  match firstWritable? data with
  | none => pure (data, 0)
  | some c =>
    let access := accessOf c
    let incoming ← Endpoint.read access (clip access c.room)
    if incoming.amount ≤ 0 then pure (stored data incoming.bytes 0, incoming.amount)
    else if incoming.amount.toNat ≤ c.room then
      pure (stored data incoming.bytes incoming.amount.toNat, incoming.amount)
    else Act.violate (.skipWritable incoming.amount.toNat c.room)

/-- Receives a datagram of any sender into a buffer. -/
def receiveInto [Endpoint ε] (data : Buffer) : NativeAct ε (Buffer × Option Received) := do
  match firstWritable? data with
  | none => pure (data, none)
  | some c =>
    let access := accessOf c
    match ← Endpoint.receive access (clip access c.room) with
    | none => pure (data, none)
    | some received => pure (stored data received.bytes 0, some received)

/-- Runs a connected read and says its failures in the words of connected reads. -/
def connectedRead {σ α : Type} (act : Act σ α) : Act σ α := do
  match ← act.capture with
  | .ok a => pure a
  | .error fault => throw fault.ofConnectedRead

/-- The next packet of the connected peer, if one is there. -/
def nextConnected [Endpoint ε] (source : HandleSource ω) (data : Buffer) :
    SiteAct ε ω (Option Packet) := do
  let (data, amount) ← connectedRead (liftM (readInto data : NativeAct ε (Buffer × Int)))
  changeHandle source (·.noteRead amount)
  if amount ≤ 0 then pure none
  else
    let sender ← remoteAddress
    let recipient ← localAddress
    pure (some ⟨data, recipient, sender⟩)

/-- The next packet of any sender, if one is there. -/
def nextUnconnected [Endpoint ε] (source : HandleSource ω) (data : Buffer) :
    SiteAct ε ω (Option Packet) := do
  let (data, received?) ← (receiveInto data : NativeAct ε (Buffer × Option Received))
  match received? with
  | none =>
    changeHandle source (·.noteRead (-1))
    pure none
  | some received =>
    let recipient ← match received.local? with
      | some address => pure (some address)
      | none => localAddress
    changeHandle source (·.noteRead received.amount)
    let data ← data.skipWritable (Socket.word64 received.amount)
    pure (some ⟨data, recipient, some received.sender⟩)

/-- Tells the handler something, and writes down that it was told. -/
def tell (handler : Handler ε ω) (callback : Callback) : SiteAct ε ω Unit := do
  let name := (← current).name
  match callback with
  | .packet packet => Native.record (.packet name packet.view)
  | .readComplete => Native.record (.readComplete name)
  | .failure fault => Native.record (.failure name fault)
  handler callback

/-- Whether the burst goes on after a datagram. -/
def goesOn [Endpoint ε] (source : HandleSource ω) : SiteAct ε ω Bool := do
  if ← isOpen then
    let site ← get
    let handle ← handleNow source
    pure (handle.continues (policy site.host handle.policy) (← readsOn source) (some true))
  else pure false

/-- Reads one datagram into a fresh buffer, which is given back unless it makes a packet. -/
def fetch [Endpoint ε] (source : HandleSource ω) (allocator : AllocatorId) (connected : Bool) :
    SiteAct ε ω (Option Packet) := do
  let size := (← handleNow source).guess
  let data ← Ledger.allocate allocator size.toNat
  changeHandle source (·.attempt (min data.room maxInt32))
  let next : SiteAct ε ω (Option Packet) :=
    if connected then nextConnected source data else nextUnconnected source data
  match ← next.capture with
  | .error fault =>
    Ledger.discard data
    throw fault
  | .ok none =>
    Ledger.discard data
    pure none
  | .ok (some packet) => pure (some packet)

/-- Hands a packet on; says whether the burst goes on. -/
def handOn [Endpoint ε] (handler : Handler ε ω) (source : HandleSource ω) (packet : Packet) :
    SiteAct ε ω Bool := do
  changeHandle source (·.count 1)
  change fun channel =>
    { channel with readPending := false, burstPackets := channel.burstPackets + 1 }
  tell handler (.packet packet)
  goesOn source

/-- Reads one datagram and hands it on; says whether the burst goes on. -/
def readOne [Endpoint ε] (handler : Handler ε ω) (source : HandleSource ω)
    (allocator : AllocatorId) (connected : Bool) : SiteAct ε ω Bool := do
  match ← fetch source allocator connected with
  | none => pure false
  | some packet => handOn handler source packet

/-! ## The burst -/

/-- A number of datagrams that no burst reaches beyond the limit of its receive handle. A handler
that begins bursts of its own resets the count of the handle, and so could go on for longer. -/
abbrev burstBound : Nat := 4294967296

/-- Reads datagrams until the burst is over. -/
def readAll [Endpoint ε] (handler : Handler ε ω) (source : HandleSource ω)
    (allocator : AllocatorId) (connected : Bool) : (bound : Nat) → SiteAct ε ω Unit
  | 0 => pure ()
  | bound + 1 => do
    if ← readOne handler source allocator connected then
      readAll handler source allocator connected bound

/-- Whether nothing is read although something could be received. -/
def holdsBack [Endpoint ε] : SiteAct ε ω Bool := do
  if ← isOpen then return (← current).config.suspended else return true

/-- What is done at the end of every burst, however it went. -/
def settleInterest : SiteAct ε ω Unit := do
  let channel ← current
  if !channel.readPending && !channel.config.autoRead then setReadInterest false
  Native.writeLog .debug logTag
    s!"read burst delivered {(← current).burstPackets} packet(s)"

/-- The datagrams of a burst, and the callbacks that report its end. -/
def burst [Endpoint ε] (handler : Handler ε ω) (source : HandleSource ω)
    (allocator : AllocatorId) : SiteAct ε ω Unit := do
  let connected := (← current).connected
  let limit := (← handleNow source).limit.toNat
  let result ← (readAll handler source allocator connected (limit + burstBound) :
    SiteAct ε ω Unit).capture
  match result with
  | .ok _ => pure ()
  | .error _ =>
    Native.writeLog .debug logTag
      s!"read burst ended by an exception after {(← current).burstPackets} packet(s)"
  changeHandle source ReceiveHandle.complete
  tell handler .readComplete
  match result with
  | .ok _ => if (← current).config.autoRead then read
  | .error fault => tell handler (.failure fault)

/-- Reads a burst with a given receive handle. -/
def readReadyWith [Endpoint ε] (handler : Handler ε ω) (source : HandleSource ω) :
    SiteAct ε ω Unit := do
  if ← holdsBack then setReadInterest false
  else
    let allocator := (← current).config.allocator
    beginBurst source
    (burst handler source allocator).ensuring settleInterest

/-- Reads a burst with the channel's own receive handle. -/
def readReady [Endpoint ε] (handler : Handler ε ω) : SiteAct ε ω Unit := do
  prepareHandle
  readReadyWith handler .own

end Channel

end UdpTransport
