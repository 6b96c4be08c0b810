import UdpTransport.EventLoop.Dispatch
import UdpTransport.Scenario.Report
import UdpTransport.Scenario.Step

/-!
# The world of a scenario

The objects that steps name, beside the channels: a `Bench` holds them under their names, together
with what handlers are to do (`Scripts`), the packets that handlers have in hand, and the numbers
under which futures were handed out. The whole world is a transport around a bench.

An object that is stored under a name replaces the one that was there, whose memory is given back
only then, so a failure on the way leaves the old object in place.
-/

namespace UdpTransport.Scenario

/-- The settings that tell a receive handle whether reading goes on by itself. -/
inductive HandleSettings where
  /-- None yet; reading goes on. -/
  | none
  /-- Those that are kept with the handle. -/
  | own
  /-- Those of a channel. -/
  | channel (name : String)
  deriving DecidableEq, Repr

/-- A receive handle that belongs to no channel. -/
structure HeldHandle where
  handle : ReceiveHandle
  autoRead : Bool := true
  settings : HandleSettings := .none
  deriving DecidableEq, Repr

/-- Whether reading goes on by itself for a receive handle; `channel` says so for the channels that
are there. -/
def HeldHandle.readsOn (held : HeldHandle) (channel : String → Option Bool) : Bool :=
  match held.settings with
  | .none => true
  | .own => held.autoRead
  | .channel name => (channel name).getD true

/-- How a receive handle looks. -/
def HeldHandle.view (held : HeldHandle) : HandleView :=
  ⟨held.handle.guess, held.handle.last, held.handle.attempted⟩

/-- What a handler does at its next callbacks. -/
structure Scripts where
  packet : List (List Step) := []
  complete : List (List Step) := []
  failure : List (List Step) := []

/-- The objects of a scenario, its channels apart. -/
structure Bench where
  allocators : Named AllocatorId := {}
  buffers : Named Buffer := {}
  messages : Named Message := {}
  gathers : Named Gather := {}
  policies : Named PolicyId := {}
  handles : Named HeldHandle := {}
  sockets : Named Socket := {}
  loops : Named LoopId := {}
  /-- The handlers of channels; a name has one as soon as a channel of that name was asked for. -/
  handlers : Named Scripts := {}
  /-- The packets that handlers have in hand, the innermost first. -/
  inHand : List Packet := []
  /-- How many futures were handed out. -/
  handedOut : Nat := 0
  /-- The futures handed out and not reported yet, with their numbers. -/
  awaited : List (Nat × Ticket) := []
  /-- The counts of allocators as last reported. -/
  reported : Named (Nat × Nat) := {}

/-- The world of a scenario. -/
abbrev World := Transport Bench

/-- An operation on the world of a scenario. -/
abbrev WorldAct (α : Type) := TransportAct Bench α

namespace World

/-- The objects of the scenario. -/
def bench : WorldAct Bench := do return (← get).outside

/-- Changes the objects of the scenario. -/
def arrange (f : Bench → Bench) : WorldAct Unit :=
  modify fun world => { world with outside := f world.outside }

/-- The object of a name. -/
def find {α : Type} (shelf : Bench → Named α) (name : String) : WorldAct α := do
  match (shelf (← bench)).get? name with
  | some object => pure object
  | none => throw (.noObject name)

/-! ## Allocators and buffers -/

/-- The allocator of a name. -/
def allocator (name : String) : WorldAct AllocatorId := find Bench.allocators name

/-- The buffer of a name. -/
def buffer (name : String) : WorldAct Buffer := find Bench.buffers name

/-- Changes a buffer without replacing it. -/
def setBuffer (name : String) (buffer : Buffer) : WorldAct Unit :=
  arrange fun bench => { bench with buffers := bench.buffers.put name buffer }

/-- Stores a buffer; the one of that name is given back. -/
def storeBuffer (name : String) (buffer : Buffer) : WorldAct Unit := do
  let before := ((← bench).buffers.get? name).getD .closed
  setBuffer name buffer
  Ledger.discard before

/-- Takes the content of a buffer away. -/
def takeBuffer (name : String) : WorldAct Buffer := do
  let content ← buffer name
  setBuffer name .closed
  pure content

/-- Runs an operation that changes a buffer and gives a result. -/
def onBuffer {α : Type} (name : String) (act : Buffer → Except Fault (α × Buffer)) :
    WorldAct α := do
  let before ← buffer name
  let (a, after) ← act before
  setBuffer name after
  pure a

/-- Gives the memory of a buffer back if an operation on it fails. -/
def orDiscard {α : Type} (buffer : Buffer) (act : Except Fault α) : WorldAct α := do
  match act with
  | .ok a => pure a
  | .error fault =>
    Ledger.discard buffer
    throw fault

/-! ## Messages -/

/-- The message of a name. -/
def message (name : String) : WorldAct Message := find Bench.messages name

/-- Changes a stored message without replacing it. -/
def setMessage (name : String) (message : Message) : WorldAct Unit :=
  arrange fun bench => { bench with messages := bench.messages.put name message }

/-- Stores a message; the one of that name is given back. -/
def storeMessage (name : String) (message : Message) : WorldAct Unit := do
  let before := ((← bench).messages.get? name).getD .empty
  setMessage name message
  Ledger.discard before.content

/-! ## Policies -/

/-- Adds a receive policy. -/
def addPolicy (policy : ReceivePolicy) : WorldAct PolicyId := do
  let host := (← get).host
  modify fun world => { world with host := { host with policies := host.policies ++ [policy] } }
  pure host.policies.length

/-- The policy behind an id. -/
def policy (id : PolicyId) : WorldAct ReceivePolicy := do
  return Channel.policy (← get).host id

/-- Changes a policy in place, for everybody who uses it. -/
def setPolicy (id : PolicyId) (policy : ReceivePolicy) : WorldAct Unit :=
  modify fun world =>
    { world with host := { world.host with policies := world.host.policies.set id policy } }

/-! ## Channels -/

/-- Fails unless a channel of this name was ever asked for. -/
def known (name : String) : WorldAct Unit := do
  let _ ← find Bench.handlers name

/-- The channel of a name. -/
def station (name : String) : WorldAct Station := do
  known name
  Transport.station name

/-- Runs an operation of a channel. -/
def onChannel {α : Type} (name : String) (act : StationAct Bench α) : WorldAct α := do
  known name
  Transport.on name act

/-- What can be seen of a channel, if it is there. -/
def channelView (name : String) : WorldAct (Option ChannelView) := do
  let world ← get
  return (world.stations.get? name).map fun station =>
    { isOpen := Endpoint.isOpen station.endpoint
      isActive := Channel.isActive (world.takeOut name station)
      isConnected := station.channel.connected
      isRegistered := station.channel.isRegistered
      autoRead := station.channel.config.autoRead
      pendingWrites := station.channel.pending.length }

/-! ## Futures -/

/-- Hands a future out; gives its number. -/
def handOut (ticket : Ticket) : WorldAct Nat := do
  let number := (← bench).handedOut
  arrange fun bench =>
    { bench with
      handedOut := number + 1
      awaited := bench.awaited ++ [(number, ticket)] }
  pure number

end World

end UdpTransport.Scenario
