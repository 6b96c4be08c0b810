import UdpTransport.Buffer.Ledger
import UdpTransport.Endpoint.Basic
import UdpTransport.Futures
import UdpTransport.Receive.Handle

/-!
# Channels

A channel sends and receives datagrams through an endpoint. It queues messages until they are
flushed, reads in bursts when it is told that something can be received, and tells a handler about
packets, the end of bursts, and failures.

Operations work on a `Site`: the channel, its endpoint, the state that all channels share (`Host`),
and the rest of the world, `ω`, about which a channel knows nothing. Only handlers reach into the
rest of the world, and a handler can do anything with the site, the channel included.
-/

namespace UdpTransport

/-- The settings of a channel. -/
structure ChannelConfig where
  /-- Makes receive buffers, and direct copies of payloads that cannot be sent as they are. -/
  allocator : AllocatorId
  policy : PolicyId
  /-- Whether reading goes on by itself after each burst. -/
  autoRead : Bool := true
  /-- Whether the channel counts as active from its registration on. -/
  activeOnOpen : Bool := false
  /-- How often a flush tries to send one message. -/
  spinCount : Int := 16
  /-- How many messages one flush handles. -/
  maxWrites : Int := maxInt32
  /-- Whether the user of the channel holds back reading at the moment. -/
  suspended : Bool := false
  deriving DecidableEq, Repr

/-- Settings as they are proposed for a new channel. -/
structure ChannelDraft where
  allocator : Option AllocatorId
  policy : Option PolicyId
  autoRead : Bool := true
  activeOnOpen : Bool := false
  spinCount : Int := 16
  maxWrites : Int := maxInt32
  suspended : Bool := false
  deriving DecidableEq, Repr

/-- A message that waits to be sent. -/
structure PendingWrite where
  message : Message
  ticket : Ticket
  deriving DecidableEq, Repr

/-- A channel, its endpoint apart. -/
structure Channel where
  name : String
  config : ChannelConfig
  /-- Who is told about the channel's interest. -/
  registration : Option Registration := none
  active : Bool := false
  connected : Bool := false
  /-- Whether a read was asked for and nothing was delivered since. -/
  readPending : Bool := false
  /-- The local address, once it was asked for. -/
  localCache : Option Address := none
  /-- The peer, once it was asked for. -/
  remoteCache : Option Address := none
  /-- The channel's own receive handle, once it was needed. -/
  handle : Option ReceiveHandle := none
  /-- The allocator of direct copies, once it was needed beside the configured one. -/
  fallback : Option AllocatorId := none
  /-- The messages that wait to be sent, oldest first. -/
  pending : List PendingWrite := []
  /-- The packets delivered in the current burst. -/
  burstPackets : Nat := 0
  deriving DecidableEq, Repr

/-- The state that all channels share. -/
structure Host where
  native : Native := {}
  ledger : Ledger := {}
  futures : Futures := {}
  /-- The receive policies ever made; a `PolicyId` is a position. -/
  policies : List ReceivePolicy := []
  deriving DecidableEq, Repr

/-- A channel in its place. -/
structure Site (ε ω : Type) where
  channel : Channel
  endpoint : ε
  host : Host
  outside : ω

/-- An operation of a channel. -/
abbrev SiteAct (ε ω α : Type) := Act (Site ε ω) α

section Lifts

variable {ε ω : Type}

instance : MonadLift (EStateM Fault (ε × Native)) (EStateM Fault (Site ε ω)) :=
  ⟨Act.focus (fun site => (site.endpoint, site.host.native)) fun part site =>
    { site with endpoint := part.1, host := { site.host with native := part.2 } }⟩

instance : MonadLift (EStateM Fault Ledger) (EStateM Fault (Site ε ω)) :=
  ⟨Act.focus (fun site => site.host.ledger) fun ledger site =>
    { site with host := { site.host with ledger := ledger } }⟩

instance : MonadLift (EStateM Fault Futures) (EStateM Fault (Site ε ω)) :=
  ⟨Act.focus (fun site => site.host.futures) fun futures site =>
    { site with host := { site.host with futures := futures } }⟩

end Lifts

namespace ChannelConfig

/-- Settings as a proposal. -/
def toDraft (config : ChannelConfig) : ChannelDraft :=
  { config with allocator := some config.allocator, policy := some config.policy }

/-- Changes settings as one changes a proposal; an allocator or a policy cannot be taken away. -/
def amend (change : ChannelDraft → ChannelDraft) (config : ChannelConfig) : ChannelConfig :=
  let draft := change config.toDraft
  { draft with
    allocator := draft.allocator.getD config.allocator
    policy := draft.policy.getD config.policy }

end ChannelConfig

namespace ChannelDraft

/-- The settings of a new channel, if everything that it needs is there. -/
def check (draft : ChannelDraft) (hasEndpoint hasHandler : Bool) :
    Except Fault ChannelConfig :=
  if ¬ hasEndpoint then .error (.violation .missingEndpoint)
  else if ¬ hasHandler then .error (.violation .missingHandler)
  else
    match draft.allocator, draft.policy with
    | some allocator, some policy =>
      if draft.spinCount ≤ 0 then
        .error (.violation (.notPositive .spinCount draft.spinCount))
      else if draft.maxWrites ≤ 0 then
        .error (.violation (.notPositive .messagesPerWrite draft.maxWrites))
      else .ok { draft with allocator := allocator, policy := policy }
    | _, _ => .error (.violation .missingAllocator)

end ChannelDraft

namespace Channel

/-- The tag of what channels log. -/
def logTag : String := "DatagramChannel"

variable {ε ω : Type}

/-- The channel that an operation works on. -/
def current : SiteAct ε ω Channel := do return (← get).channel

/-- Changes the channel that an operation works on. -/
def change (f : Channel → Channel) : SiteAct ε ω Unit :=
  modify fun site => { site with channel := f site.channel }

/-- Whether the endpoint of the channel is open. -/
def isOpen [Endpoint ε] : SiteAct ε ω Bool := do return Endpoint.isOpen (← get).endpoint

/-- Whether something listens to the channel's interest. -/
def isRegistered (channel : Channel) : Bool := channel.registration.isSome

/-- Whether the channel is ready for use: open, and bound or connected, or registered if that is
enough by its settings. -/
def isActive [Endpoint ε] (site : Site ε ω) : Bool :=
  Endpoint.isOpen site.endpoint &&
    ((site.channel.config.activeOnOpen && site.channel.isRegistered) || site.channel.active)

end Channel

end UdpTransport
