import UdpTransport.Channel.Inbound
import UdpTransport.Channel.Multicast
import UdpTransport.Endpoint.Memory
import UdpTransport.Named

/-!
# All channels together

A `Transport` holds every channel under its name, the state that all of them share, and whatever
else there is, `ω`. To work on one channel, `Transport.on` takes it out: it becomes a `Site` whose
outside world are the other channels and `ω`. A handler works on the whole transport, its own
channel included, so for as long as it runs the channel is put back (`Transport.react`).
-/

namespace UdpTransport

/-- A channel with its endpoint. -/
structure Station where
  channel : Channel
  endpoint : ChannelEndpoint
  deriving DecidableEq, Repr

/-- All channels, what they share, and the rest of the world. -/
structure Transport (ω : Type) where
  host : Host := {}
  stations : Named Station := {}
  outside : ω

/-- What is outside of one channel: the other channels and the rest of the world. -/
structure Elsewhere (ω : Type) where
  others : Named Station
  outside : ω

/-- A channel of a transport in its place. -/
abbrev StationSite (ω : Type) := Site ChannelEndpoint (Elsewhere ω)

/-- An operation of one channel of a transport. -/
abbrev StationAct (ω α : Type) := SiteAct ChannelEndpoint (Elsewhere ω) α

/-- An operation on all channels. -/
abbrev TransportAct (ω α : Type) := Act (Transport ω) α

/-- Reacts to the callbacks of any channel. -/
abbrev Listener (ω : Type) := (channel : String) → Callback → TransportAct ω Unit

instance {ω : Type} : MonadLift (EStateM Fault Host) (EStateM Fault (Transport ω)) :=
  ⟨Act.focus (fun transport => transport.host) fun host transport =>
    { transport with host := host }⟩

instance : MonadLift (EStateM Fault Native) (EStateM Fault Host) :=
  ⟨Act.focus (fun host => host.native) fun native host => { host with native := native }⟩

instance : MonadLift (EStateM Fault Ledger) (EStateM Fault Host) :=
  ⟨Act.focus (fun host => host.ledger) fun ledger host => { host with ledger := ledger }⟩

namespace Transport

variable {ω : Type}

/-- Takes a channel out. -/
def takeOut (transport : Transport ω) (name : String) (station : Station) : StationSite ω where
  channel := station.channel
  endpoint := station.endpoint
  host := transport.host
  outside := ⟨transport.stations.erase name, transport.outside⟩

/-- Puts a channel back. -/
def putBack (site : StationSite ω) (name : String) : Transport ω where
  host := site.host
  stations := site.outside.others.put name ⟨site.channel, site.endpoint⟩
  outside := site.outside.outside

/-- Runs an operation of a channel. -/
def on {α : Type} (name : String) (act : StationAct ω α) : TransportAct ω α := fun transport =>
  match transport.stations.get? name with
  | none => .error .noChannel transport
  | some station =>
    match act (transport.takeOut name station) with
    | .ok a site => .ok a (putBack site name)
    | .error fault site => .error fault (putBack site name)

/-- A listener as the handler of one channel. The channel is at its place while the listener runs;
one that was removed meanwhile stays as it was, but for the messages that waited in it. -/
def react (listener : Listener ω) (name : String) :
    Handler ChannelEndpoint (Elsewhere ω) := fun callback site =>
  let again (transport : Transport ω) : StationSite ω :=
    transport.takeOut name
      ((transport.stations.get? name).getD
        ⟨{ site.channel with pending := [] }, site.endpoint⟩)
  match listener name callback (putBack site name) with
  | .ok a transport => .ok a (again transport)
  | .error fault transport => .error fault (again transport)

/-- The channel of a name, with its endpoint. -/
def station (name : String) : TransportAct ω Station := do
  match (← get).stations.get? name with
  | some station => pure station
  | none => throw .noChannel

/-- Removes a channel, if there is one of that name. -/
def remove (name : String) : TransportAct ω Unit := do
  if ((← get).stations.get? name).isSome then
    on name Channel.drop
    modify fun transport => { transport with stations := transport.stations.erase name }

theorem on_missing {α : Type} {transport : Transport ω} {name : String}
    (h : transport.stations.get? name = none) (act : StationAct ω α) :
    on name act transport = .error .noChannel transport := by
  simp [on, h]

/-- A channel that was put back is found under its name. -/
theorem get?_putBack (site : StationSite ω) (name : String) :
    (putBack site name).stations.get? name = some ⟨site.channel, site.endpoint⟩ :=
  Named.get?_put_self ..

end Transport

end UdpTransport
