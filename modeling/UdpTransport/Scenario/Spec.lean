import UdpTransport.Address.Numeric
import UdpTransport.Address.Text
import UdpTransport.Channel.State
import UdpTransport.Endpoint.Memory

/-!
# Descriptions of things to be made

A scenario says what its addresses, buffers, messages, policies and settings are to be made of.
These descriptions are plain data. The making of addresses and policies needs nothing else and is
defined here; it may fail, as the making of any address or policy may.
-/

namespace UdpTransport.Scenario

/-- How an address is to be made. -/
inductive AddressSpec where
  | host (text : String) (port : Nat) (family : Int)
  | loopback (port : Nat) (family : Int)
  | any (port : Nat) (family : Int)
  /-- The first `length` bytes of some memory. -/
  | raw (memory : Bytes) (length : Nat)
  /-- A place in memory that is missing. -/
  | missing (length : Nat)
  | unspecified
  deriving DecidableEq, Repr

/-- Makes an address. -/
def AddressSpec.make : AddressSpec → Except Fault Address
  | host text port family => Address.resolve text port family
  | loopback port family => .ok (.loopback port family.toNat)
  | any port family => .ok (.any port family.toNat)
  | raw memory length => Address.ofMemory? (some memory) length
  | missing length => Address.ofMemory? none length
  | unspecified => .ok .unspecified

/-- Makes an address if one is described. -/
def AddressSpec.make? : Option AddressSpec → Except Fault (Option Address)
  | none => .ok none
  | some spec => spec.make.map some

/-- How a buffer is to be made. -/
inductive BufferSpec where
  /-- The content of a buffer, which is left without any. -/
  | use (name : String)
  | closed
  | parts (parts : List BufferSpec)
  | repeated (count : Nat) (part : BufferSpec)
  /-- A view of bytes that belong to somebody else. -/
  | wrapped (allocator : String) (bytes : Bytes)
  /-- Memory of some capacity that begins with the given bytes. -/
  | filled (allocator : String) (capacity : Nat) (bytes : Bytes)
  | skipping (count : Nat) (buffer : BufferSpec)
  | touched (hint : String) (buffer : BufferSpec)

/-- The forms of messages that have a payload. -/
inductive MessageForm where
  | buffer
  | packet
  | segmented
  | envelope
  deriving DecidableEq, Repr

/-- How a message is to be made. -/
inductive MessageSpec where
  | empty
  /-- What a message holds, whose payload is taken away. -/
  | stored (name : String)
  | fresh (form : MessageForm) (content : BufferSpec) (recipient sender : Option AddressSpec)
      (segmentSize : Int)

/-- How the sizes of receive buffers are to be chosen. -/
inductive SizingSpec where
  | fixed (size : Int)
  | adaptive (minimum initial maximum : Int)
  deriving DecidableEq, Repr

/-- How a receive policy is to be made. -/
structure PolicySpec where
  sizing : SizingSpec
  maxMessages : Option Int
  heedsHint : Option Bool
  deriving DecidableEq, Repr

/-- Changes the bound on messages of a policy, if a new one is given. -/
def boundMessages (policy : ReceivePolicy) : Option Int → Except Fault ReceivePolicy
  | none => .ok policy
  | some count => policy.withMaxMessages count

/-- Changes whether a policy heeds hints, if that is asked for. -/
def heedHint (policy : ReceivePolicy) : Option Bool → ReceivePolicy
  | none => policy
  | some heed => policy.withHint heed

/-- Makes a receive policy. -/
def PolicySpec.make (spec : PolicySpec) : Except Fault ReceivePolicy := do
  let policy ← match spec.sizing with
    | .fixed size => ReceivePolicy.fixed size
    | .adaptive minimum initial maximum => ReceivePolicy.adaptive minimum initial maximum
  let policy ← boundMessages policy spec.maxMessages
  pure (heedHint policy spec.heedsHint)

/-- Which receive policy a channel is to have. -/
inductive PolicyChoice where
  | none
  | named (name : String)
  | fresh (spec : PolicySpec)
  deriving DecidableEq, Repr

/-- A change to the settings of a channel. -/
inductive ConfigChange where
  /-- The name of an allocator, or none. -/
  | allocator (name : Option String)
  | policy (choice : PolicyChoice)
  | autoRead (on : Bool)
  | activeOnOpen (on : Bool)
  | spinCount (count : Int)
  | maxWrites (count : Int)
  | suspended (on : Bool)
  deriving DecidableEq, Repr

/-- Whether a change is about the allocator. -/
def ConfigChange.isAllocator : ConfigChange → Bool
  | allocator _ => true
  | _ => false

/-- A datagram that an in-memory endpoint is to receive, or what else it is to find. -/
inductive InboundSpec where
  | failed (fault : Fault)
  | nothing
  | datagram (bytes : Bytes) (sender : Option AddressSpec) (recipient : Option AddressSpec)
      (reported : Option Int)
  deriving DecidableEq, Repr

/-- Where a datagram comes from if nothing else is said. -/
def defaultSender : Address := .loopback 9999 Family.ipv4

/-- Makes an item to be received. -/
def InboundSpec.make : InboundSpec → Except Fault Inbound
  | failed fault => .ok (.failed fault)
  | nothing => .ok .nothing
  | datagram bytes sender recipient reported => do
    let sender ← AddressSpec.make? sender
    let recipient ← AddressSpec.make? recipient
    pure (.datagram bytes (sender.getD defaultSender) recipient reported)

/-- A change to an in-memory endpoint. -/
inductive EndpointChange where
  | accept (amount : Int)
  /-- The result of all gathers from now on, or none. -/
  | gatherResult (amount : Option Int)
  /-- One more result of a send. -/
  | result (outcome : SendOutcome)
  /-- One more item to be received. -/
  | inbound (item : InboundSpec)
  | localAddress (address : AddressSpec)
  | remote (address : AddressSpec)
  | isOpen (on : Bool)
  /-- A failure of a step, in place of the one laid down before. -/
  | failure (step : EndpointStep) (fault : Fault)
  deriving DecidableEq, Repr

/-- Changes an in-memory endpoint. -/
def EndpointChange.apply (endpoint : MemoryEndpoint) :
    EndpointChange → Except Fault MemoryEndpoint
  | accept amount => .ok { endpoint with accept := amount }
  | gatherResult amount => .ok { endpoint with gatherResult := amount }
  | result outcome => .ok { endpoint with results := endpoint.results ++ [outcome] }
  | inbound item => do
    let item ← item.make
    pure { endpoint with inbound := endpoint.inbound ++ [item] }
  | localAddress address => do
    let address ← address.make
    pure { endpoint with localAddress := address }
  | remote address => do
    let address ← address.make
    pure { endpoint with remote := some address }
  | isOpen on => .ok { endpoint with isOpen := on }
  | failure step fault =>
    .ok { endpoint with
      failures := (step, fault) :: endpoint.failures.filter (·.1 ≠ step) }

end UdpTransport.Scenario
