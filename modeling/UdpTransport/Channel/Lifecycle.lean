import UdpTransport.Channel.State

/-!
# The life of a channel

Binding, connecting, disconnecting and closing go through the endpoint; the channel keeps two flags
of its own and remembers the addresses that it asked for until one of these operations is done.

Closing settles every waiting message as failed, ends the registration, and closes the endpoint, in
this order; it does nothing if the endpoint is closed already. A channel that nobody uses any more
is closed first (`Channel.drop`), and promises that are still open then are broken.
-/

namespace UdpTransport.Channel

variable {ε ω : Type}

/-! ## Interest -/

/-- Says whether the channel waits to read, if anybody listens. -/
def setReadInterest (wanted : Bool) : SiteAct ε ω Unit := do
  let channel ← current
  match channel.registration with
  | some registration => registration.setReadInterest channel.name wanted
  | none => pure ()

/-- Says whether the channel waits to write, if anybody listens. -/
def setWriteInterest (wanted : Bool) : SiteAct ε ω Unit := do
  let channel ← current
  match channel.registration with
  | some registration => registration.setWriteInterest channel.name wanted
  | none => pure ()

/-- Asks for a burst. -/
def read [Endpoint ε] : SiteAct ε ω Unit := do
  if ← isOpen then
    change fun channel => { channel with readPending := true }
    setReadInterest true

/-- Attaches the channel, or detaches it. Attaching asks for a burst if reading goes on by
itself. -/
def setRegistration [Endpoint ε] (registration : Option Registration) : SiteAct ε ω Unit := do
  change fun channel => { channel with registration := registration }
  if registration.isSome && (← current).config.autoRead then read

/-- Says whether reading goes on by itself. -/
def setAutoRead [Endpoint ε] (on : Bool) : SiteAct ε ω Unit := do
  let before := (← current).config.autoRead
  change fun channel => { channel with config := { channel.config with autoRead := on } }
  if on && !before then read
  else if !on && before then
    change fun channel => { channel with readPending := false }
    setReadInterest false

/-! ## Addresses -/

/-- Forgets the remembered addresses. -/
def forgetAddresses : SiteAct ε ω Unit :=
  change fun channel => { channel with localCache := none, remoteCache := none }

/-- The local address, asked for once and then remembered. -/
def localAddress [Endpoint ε] : SiteAct ε ω (Option Address) := do
  match (← current).localCache with
  | some address => pure (some address)
  | none =>
    if ← isOpen then
      let address ← (Endpoint.localAddress : NativeAct ε Address)
      if address.isUnspecified then pure none
      else
        change fun channel => { channel with localCache := some address }
        pure (some address)
    else pure none

/-- The peer while connected, asked for once and then remembered. -/
def remoteAddress [Endpoint ε] : SiteAct ε ω (Option Address) := do
  let channel ← current
  match channel.remoteCache with
  | some address => pure (some address)
  | none =>
    if channel.connected then
      let address ← (Endpoint.remoteAddress : NativeAct ε (Option Address))
      change fun channel => { channel with remoteCache := address }
      pure address
    else pure none

/-! ## Binding and connecting -/

/-- Binds the channel to a local address. -/
def bind [Endpoint ε] (address : Address) : SiteAct ε ω Unit := do
  (Endpoint.bind address : NativeAct ε Unit)
  change fun channel => { channel with active := true }
  forgetAddresses
  let bound ← localAddress
  Native.writeLog .debug logTag ("bound to " ++ (bound.getD .unspecified).toText)

/-- Connects the channel to a peer, after binding it if a local address is given. -/
def connect [Endpoint ε] (remote : Address) (local? : Option Address) : SiteAct ε ω Unit := do
  match local? with
  | some address => (Endpoint.bind address : NativeAct ε Unit)
  | none => pure ()
  (Endpoint.connect remote : NativeAct ε Unit)
  change fun channel => { channel with connected := true, active := true }
  forgetAddresses
  Native.writeLog .debug logTag ("connected to " ++ remote.toText)

/-- Dissolves the association with the peer. -/
def disconnect [Endpoint ε] : SiteAct ε ω Unit := do
  (Endpoint.disconnect : NativeAct ε Unit)
  change fun channel => { channel with connected := false, active := false }
  forgetAddresses

/-! ## Closing -/

/-- Settles waiting messages as failed and gives their payloads back. -/
def failAll (fault : Fault) : List PendingWrite → SiteAct ε ω Unit
  | [] => pure ()
  | write :: rest => do
    Futures.settle write.ticket (.failed fault)
    Ledger.discard write.message.content
    failAll fault rest

/-- Empties the queue; every message that waited in it has failed. -/
def failPending (fault : Fault) : SiteAct ε ω Unit := do
  let waiting := (← current).pending
  change fun channel => { channel with pending := [] }
  failAll fault waiting

/-- Ends the registration, if there is one. -/
def detach : SiteAct ε ω Unit := do
  let channel ← current
  match channel.registration with
  | some registration =>
    change fun channel => { channel with registration := none }
    registration.cancel channel.name
  | none => pure ()

/-- Closes the channel. -/
def close [Endpoint ε] : SiteAct ε ω Unit := do
  if ← isOpen then
    change fun channel =>
      { channel with connected := false, active := false, readPending := false }
    failPending (.violation .channelClosed)
    detach
    forgetAddresses
    (Endpoint.close : NativeAct ε Unit)
    Native.writeLog .debug logTag "closed"

/-- What happens to a channel that nobody uses any more. -/
def drop [Endpoint ε] : SiteAct ε ω Unit := do
  match ← (close : SiteAct ε ω Unit).capture with
  | .ok _ => pure ()
  | .error fault =>
    Native.writeLog .warn logTag ("close on destruction failed: " ++ fault.message)
  failPending .brokenPromise
  (Endpoint.drop : NativeAct ε Unit)

end UdpTransport.Channel
