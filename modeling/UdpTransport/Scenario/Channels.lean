import UdpTransport.Scenario.Making

/-!
# Steps on receive handles, channels and event loops

Steps that make a channel read a burst, or an event loop run, are given the listener that plays the
handlers of all channels.
-/

namespace UdpTransport.Scenario.World

/-! ## Receive policies and handles -/

/-- Shows the bounds of a policy, beside the size of its buffers if that is given. -/
def showPolicy (policy : ReceivePolicy) (size : Option Int) : Reply where
  result := some (.policy policy.maxMessages policy.heedsHint size)

/-- Makes a policy under a name. -/
def performMakePolicy (name : String) (spec : PolicySpec) : WorldAct Reply := do
  let made ← spec.make
  let id ← addPolicy made
  arrange fun bench => { bench with policies := bench.policies.put name id }
  pure (showPolicy made made.fixedSize?)

/-- Changes a policy, first whether it heeds hints and then its bound. -/
def performChangePolicy (name : String) (heed : Option Bool) (count : Option Int) :
    WorldAct Reply := do
  let id ← find Bench.policies name
  setPolicy id (heedHint (← policy id) heed)
  let bounded ← boundMessages (← policy id) count
  setPolicy id bounded
  pure (showPolicy bounded none)

/-- Changes a held handle. -/
def setHandle (name : String) (held : HeldHandle) : WorldAct Unit :=
  arrange fun bench => { bench with handles := bench.handles.put name held }

/-- Shows a held handle beside a result. -/
def showHandle (name : String) (reply : Reply) : WorldAct Reply := do
  let held ← find Bench.handles name
  pure { reply with handle := some held.view }

/-- Changes the state of a held handle, and shows it. -/
def onHandle (name : String) (f : ReceiveHandle → ReceiveHandle) : WorldAct Reply := do
  let held ← find Bench.handles name
  setHandle name { held with handle := f held.handle }
  showHandle name {}

/-- Makes a receive handle for a policy. -/
def performMakeHandle (name source : String) : WorldAct Reply := do
  let id ← find Bench.policies source
  setHandle name { handle := .ofPolicy id (← policy id) }
  showHandle name {}

/-- Whether reading goes on by itself for a held handle. -/
def readsOn (held : HeldHandle) : WorldAct Bool := do
  let stations := (← get).stations
  return held.readsOn fun name => (stations.get? name).map (·.channel.config.autoRead)

/-- Performs a step on a receive handle. -/
def performHandle (name : String) : HandleStep → WorldAct Reply
  | .view => showHandle name {}
  | .setAutoRead on => do
    let held ← find Bench.handles name
    setHandle name { held with autoRead := on }
    showHandle name {}
  | .reset => do
    let held ← find Bench.handles name
    let handle := held.handle.reset (← policy held.handle.policy)
    setHandle name { held with handle := handle, settings := .own }
    showHandle name {}
  | .allocate source target => do
    let held ← find Bench.handles name
    let id ← allocator source
    let made ← Ledger.allocate id held.handle.guess.toNat
    storeBuffer target made
    showHandle name { buffer := some made.status }
  | .attempt bytes => onHandle name (·.attempt bytes)
  | .noteRead bytes => onHandle name (·.noteRead bytes)
  | .count datagrams => onHandle name (·.count datagrams)
  | .complete => onHandle name ReceiveHandle.complete
  | .continues more => do
    let held ← find Bench.handles name
    let autoRead ← readsOn held
    let policy ← policy held.handle.policy
    showHandle name
      { result := some (.flag (held.handle.continues policy autoRead more))
        asked := more.map fun _ => ReceiveHandle.asksHint policy autoRead }

/-! ## Channels -/

/-- The held handle of a name, seen from a channel. -/
def heldBy (elsewhere : Elsewhere Bench) (name : String) : HeldHandle :=
  (elsewhere.outside.handles.get? name).getD { handle := { policy := 0, sizing := .fixed 0 } }

/-- Replaces the held handle of a name, seen from a channel. -/
def holdBy (elsewhere : Elsewhere Bench) (name : String) (held : HeldHandle) : Elsewhere Bench :=
  let bench := elsewhere.outside
  { elsewhere with outside := { bench with handles := bench.handles.put name held } }

/-- A named receive handle, lent to a channel for a burst. -/
def lend (name channel : String) : LentHandle (Elsewhere Bench) where
  get elsewhere := (heldBy elsewhere name).handle
  set handle elsewhere := holdBy elsewhere name { heldBy elsewhere name with handle := handle }
  follow elsewhere :=
    holdBy elsewhere name { heldBy elsewhere name with settings := .channel channel }
  autoRead own elsewhere :=
    (heldBy elsewhere name).readsOn fun other =>
      if other = channel then some own
      else (elsewhere.others.get? other).map (·.channel.config.autoRead)

/-- Leaves a note of a message that an operation failed on. -/
def noteMessage (message : Message) (fault : Fault) : WorldAct Reply := do
  (Native.record (.message message.view) : Act Native Unit)
  throw fault

/-- Attempts to send a stored message through a channel. Only then is the channel looked for, so
that a note of the message is left also where there is none. -/
def performOffer (channel name : String) : WorldAct Reply := do
  let before ← message name
  match ← (onChannel channel (Channel.offer before :
      NativeAct ChannelEndpoint (Message × Bool))).capture with
  | .ok (after, done) =>
    setMessage name after
    pure { result := some (.flag done), message := some after.view }
  | .error fault => noteMessage before fault

/-- Admits a stored message to a channel, and stores what was admitted. Shows what was left of the
message handed in, also where the result takes its name. The channel is looked for after the
message. -/
def performPrepare (channel source name : String) : WorldAct Reply := do
  let before ← message source
  match ← (onChannel channel (Channel.prepare before)).capture with
  | .ok (admitted, left) =>
    setMessage source left
    storeMessage name admitted
    pure { result := some (.message left.view), message := some admitted.view }
  | .error fault => noteMessage before fault

/-- The in-memory endpoint of a channel. -/
def memoryEndpoint (name : String) : WorldAct (Channel × MemoryEndpoint) := do
  match (← get).stations.get? name with
  | some ⟨channel, .memory endpoint⟩ => pure (channel, endpoint)
  | _ => throw .noEndpoint

/-- Changes the in-memory endpoint of a channel in order; a failure keeps the changes before it. -/
def performArrange (name : String) : List EndpointChange → WorldAct Reply
  | [] => do
    let (_, endpoint) ← memoryEndpoint name
    pure { result := some (.number endpoint.inbound.length) }
  | change :: rest => do
    let (channel, endpoint) ← memoryEndpoint name
    let after ← change.apply endpoint
    modify fun world =>
      { world with stations := world.stations.put name ⟨channel, .memory after⟩ }
    performArrange name rest

/-- Hands out the future of an operation, and shows its number. -/
def handedOut (act : WorldAct Ticket) : WorldAct Reply := do
  let ticket ← act
  return { result := some (.number (← handOut ticket)) }

/-- Runs an operation of a channel without result. -/
def plain (name : String) (act : StationAct Bench Unit) : WorldAct Reply := do
  onChannel name act
  pure {}

/-- Performs a step on a channel. -/
def channelReply (listener : Listener Bench) (name : String) : ChannelStep → WorldAct Reply
  | .destroy => do
    let _ ← station name
    Transport.remove name
    pure {}
  | .observe on => plain name (Channel.setRegistration (if on then some .observer else none))
  | .configure changes => do
    configure name changes
    pure {}
  | .setAutoRead on => plain name (Channel.setAutoRead on)
  | .bind address => do
    let _ ← station name
    let address ← address.make
    plain name (Channel.bind address)
  | .connect remote local? => do
    let _ ← station name
    let remote ← remote.make
    let local? ← AddressSpec.make? local?
    plain name (Channel.connect remote local?)
  | .disconnect => plain name Channel.disconnect
  | .close => plain name Channel.close
  | .flush => plain name Channel.flush
  | .read => plain name Channel.read
  | .status => do
    known name
    pure {}
  | .localAddress => do
    return { result := some (.address (← onChannel name Channel.localAddress)) }
  | .remoteAddress => do
    return { result := some (.address (← onChannel name Channel.remoteAddress)) }
  | .descriptor => do
    return { result := some (.number (Endpoint.descriptor (← station name).endpoint)) }
  | .write spec => do
    let _ ← station name
    let made ← makeMessage spec
    handedOut (onChannel name (Channel.write made))
  | .writeAndFlush spec => do
    let _ ← station name
    let made ← makeMessage spec
    handedOut (onChannel name (Channel.writeAndFlush made))
  | .offer message => performOffer name message
  | .prepare source message => performPrepare name source message
  | .readReady none => do
    let _ ← station name
    plain name (Channel.readReady (Transport.react listener name))
  | .readReady (some handle) => do
    let _ ← station name
    let _ ← find Bench.handles handle
    plain name (Channel.readReadyWith (Transport.react listener name) (.lent (lend handle name)))
  | .requestGroup request => handedOut (onChannel name (Channel.requestGroup request))
  | .arrange changes => do
    known name
    performArrange name changes

/-- Shows a channel, if it is there, beside a result. -/
def showChannel (name : String) (reply : Reply) : WorldAct Reply := do
  pure { reply with channel := ← channelView name }

/-- Performs a step on a channel, and shows the channel. -/
def performChannel (listener : Listener Bench) (name : String) (step : ChannelStep) :
    WorldAct Reply := do
  let reply ← channelReply listener name step
  showChannel name reply

/-- Lays down what the handler of a channel does next. -/
def performScript (name : String) (packet complete failure : List (List Step)) :
    WorldAct Reply := do
  let before ← find Bench.handlers name
  let after : Scripts :=
    { packet := before.packet ++ packet
      complete := before.complete ++ complete
      failure := before.failure ++ failure }
  arrange fun bench => { bench with handlers := bench.handlers.put name after }
  showChannel name {}

/-! ## Event loops -/

/-- Shows an event loop beside a result. -/
def showLoop (name : String) (result : Option Value) : WorldAct Reply := do
  let id ← find Bench.loops name
  pure { result := result, channels := some (← EventLoop.channelCount id) }

/-- Performs a step on an event loop. -/
def performLoop (listener : Listener Bench) (name : String) : LoopStep → WorldAct Reply
  | .make maxEvents => do
    let before := (← bench).loops.get? name
    let id ← (EventLoop.create maxEvents : Act Native LoopId)
    arrange fun bench => { bench with loops := bench.loops.put name id }
    match before with
    | some before => EventLoop.drop before
    | none => pure ()
    showLoop name none
  | .drop => do
    let before := (← bench).loops.get? name
    arrange fun bench => { bench with loops := bench.loops.erase name }
    match before with
    | some id => EventLoop.drop id
    | none => pure ()
    pure {}
  | .register channel => do
    let id ← find Bench.loops name
    known channel
    EventLoop.register id channel
    showLoop name none
  | .deregister channel => do
    let id ← find Bench.loops name
    let _ ← station channel
    EventLoop.deregister id channel
    showLoop name none
  | .run timeout => do
    let id ← find Bench.loops name
    let count ← EventLoop.runOnce listener id timeout
    showLoop name (some (.number count))
  | .inLoop => showLoop name (some (.flag true))
  | .view => showLoop name none

/-! ## The log -/

/-- Changes the settings of the log. -/
def setLog (f : Log.Settings → Log.Settings) : WorldAct Unit :=
  (modify fun native => { native with log := f native.log } : Act Native Unit)

/-- Performs a step on the log. -/
def performLog : LogStep → WorldAct Reply
  | .setThreshold level => do
    setLog fun settings => { settings with threshold := level }
    pure { result := some (.level level) }
  | .write level tag text => do
    (Native.writeLog level tag text : Act Native Unit)
    pure {}
  | .enabled => do
    let threshold := (← get).host.native.log.threshold
    pure
      { result := some (.flags
          ([.debug, .info, .warn, .error, .off].map (Log.Level.enabled threshold))) }
  | .setSink sink => do
    setLog fun settings => { settings with sink := sink }
    pure {}

end UdpTransport.Scenario.World
