import UdpTransport.Transport

/-!
# Event loops at work

An event loop waits for readiness and hands it to the channels registered with it. A channel is
registered under a number that is never used again, and every event is looked up by that number
right before each of its steps: what a callback closed, deregistered or registered anew gets
nothing of the events that were waiting (`EventLoop.dispatch`). A callback that fails is logged
and the other events are handled all the same. A callback may run the loop again; each event is
therefore read from its place only when its turn comes (`EventLoop.dispatchFrom`).

A registration that fails leaves the loop without the channel, though the number is used up.
-/

namespace UdpTransport.EventLoop

variable {ω : Type}

/-- How many events one round handles where nothing else is said. -/
abbrev defaultMaxEvents : Int := 64

/-- Readiness that a read burst answers: something arrived, or a failure is waiting to be read. -/
abbrev readableMask : Nat := Number.readable ||| Number.failed ||| Number.hungUp

/-- Makes an event loop. -/
def create (maxEvents : Int) : Act Native LoopId := do
  let answer ← Native.attemptStatus (.createInterestSet Number.closeOnExec)
    Kernel.createInterestSet
  let set ← Native.orFail "epoll_create1" answer
  let id := (← get).loops.length
  modify fun native =>
    { native with
      loops := native.loops ++ [some { set := set, maxEvents := (max maxEvents 1).toNat }] }
  pure id

/-- The entry with a number, if it is still there. -/
def entry? (loop : LoopId) (id : Nat) : TransportAct ω (Option InterestEntry) := do
  return ((← get).host.native.loop? loop).bind (·.find? id)

/-- Attaches a channel, or detaches it if it is still there. -/
def attach (channel : String) (registration : Option Registration) : TransportAct ω Unit := do
  if ((← get).stations.get? channel).isSome then
    Transport.on channel (Channel.setRegistration registration)

/-- Detaches channels. -/
def detachAll : List InterestEntry → TransportAct ω Unit
  | [] => pure ()
  | entry :: rest => do
    attach entry.channel none
    detachAll rest

/-- Destroys an event loop. -/
def drop (loop : LoopId) : TransportAct ω Unit := do
  match (← get).host.native.loop? loop with
  | none => pure ()
  | some table =>
    detachAll table.entries
    (do
      modify fun native => { native with loops := native.loops.set loop none }
      match ← Native.close table.set with
      | .value _ => pure ()
      | .failure code =>
        Native.writeLog .warn Registration.loopTag
          ("closing the epoll instance failed: " ++ systemText code) : Act Native Unit)

/-- Registers a channel. -/
def register (loop : LoopId) (name : String) : TransportAct ω Unit := do
  let station ← Transport.station name
  if ¬ Endpoint.isOpen station.endpoint then Act.violate .registerClosed
  if station.channel.isRegistered then Act.violate .registerTwice
  match (← get).host.native.loop? loop with
  | none => pure ()
  | some table =>
    let id := table.nextId
    let fd := Endpoint.descriptor station.endpoint
    (do
      modify fun native => native.setLoop loop { table with nextId := id + 1 }
      let answer ← Native.attemptStatus (.changeInterest table.set .add fd (some (0, id)))
        Kernel.changeInterest
      let _ ← Native.orFail "epoll_ctl" answer
      modify fun native =>
        native.setLoop loop { table.insert name fd with nextId := id + 1 } : Act Native Unit)
    match ← (attach name (some (.entry loop id))).capture with
    | .ok _ =>
      (Native.writeLog .debug Registration.loopTag s!"registered fd {fd}" : Act Native Unit)
    | .error fault =>
      if fault.isSocketFault then
        attach name none
        (Registration.removeEntry loop id : Act Native Unit)
      throw fault

/-- Ends the latest registration of a channel, if it has one with this loop. -/
def deregister (loop : LoopId) (name : String) : TransportAct ω Unit := do
  match ((← get).host.native.loop? loop).bind (·.findChannel? name) with
  | none => pure ()
  | some entry =>
    attach name none
    (Registration.removeEntry loop entry.id : Act Native Unit)

/-- Hands one event to the channel that it is for. -/
def dispatch (listener : Listener ω) (loop : LoopId) (id events : Nat) : TransportAct ω Unit := do
  match ← entry? loop id with
  | some entry =>
    if events &&& readableMask ≠ 0 then
      Transport.on entry.channel (Channel.readReady (Transport.react listener entry.channel))
  | none => pure ()
  match ← entry? loop id with
  | some entry =>
    if events &&& Number.writable ≠ 0 then Transport.on entry.channel Channel.flush
  | none => pure ()

/-- The event in a place. -/
def event? (loop : LoopId) (place : Nat) : TransportAct ω (Option (Nat × Nat)) := do
  return ((← get).host.native.loop? loop).bind (·.reported[place]?)

/-- Hands the event in a place to its channel; a failure is logged. -/
def dispatchAt (listener : Listener ω) (loop : LoopId) (place : Nat) : TransportAct ω Unit := do
  match ← event? loop place with
  | none => pure ()
  | some (id, events) =>
    match ← (dispatch listener loop id events).capture with
    | .ok _ => pure ()
    | .error fault =>
      (Native.writeLog .error Registration.loopTag
        ("channel callback failed: " ++ fault.message) : Act Native Unit)

/-- Hands out the events in `count` places, from one place on. -/
def dispatchFrom (listener : Listener ω) (loop : LoopId) (place : Nat) :
    (count : Nat) → TransportAct ω Unit
  | 0 => pure ()
  | count + 1 => do
    dispatchAt listener loop place
    dispatchFrom listener loop (place + 1) count

/-- Waits once and hands out what is ready; gives the number of events. An interrupted wait gives
none. -/
def runOnce (listener : Listener ω) (loop : LoopId) (timeout : Int) : TransportAct ω Nat := do
  match (← get).host.native.loop? loop with
  | none => pure 0
  | some table =>
    let answer ← (Native.perform (.wait table.set table.maxEvents timeout)
      (fun events => events.length) (Kernel.wait table.maxEvents) :
        Act Native (Answer (List (Nat × Nat))))
    match answer with
    | .value events =>
      (modify fun native => native.setLoop loop (table.report events) : Act Native Unit)
      dispatchFrom listener loop 0 events.length
      pure events.length
    | .failure code =>
      if code = ErrorCode.interrupted then pure 0 else throw (.native "epoll_wait" code)

/-- The number of entries of an event loop. -/
def channelCount (loop : LoopId) : TransportAct ω Nat := do
  return ((← get).host.native.loop? loop).elim 0 (·.entries.length)

end UdpTransport.EventLoop
