import UdpTransport.Proofs.Burst.Handle
import UdpTransport.Proofs.Watch

/-!
# Watching a read burst

A read burst, written once more with notes (`BurstEvent`) where the endpoint is asked for a
datagram, where something fails, where the handler is told something, and where the burst settles.
The functions here mirror those of the channel step by step; that they do the same is proved along
with what they note.
-/

namespace UdpTransport.Channel

variable {ε ω : Type}

/-! ## Callbacks -/

/-- What a callback writes down before the handler runs. -/
def Callback.event (name : String) : Callback → Event
  | .packet packet => .packet name packet.view
  | .readComplete => .readComplete name
  | .failure fault => .failure name fault

/-- The site in which the handler is told something: that it is told is written down. -/
def telling (callback : Callback) (site : Site ε ω) : Site ε ω :=
  site.withNative (site.endpoint,
    (Native.record (Callback.event site.channel.name callback)).after site.host.native)

theorem run_tell (handler : Handler ε ω) (callback : Callback) (site : Site ε ω) :
    (tell handler callback).run site = (handler callback).run (telling callback site) := by
  cases callback <;> rfl

/-! ## Notes -/

/-- Where a burst can fail before it is over. -/
inductive BurstPlace where
  | allocation
  | receive
  | address
  | cursor
  | callback
  deriving DecidableEq

/-- Something that happens in a burst. -/
inductive BurstEvent where
  /-- The endpoint is asked for a datagram. -/
  | received
  /-- Something failed, as it was before it is said in other words. -/
  | failed (place : BurstPlace) (fault : Fault)
  /-- What the loop over the datagrams ended with. -/
  | ended (fault? : Option Fault)
  /-- The handler was told something: what it failed with, and whether the endpoint is open
  afterwards. -/
  | told (callback : Callback) (fault? : Option Fault) (stillOpen : Bool)
  /-- The burst settled its interest. -/
  | settled

/-- What the handler is told. -/
def BurstEvent.callback? : BurstEvent → Option Callback
  | told callback _ _ => some callback
  | _ => none

/-- The callbacks of a trace, in order. -/
def callbacksIn (trace : List BurstEvent) : List Callback := trace.filterMap BurstEvent.callback?

theorem callbacksIn_append (first second : List BurstEvent) :
    callbacksIn (first ++ second) = callbacksIn first ++ callbacksIn second :=
  List.filterMap_append

/-- The number of receives in a trace. -/
def receivesIn (trace : List BurstEvent) : Nat :=
  trace.countP fun
    | .received => true
    | _ => false

theorem receivesIn_append (first second : List BurstEvent) :
    receivesIn (first ++ second) = receivesIn first + receivesIn second :=
  List.countP_append ..

/-- A step of a burst that takes notes. -/
abbrev BurstAct (ε ω α : Type) := Watched (Site ε ω) BurstEvent α

/-- The failure of a result. -/
def faultOf? {α : Type} : Except Fault α → Option Fault
  | .ok _ => none
  | .error fault => some fault

/-- Notes a failure. -/
def failureAt {α : Type} (place : BurstPlace) (result : Except Fault α) (_ : Site ε ω) :
    List BurstEvent :=
  (faultOf? result).toList.map (.failed place)

/-- Notes that the endpoint was asked for a datagram. -/
def receipt {α : Type} (result : Except Fault α) (site : Site ε ω) : List BurstEvent :=
  .received :: failureAt .receive result site

section Watching

variable [Endpoint ε] (handler : Handler ε ω) (source : HandleSource ω)

open Watched

/-- A connected receive: the read and the addresses that are asked for can fail. -/
def watchConnected (data : Buffer) : BurstAct ε ω (Option Packet) := do
  let (data, amount) ←
    connectedRead (noting (liftM (readInto data : NativeAct ε (Buffer × Int))) receipt)
  quietly (changeHandle source (·.noteRead amount))
  if amount ≤ 0 then pure none
  else
    let sender ← noting remoteAddress (failureAt .address)
    let recipient ← noting localAddress (failureAt .address)
    pure (some ⟨data, recipient, sender⟩)

/-- An unconnected receive: also the size that the endpoint reports can be too large. -/
def watchUnconnected (data : Buffer) : BurstAct ε ω (Option Packet) := do
  let (data, received?) ←
    noting (liftM (receiveInto data : NativeAct ε (Buffer × Option Received))) receipt
  match received? with
  | none =>
    quietly (changeHandle source (·.noteRead (-1)))
    pure none
  | some received =>
    let recipient ← match received.local? with
      | some address => pure (some address)
      | none => noting localAddress (failureAt .address)
    quietly (changeHandle source (·.noteRead received.amount))
    let data ← noting (Act.ofExcept (data.skipWritable (Socket.word64 received.amount)))
      (failureAt .cursor)
    pure (some ⟨data, recipient, some received.sender⟩)

/-- The end of an unconnected receive: the cursor cannot be moved past the buffer. -/
def watchTakeIn (data : Buffer) (received : Received) (recipient : Option Address) :
    BurstAct ε ω (Option Packet) := do
  quietly (changeHandle source (·.noteRead received.amount))
  let data ← noting (Act.ofExcept (data.skipWritable (Socket.word64 received.amount)))
    (failureAt .cursor)
  pure (some ⟨data, recipient, some received.sender⟩)

/-- A callback is noted with what became of it. -/
def watchTell (callback : Callback) : BurstAct ε ω Unit :=
  noting (tell handler callback) fun result site =>
    [.told callback (faultOf? result) (Endpoint.isOpen site.endpoint)]

/-- Memory can run out before anything is received. -/
def watchFetch (allocator : AllocatorId) (connected : Bool) : BurstAct ε ω (Option Packet) := do
  let size := (← quietly (handleNow source)).guess
  let data ← noting (liftM (Ledger.allocate allocator size.toNat)) (failureAt .allocation)
  quietly (changeHandle source (·.attempt (min data.room maxInt32)))
  let next : BurstAct ε ω (Option Packet) :=
    if connected then watchConnected source data else watchUnconnected source data
  match ← next.capture with
  | .error fault =>
    quietly (liftM (Ledger.discard data))
    throw fault
  | .ok none =>
    quietly (liftM (Ledger.discard data))
    pure none
  | .ok (some packet) => pure (some packet)

/-- Of a packet that is handed on, the callback is noted. -/
def watchHandOn (packet : Packet) : BurstAct ε ω Bool := do
  quietly (changeHandle source (·.count 1))
  quietly (change fun channel =>
    { channel with readPending := false, burstPackets := channel.burstPackets + 1 })
  watchTell handler (.packet packet)
  quietly (goesOn source)

/-- One datagram, as far as it is handed on. -/
def watchOne (allocator : AllocatorId) (connected : Bool) : BurstAct ε ω Bool := do
  match ← watchFetch source allocator connected with
  | none => pure false
  | some packet => watchHandOn handler source packet

/-- The loop over the datagrams. -/
def watchAll (allocator : AllocatorId) (connected : Bool) : (bound : Nat) → BurstAct ε ω Unit
  | 0 => pure ()
  | bound + 1 => do
    if ← watchOne handler source allocator connected then
      watchAll allocator connected bound

/-- What the loop ended with is noted before the callbacks that report it. -/
def watchBurst (allocator : AllocatorId) : BurstAct ε ω Unit := do
  let connected := (← quietly current).connected
  let limit := (← quietly (handleNow source)).limit.toNat
  let result ← (watchAll handler source allocator connected (limit + burstBound)).capture
  mark [.ended (faultOf? result)]
  match result with
  | .ok _ => pure ()
  | .error _ =>
    quietly (liftM (Native.writeLog .debug logTag
      s!"read burst ended by an exception after {(← quietly current).burstPackets} packet(s)"))
  quietly (changeHandle source ReceiveHandle.complete)
  watchTell handler .readComplete
  match result with
  | .ok _ => if (← quietly current).config.autoRead then quietly read
  | .error fault => watchTell handler (.failure fault)

/-- A burst with a given receive handle settles last. -/
def watchReadyWith : BurstAct ε ω Unit := do
  if ← quietly holdsBack then quietly (setReadInterest false)
  else
    let allocator := (← quietly current).config.allocator
    quietly (beginBurst source)
    (watchBurst handler source allocator).ensuring
      (noting settleInterest fun _ _ => [.settled])

/-- A burst with the handle of the channel. -/
def watchReady : BurstAct ε ω Unit := do
  quietly prepareHandle
  watchReadyWith handler .own

end Watching

end UdpTransport.Channel
