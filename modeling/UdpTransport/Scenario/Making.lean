import UdpTransport.Scenario.World

/-!
# Making things from their descriptions

Buffers, messages and channels are made from descriptions (`makeBuffer`, `makeMessage`,
`makeChannel`). What was made before a failure is given back. The addresses of a message are made
before its buffer, and the buffer before the message.
-/

namespace UdpTransport.Scenario.World

/-! ## Buffers -/

/-- Makes several buffers in the same way. -/
def makeCopies (make : WorldAct Buffer) : (count : Nat) → WorldAct (List Buffer)
  | 0 => pure []
  | count + 1 => do
    let first ← make
    match ← (makeCopies make count).capture with
    | .ok others => pure (first :: others)
    | .error fault =>
      Ledger.discard first
      throw fault

mutual

/-- Makes a buffer. -/
def makeBuffer : BufferSpec → WorldAct Buffer
  | .use name => takeBuffer name
  | .closed => pure .closed
  | .parts parts => do return .compose (← makeBuffers parts)
  | .repeated count part => do return .compose (← makeCopies (makeBuffer part) count)
  | .wrapped name bytes => do
    let id ← allocator name
    Ledger.wrap id bytes
  | .filled name capacity bytes => do
    let id ← allocator name
    let buffer ← Ledger.allocate id capacity
    orDiscard buffer (buffer.write bytes)
  | .skipping count spec => do
    let buffer ← makeBuffer spec
    orDiscard buffer (buffer.skipReadable count)
  | .touched hint spec => do return (← makeBuffer spec).touch hint

/-- Makes buffers in order. -/
def makeBuffers : List BufferSpec → WorldAct (List Buffer)
  | [] => pure []
  | spec :: rest => do
    let first ← makeBuffer spec
    match ← (makeBuffers rest).capture with
    | .ok others => pure (first :: others)
    | .error fault =>
      Ledger.discard first
      throw fault

end

/-! ## Messages -/

/-- Makes a message. -/
def makeMessage : MessageSpec → WorldAct Message
  | .empty => pure .empty
  | .stored name => do
    let stored ← message name
    setMessage name stored.movedFrom
    pure stored
  | .fresh form content recipient sender size => do
    let recipient ← AddressSpec.make? recipient
    let sender ← AddressSpec.make? sender
    let content ← makeBuffer content
    let packet : Packet := ⟨content, recipient, sender⟩
    match form with
    | .buffer => pure (.buffer content)
    | .packet => pure (.packet packet)
    | .segmented => orDiscard content (Message.ofSegments packet size)
    | .envelope => pure (.envelope content recipient)

/-! ## Channels -/

/-- The allocator that channels use if nothing else is said. -/
abbrev defaultAllocator : String := "d"

/-- The receive policy that is chosen. -/
def choosePolicy : PolicyChoice → WorldAct (Option PolicyId)
  | .none => pure none
  | .named name => do return some (← find Bench.policies name)
  | .fresh spec => do
    let policy ← spec.make
    return some (← addPolicy policy)

/-- What a change does to settings; what it names is looked up or made. -/
def settle : ConfigChange → WorldAct (ChannelDraft → ChannelDraft)
  | .allocator name => do
    let id ← name.mapM allocator
    return fun draft => { draft with allocator := id }
  | .policy choice => do
    let id ← choosePolicy choice
    return fun draft => { draft with policy := id }
  | .autoRead on => return fun draft => { draft with autoRead := on }
  | .activeOnOpen on => return fun draft => { draft with activeOnOpen := on }
  | .spinCount count => return fun draft => { draft with spinCount := count }
  | .maxWrites count => return fun draft => { draft with maxWrites := count }
  | .suspended on => return fun draft => { draft with suspended := on }

/-- Applies changes to a proposal in order. -/
def amendDraft : List ConfigChange → ChannelDraft → WorldAct ChannelDraft
  | [], draft => pure draft
  | change :: rest, draft => do
    let amend ← settle change
    amendDraft rest (amend draft)

/-- The settings of a new channel. -/
def makeDraft (changes : List ConfigChange) : WorldAct ChannelDraft := do
  let own ← if changes.any ConfigChange.isAllocator then pure none
    else some <$> allocator defaultAllocator
  let fixed ← addPolicy { sizing := .fixed ReceivePolicy.defaultSize }
  amendDraft changes { allocator := own, policy := some fixed }

/-- Changes the settings of a channel directly and in order; a failure keeps the changes before
it. -/
def configure (name : String) : List ConfigChange → WorldAct Unit
  | [] => do
    let _ ← station name
  | change :: rest => do
    let _ ← station name
    let amend ← settle change
    onChannel name (Channel.change fun channel =>
      { channel with config := channel.config.amend amend })
    configure name rest

/-- Makes the endpoint of a channel. -/
def makeEndpoint (name : String) (spec : ChannelSpec) : WorldAct (Option ChannelEndpoint) := do
  if spec.hasEndpoint then
    match spec.socket with
    | none => pure (some (.memory { channel := name }))
    | some options => do return some (.socket (← (Socket.create options : Act Native Socket)))
  else pure none

/-- Gives an endpoint up that no channel took over. -/
def dropEndpoint : Option ChannelEndpoint → WorldAct Unit
  | some (.socket socket) => (socket.drop : Act Native Unit)
  | _ => pure ()

/-- Makes a channel, in place of the one of that name if there is one. -/
def makeChannel (name : String) (spec : ChannelSpec) : WorldAct Unit := do
  Transport.remove name
  arrange fun bench => { bench with handlers := bench.handlers.put name {} }
  let draft ← makeDraft spec.config
  let endpoint? ← makeEndpoint name spec
  match endpoint?, draft.check endpoint?.isSome spec.hasHandler with
  | some endpoint, .ok config =>
    modify fun world =>
      { world with
        stations := world.stations.put name ⟨{ name := name, config := config }, endpoint⟩ }
    if spec.observe then onChannel name (Channel.setRegistration (some .observer))
  | none, .ok _ => throw (.violation .missingEndpoint)
  | endpoint?, .error fault =>
    dropEndpoint endpoint?
    throw fault

end UdpTransport.Scenario.World
