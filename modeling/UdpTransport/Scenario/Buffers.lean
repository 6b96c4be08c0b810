import UdpTransport.Scenario.Making

/-!
# Steps on buffers, messages and gathers
-/

namespace UdpTransport.Scenario.World

/-! ## Buffers -/

/-- Shows a buffer beside a result. -/
def showBuffer (name : String) (result : Option Value) : WorldAct Reply := do
  let buffer ← buffer name
  pure { result := result, buffer := some buffer.status }

/-- Moves buffers out of their names, in order. -/
def takeBuffers : List String → WorldAct (List Buffer)
  | [] => pure []
  | name :: rest => do
    let first ← takeBuffer name
    match ← (takeBuffers rest).capture with
    | .ok others => pure (first :: others)
    | .error fault =>
      Ledger.discard first
      throw fault

/-- The components that a walk offered, with an amount and bytes of each. -/
def visits (walk : Buffer.Walk) (amount : Component → Nat)
    (bytes : Component → Option Bytes) : List Visited :=
  walk.visited.zipIdx.map fun (c, index) => ⟨index, amount c, c.kind, bytes c⟩

/-- The result of a walk; a walk that failed leaves a note of what it offered. -/
def walkResult (walk : Buffer.Walk) (visited : List Visited) : WorldAct Value := do
  match walk.result with
  | .ok result => pure (.walk result visited)
  | .error fault =>
    (Native.record (.visited visited) : Act Native Unit)
    throw fault

/-- Forgets an allocator's counts as last reported, so that they are reported again. -/
def forgetReported (name : String) : WorldAct Unit :=
  arrange fun bench => { bench with reported := bench.reported.erase name }

/-- Performs a step on allocators and buffers. -/
def performBuffer : BufferStep → WorldAct Reply
  | .allocate name source size => do
    let id ← allocator source
    let made ← Ledger.allocate id size
    storeBuffer name made
    showBuffer name none
  | .copy name source bytes => do
    let id ← allocator source
    let made ← Ledger.copyOf id bytes
    storeBuffer name made
    showBuffer name none
  | .wrap name source bytes => do
    let id ← allocator source
    let made ← Ledger.wrap id bytes
    storeBuffer name made
    showBuffer name none
  | .make name spec => do
    let made ← makeBuffer spec
    storeBuffer name made
    showBuffer name none
  | .compose name parts => do
    let made ← takeBuffers parts
    storeBuffer name (.compose made)
    showBuffer name (some (.number 0))
  | .move name source => do
    if name ≠ source then
      let content ← takeBuffer source
      storeBuffer name content
    let left ← buffer source
    showBuffer name (some (.status left.status))
  | .write name bytes => do
    onBuffer name fun buffer => return ((), ← buffer.write bytes)
    showBuffer name none
  | .skipReadable name count => do
    onBuffer name fun buffer => return ((), ← buffer.skipReadable count)
    showBuffer name none
  | .skipWritable name count => do
    onBuffer name fun buffer => return ((), ← buffer.skipWritable count)
    showBuffer name none
  | .readAll name => do
    let bytes ← onBuffer name Buffer.readAll
    showBuffer name (some (.bytes bytes))
  | .content name => do
    let content := (← buffer name).toBytes
    showBuffer name (some (.bytes content))
  | .close name => do
    let before ← buffer name
    setBuffer name before.close
    Ledger.discard before
    showBuffer name none
  | .touch name hint => do
    onBuffer name fun buffer => pure ((), buffer.touch hint)
    showBuffer name none
  | .status name => showBuffer name none
  | .drop name => do
    let before := ((← bench).buffers.get? name).getD .closed
    arrange fun bench => { bench with buffers := bench.buffers.erase name }
    Ledger.discard before
    pure {}
  | .visitReadable name stop skips => do
    let walk ← onBuffer name fun buffer =>
      let (after, walk) := buffer.visitReadable fun index _ =>
        { advance := skips.getD index 0, proceed := (index : Int) ≠ stop }
      pure (walk, after)
    let result ← walkResult walk
      (visits walk Component.readable fun c => some c.readableBytes)
    showBuffer name (some result)
  | .visitWritable name stop skips fill => do
    let walk ← onBuffer name fun buffer =>
      let (after, walk) := buffer.visitWritable fun index _ =>
        { fill := fill, advance := skips.getD index 0, proceed := (index : Int) ≠ stop }
      pure (walk, after)
    let result ← walkResult walk (visits walk Component.room fun _ => none)
    showBuffer name (some result)
  | .makeAllocator name kind => do
    let id ← Ledger.openAccount kind
    arrange fun bench => { bench with allocators := bench.allocators.put name id }
    forgetReported name
    pure { result := some (.kind kind) }
  | .limitAllocator name allowance => do
    let id ← allocator name
    modify fun world =>
      { world with host := { world.host with ledger := world.host.ledger.limit id allowance } }
    pure {}
  | .dropAllocator name => do
    arrange fun bench => { bench with allocators := bench.allocators.erase name }
    forgetReported name
    pure {}

/-! ## Messages -/

/-- Shows a stored message beside a result. -/
def showMessage (name : String) (result : Option Value) : WorldAct Reply := do
  let message ← message name
  pure { result := result, message := some message.view }

/-- How a stored message looks. -/
def viewMessage (name : String) : WorldAct Value := do
  return .message (← message name).view

/-- Performs a step on stored messages. A replacement shows the message that was its model as it
was, also where it takes the name of the model. -/
def performMessage : MessageStep → WorldAct Reply
  | .store name spec => do
    let made ← makeMessage spec
    storeMessage name made
    pure { result := some (← viewMessage name) }
  | .view name => do
    pure { result := some (← viewMessage name) }
  | .touch name hint => do
    let before ← message name
    setMessage name (before.withContent (before.content.touch hint))
    showMessage name (some (.flag true))
  | .replace source name content => do
    let model ← message source
    let content ← makeBuffer content
    if model = .empty then Ledger.discard content
    storeMessage name (model.withContent content)
    showMessage name (some (.message model.view))
  | .move source name => do
    if name ≠ source then
      let moved ← message source
      setMessage source moved.movedFrom
      storeMessage name moved
    showMessage name (some (← viewMessage source))
  | .take name target => do
    let before ← message name
    setMessage name before.movedFrom
    storeBuffer target before.content
    showBuffer target (some (← viewMessage name))
  | .drop name => do
    let before := ((← bench).messages.get? name).getD .empty
    arrange fun bench => { bench with messages := bench.messages.erase name }
    Ledger.discard before.content
    pure {}

/-! ## Gathers -/

/-- Adds a region several times; says whether the last one was accepted. -/
def addTimes (region : Region) : (times : Nat) → Gather → Bool × Gather
  | 0, gather => (false, gather)
  | 1, gather => gather.add region
  | times + 1, gather => addTimes region times (gather.add region).2

/-- Changes a gather, and shows it beside what the change says. -/
def onGather (name : String) (act : Gather → WorldAct (Option Bool × Gather)) :
    WorldAct Reply := do
  let before ← find Bench.gathers name
  let (result, after) ← act before
  arrange fun bench => { bench with gathers := bench.gathers.put name after }
  pure { result := result.map .flag, gather := some after }

/-- Performs a step on a gather. -/
def performGather (name : String) : GatherStep → WorldAct Reply
  | .make maxBytes => do
    let gather := Gather.empty maxBytes
    arrange fun bench => { bench with gathers := bench.gathers.put name gather }
    pure { gather := some gather }
  | .add length times => onGather name fun gather => do
    let (accepted, gather) := addTimes ⟨length, []⟩ times gather
    pure (some accepted, gather)
  | .addView length => onGather name fun gather => do
    let (accepted, gather) := gather.add ⟨length.getD 0, []⟩
    pure (some accepted, gather)
  | .addBuffer source => onGather name fun gather => do
    let buffer ← buffer source
    let (accepted, gather) := gather.addReadable buffer
    pure (some accepted, gather)
  | .clear => onGather name fun gather => pure (none, gather.clear)

end UdpTransport.Scenario.World
