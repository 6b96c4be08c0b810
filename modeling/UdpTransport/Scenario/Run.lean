import UdpTransport.Scenario.Buffers
import UdpTransport.Scenario.Channels
import UdpTransport.Scenario.Sockets

/-!
# Running a scenario

`Scenario.run` performs the steps of a scenario one after the other, shows a report after each, then
destroys every object that is left, and shows a last report.

Handlers are played by `listener`: a callback performs the next script laid down for it. A script is
a list of steps, so its steps may make channels call back again; every nested call uses up another
script, and there are no more of those than the scenario contains, which bounds the depth.
-/

namespace UdpTransport.Scenario

namespace World

/-! ## Handlers -/

/-- The next script for a callback; the others stay for later. -/
def nextScript (callback : Callback) (scripts : Scripts) : List Step × Scripts :=
  match callback with
  | .packet _ => (scripts.packet.headD [], { scripts with packet := scripts.packet.tail })
  | .readComplete =>
    (scripts.complete.headD [], { scripts with complete := scripts.complete.tail })
  | .failure _ => (scripts.failure.headD [], { scripts with failure := scripts.failure.tail })

/-- Takes the next script for a callback of a channel. -/
def takeScript (channel : String) (callback : Callback) : WorldAct (List Step) := do
  let (script, rest) := nextScript callback (((← bench).handlers.get? channel).getD {})
  arrange fun bench => { bench with handlers := bench.handlers.put channel rest }
  pure script

/-- Changes the innermost packet in hand. -/
def changeInHand (f : Packet → Packet) : WorldAct Unit :=
  arrange fun bench =>
    { bench with
      inHand := match bench.inHand with
        | [] => []
        | packet :: rest => f packet :: rest }

/-- Takes the content of the packet in hand away. -/
def takeInHand : WorldAct (Option Packet) := do
  let held := (← bench).inHand.head?
  changeInHand fun packet => { packet with content := .closed }
  pure held

/-- Sends the packet in hand back to its sender. -/
def performEcho (channel : String) : WorldAct Reply := do
  let _ ← station channel
  match ← takeInHand with
  | none => pure {}
  | some packet =>
    handedOut (onChannel channel (Channel.write (.packet ⟨packet.content, packet.sender, none⟩)))

/-- Stores the packet in hand, and shows the channel; it fails after all if none of this name was
ever asked for. -/
def performKeep (channel name : String) : WorldAct Reply := do
  match ← takeInHand with
  | none => pure ()
  | some packet => storeMessage name (.packet packet)
  known channel
  showChannel channel {}

/-- Runs an act with a packet in hand; what is left of the packet is given back. -/
def holding (packet : Packet) (act : WorldAct Unit) : WorldAct Unit := do
  arrange fun bench => { bench with inHand := packet :: bench.inHand }
  act.ensuring do
    let left := (← bench).inHand.head?
    arrange fun bench => { bench with inHand := bench.inHand.tail }
    match left with
    | some packet => Ledger.discard packet.content
    | none => pure ()

/-! ## Steps -/

/-- Lays down answers of the kernel after those laid down before. -/
def performKernel (answers : Script) : WorldAct Reply := do
  (modify fun native =>
    { native with kernel :=
        { native.kernel with script := native.kernel.script.append answers } } : Act Native Unit)
  pure {}

/-- Performs a step; the listener plays the handlers. -/
def perform (listener : Listener Bench) : Step → WorldAct Reply
  | .buffer step => performBuffer step
  | .message step => performMessage step
  | .gather name step => performGather name step
  | .makePolicy name spec => performMakePolicy name spec
  | .changePolicy name heed count => performChangePolicy name heed count
  | .makeHandle name policy => performMakeHandle name policy
  | .handle name step => performHandle name step
  | .log step => performLog step
  | .openChannel name spec => do
    makeChannel name spec
    pure {}
  | .channel name step => performChannel listener name step
  | .script name packet complete failure => performScript name packet complete failure
  | .socket name step => performSocket name step
  | .kernel answers => performKernel answers
  | .loop name step => performLoop listener name step
  | .fail fault => throw fault
  | .echo channel => performEcho channel
  | .keep channel name => performKeep channel name

/-- Performs steps in order, up to the first that fails. -/
def performAll (listener : Listener Bench) : List Step → WorldAct Unit
  | [] => pure ()
  | step :: rest => do
    let _ ← perform listener step
    performAll listener rest

/-- Plays the handlers of all channels; callbacks nested deeper than `depth` do nothing. -/
def listener : (depth : Nat) → Listener Bench
  | 0 => fun _ callback =>
    match callback with
    | .packet packet => holding packet (pure ())
    | _ => pure ()
  | depth + 1 => fun channel callback => do
    let script ← takeScript channel callback
    let act := performAll (listener depth) script
    match callback with
    | .packet packet => holding packet act
    | _ => act

/-! ## Reports -/

/-- The futures that became ready, and those still awaited. -/
def readyFutures (futures : Futures) :
    List (Nat × Ticket) → List (Nat × Outcome) × List (Nat × Ticket)
  | [] => ([], [])
  | (number, ticket) :: rest =>
    let (ready, awaited) := readyFutures futures rest
    match futures.outcome? ticket with
    | some outcome => ((number, outcome) :: ready, awaited)
    | none => (ready, (number, ticket) :: awaited)

/-- The accounts of allocators whose counts are not as last reported. -/
def changedAccounts (ledger : Ledger) (reported : Named (Nat × Nat)) :
    List (String × AllocatorId) → List (String × Account)
  | [] => []
  | (name, id) :: rest =>
    let others := changedAccounts ledger reported rest
    match ledger.account? id with
    | some account =>
      if reported.get? name = some (account.allocated, account.released) then others
      else (name, account) :: others
    | none => others

/-- Shows how a step went and what is new since the report before. -/
def report (outcome : StepOutcome) (world : World) : Report × World :=
  let bench := world.outside
  let native := world.host.native
  let (ready, awaited) := readyFutures world.host.futures bench.awaited
  let accounts := changedAccounts world.host.ledger bench.reported bench.allocators.entries
  let reported := accounts.foldl
    (fun reported (name, account) => reported.put name (account.allocated, account.released))
    bench.reported
  (⟨outcome, native.console, native.journal.toList, ready, accounts⟩,
    { world with
      host := { world.host with native := { native with journal := #[], console := "" } }
      outside := { bench with awaited := awaited, reported := reported } })

/-- Runs an act and reports how it went. -/
def reporting (act : WorldAct Reply) (world : World) : Report × World :=
  match act world with
  | .ok reply world => report (.done reply) world
  | .error fault world => report (.failed fault) world

/-! ## The end -/

/-- Does something for each name in order. -/
def forNames (act : String → WorldAct Unit) : List String → WorldAct Unit
  | [] => pure ()
  | name :: rest => do
    act name
    forNames act rest

/-- Destroys every object that is left: messages, buffers, channels, sockets and event loops;
channels in the order of their names, sockets and event loops in the reverse order. -/
def dismantle : WorldAct Reply := do
  let objects ← bench
  arrange fun bench => { bench with messages := {}, buffers := {} }
  Ledger.discard (.compose (objects.messages.values.map Message.content))
  Ledger.discard (.compose objects.buffers.values)
  forNames Transport.remove (← get).stations.names
  arrange fun bench => { bench with sockets := {}, loops := {} }
  for socket in objects.sockets.values.reverse do
    (socket.drop : Act Native Unit)
  for loop in objects.loops.values.reverse do
    EventLoop.drop loop
  pure {}

/-- The allocators that every scenario begins with: one of direct memory and one of heap memory,
both counted as reported. -/
def initial (threshold : Log.Level) : World where
  host :=
    { native := { log := { threshold := threshold } }
      ledger := ⟨[{ kind := .direct }, { kind := .heap }]⟩ }
  outside :=
    { allocators := (Named.empty.put "d" 0).put "h" 1
      reported := (Named.empty.put "d" (0, 0)).put "h" (0, 0) }

/-- Reports on each step in order. -/
def reportAll (listener : Listener Bench) : List Step → World → List Report × World
  | [], world => ([], world)
  | step :: rest, world =>
    let (first, world) := reporting (perform listener step) world
    let (others, world) := reportAll listener rest world
    (first :: others, world)

end World

/-- Runs a scenario: a report for each step, and one for the end. -/
def run (threshold : Log.Level) (steps : List Step) : List Report :=
  let (reports, world) :=
    World.reportAll (World.listener (scriptsOf steps)) steps (World.initial threshold)
  reports ++ [(World.reporting World.dismantle world).1]

end UdpTransport.Scenario
