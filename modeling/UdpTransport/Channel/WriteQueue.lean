import UdpTransport.Channel.Outbound

/-!
# The write queue

Messages are queued in the order in which they are written and leave the queue from the front.
`write` never fails: a message that is not admitted, or that comes too late, settles its promise at
once. `flush` sends from the front of the queue until the queue is empty, a message is not taken
after `spinCount` attempts, or `maxWrites` messages are through; a message that fails is dropped
with its promise settled, and the next one is tried. What stays in the queue waits for the endpoint
to become writable.
-/

namespace UdpTransport.Channel

variable {ε ω : Type}

/-- Queues a message. -/
def write [Endpoint ε] (message : Message) : SiteAct ε ω Ticket := do
  let ticket ← Futures.issue
  if ← isOpen then
    match ← (prepare message : SiteAct ε ω (Message × Message)).capture with
    | .ok (admitted, rest) =>
      Ledger.discard rest.content
      change fun channel =>
        { channel with pending := channel.pending ++ [⟨admitted, ticket⟩] }
    | .error fault =>
      Futures.settle ticket (.failed fault)
      Ledger.discard message.content
  else
    Futures.settle ticket (.failed (.violation .writeAfterClose))
    Ledger.discard message.content
  pure ticket

/-- Makes up to `attempts` attempts to send a message, until it is done with. -/
def spin [Endpoint ε] : (attempts : Nat) → Message → NativeAct ε (Message × Bool)
  | 0, message => pure (message, false)
  | attempts + 1, message => do
    let (message, done) ← offer message
    if done then pure (message, true) else spin attempts message

/-- How the front of the queue fared. -/
inductive Attempt where
  | sent (message : Message)
  | waiting (message : Message)
  | failed (fault : Fault)

/-- What the result of attempts means for the front of the queue. -/
def Attempt.ofResult : Except Fault (Message × Bool) → Attempt
  | .ok (message, true) => .sent message
  | .ok (message, false) => .waiting message
  | .error fault => .failed fault

/-- Tries to send a message as often as one flush allows. -/
def attempt [Endpoint ε] (attempts : Nat) (message : Message) : NativeAct ε Attempt := do
  return .ofResult (← (spin attempts message : NativeAct ε (Message × Bool)).capture)

/-- Settles the front of the queue if its message is through, one way or the other. A failed attempt
leaves the message as it was before it, so its payload is given back as it stands in the queue. -/
def conclude (head : PendingWrite) : Attempt → SiteAct ε ω Unit
  | .waiting _ => pure ()
  | .sent message => do
    Futures.settle head.ticket .done
    Ledger.discard message.content
  | .failed fault => do
    Native.writeLog .warn logTag ("dropping outbound message: " ++ fault.message)
    Futures.settle head.ticket (.failed fault)
    Ledger.discard head.message.content

/-- Works through the front of a queue; gives what stays in it. -/
def drain [Endpoint ε] (attempts : Nat) :
    (budget : Nat) → List PendingWrite → SiteAct ε ω (List PendingWrite)
  | 0, queue => pure queue
  | _, [] => pure []
  | budget + 1, head :: rest => do
    let verdict ← (attempt attempts head.message : NativeAct ε Attempt)
    conclude head verdict
    match verdict with
    | .waiting message => pure ({ head with message := message } :: rest)
    | _ => drain attempts budget rest

/-- Sends queued messages. -/
def flush [Endpoint ε] : SiteAct ε ω Unit := do
  let channel ← current
  let rest ← drain channel.config.spinCount.toNat channel.config.maxWrites.toNat channel.pending
  change fun channel => { channel with pending := rest }
  setWriteInterest !rest.isEmpty

/-- Queues a message and sends what is queued. -/
def writeAndFlush [Endpoint ε] (message : Message) : SiteAct ε ω Ticket := do
  let ticket ← write message
  flush
  pure ticket

end UdpTransport.Channel
