import UdpTransport.Channel.Lifecycle

/-!
# Outgoing messages

A message is prepared (`prepare`) before it is queued. Its payload then is direct memory in few
enough regions for one send; a payload of another kind is copied, and the copy keeps the addressing
and the hint. A message that is turned down stays as it was.

`offer` makes one attempt to send a message: no system call for an empty payload, one send of one
stretch of memory, or one gather of several. A stretch that was taken in part keeps the rest
readable; a gather is taken as a whole or not at all.
-/

namespace UdpTransport.Channel

variable {ε ω : Type}

/-- Whether a payload has to be copied before it can be sent later. -/
def needsCopy (payload : Buffer) : Bool :=
  !payload.isDirect || Gather.maxRegions < payload.readableComponents.length

/-- The allocator of direct copies: the configured one if it makes direct memory, otherwise one of
the channel's own. -/
def directAllocator : SiteAct ε ω AllocatorId := do
  let site ← get
  let configured := site.channel.config.allocator
  if (site.host.ledger.account? configured).any (·.kind = .direct) then pure configured
  else
    match site.channel.fallback with
    | some id => pure id
    | none =>
      let id ← Ledger.openAccount .direct
      change fun channel => { channel with fallback := some id }
      pure id

/-- A direct copy of what is readable in a payload. -/
def directCopy (payload : Buffer) : SiteAct ε ω Buffer := do
  let id ← directAllocator
  let copy ← Ledger.allocate id payload.readable
  let copy ← copy.write payload.toBytes
  pure (if payload.hint.isEmpty then copy else copy.touch payload.hint)

/-- Admits a message for sending. Gives the admitted message, and what is left of the one handed
in. -/
def prepare (message : Message) : SiteAct ε ω (Message × Message) := do
  if ¬ message.isSendable then Act.violate (.messageKind message.form)
  let payload := message.content
  if needsCopy payload then
    let copy ← directCopy payload
    Ledger.discard payload
    pure (message.withContent copy, message.withContent payload.close)
  else pure (message, message.movedFrom)

/-- The largest stretch of memory that can be handed over by its address. -/
def clip (access : Access) (amount : Nat) : Nat :=
  match access with
  | .address => min amount maxInt32
  | .view => amount

/-- How the memory of a component is handed over. -/
def accessOf (c : Component) : Access := if c.isDirect then .address else .view

/-- The payload after a send took bytes from its only readable component. -/
def taken (payload : Buffer) (c : Component) (amount : Int) : Except Fault Buffer :=
  if amount ≤ 0 then .ok payload
  else if amount.toNat ≤ c.readable then
    .ok (payload.withComponents
      (Buffer.updateFirst Component.isReadable (·.consume amount.toNat) payload.components))
  else .error (.violation (.skipReadable amount.toNat c.readable))

/-- What an attempt asks of the endpoint, if anything. -/
def requestOf (message : Message) : Except Fault (Option SendRequest) :=
  let payload := message.content
  if message = .empty then .error (.violation (.messageKind message.form))
  else if payload.readable = 0 then .ok none
  else
    match payload.readableComponents with
    | [c] =>
      let access := accessOf c
      .ok (some
        { payload := .single access (c.readableBytes.take (clip access c.readable))
          recipient := message.recipient
          segmentSize := message.segmentSize })
    | _ =>
      let (fits, regions) := (Gather.empty Gather.maxReported).addReadable payload
      if fits then
        .ok (some
          { payload := .gather regions
            recipient := message.recipient
            segmentSize := message.segmentSize })
      else .error (.violation .payloadTooScattered)

/-- What an attempt makes of the number of bytes that the endpoint took: the message as it is
afterwards, and whether it is done with. -/
def verdictOf (message : Message) (amount : Int) : Except Fault (Message × Bool) :=
  match message.content.readableComponents with
  | [c] => do
    let rest ← taken message.content c amount
    pure (message.withContent rest, rest.readable = 0)
  | _ => .ok (message, 0 < amount)

/-- Makes one attempt to send a message. Gives the message as it is afterwards, and whether it is
done with. -/
def offer [Endpoint ε] (message : Message) : NativeAct ε (Message × Bool) := do
  match ← requestOf message with
  | none => pure (message, true)
  | some request =>
    let amount ← Endpoint.send request
    verdictOf message amount

end UdpTransport.Channel
