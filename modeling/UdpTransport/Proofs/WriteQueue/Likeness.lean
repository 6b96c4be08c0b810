import UdpTransport.Proofs.Mirrors
import UdpTransport.Proofs.WriteQueue.Accounts

/-!
# Channels over like endpoints

A channel knows its endpoint by what it asks of it. If two endpoints are open alike, and answer a
send, a close and the end of their use alike (`Endpoint.Alike`), then the same happens to the
messages of a channel over one of them as to those of a channel over the other, and the two stay
alike (`historyOf_mapEndpoint`, `runAll_mapEndpoint`). So what is to be known about a channel may be
seen over an endpoint that notes down more than the one in use.
-/

namespace UdpTransport

/-! ## Like endpoints -/

/-- What the write queue asks of endpoints, one answers as the other does. -/
structure Endpoint.Alike {ε ε' : Type} [Endpoint ε] [Endpoint ε'] (φ : ε → ε') : Prop where
  isOpen : ∀ e, Endpoint.isOpen (φ e) = Endpoint.isOpen e
  send : ∀ request, Act.Mirrors (Prod.map φ id) (Endpoint.send request : NativeAct ε Int)
    (Endpoint.send request)
  close : Act.Mirrors (Prod.map φ id) (Endpoint.close : NativeAct ε Unit) Endpoint.close
  drop : Act.Mirrors (Prod.map φ id) (Endpoint.drop : NativeAct ε Unit) Endpoint.drop

namespace Channel

variable {ε ε' ω α : Type} {φ : ε → ε'}

/-! ## Admitting -/

/-- The allocator for copies is found without the endpoint. -/
theorem mirrored_directAllocator :
    Mirrored φ (directAllocator : SiteAct ε ω AllocatorId) directAllocator := by
  refine Act.mirrors_get fun site => Act.mirrors_ite (Act.mirrors_pure _) ?_
  dsimp only [Site.mapEndpoint]
  cases site.channel.fallback with
  | some id => exact Act.mirrors_pure id
  | none =>
    exact Act.mirrors_bind (mirrored_ledger _) fun id =>
      Act.mirrors_bind (mirrored_change _) fun _ => Act.mirrors_pure id

/-- So a message is admitted alike over all endpoints. -/
theorem mirrored_prepare (message : Message) :
    Mirrored φ (prepare message : SiteAct ε ω (Message × Message)) (prepare message) := by
  have hcopy : Mirrored φ (directCopy message.content : SiteAct ε ω Buffer)
      (directCopy message.content) := by
    refine Act.mirrors_bind mirrored_directAllocator fun id => ?_
    refine Act.mirrors_bind (mirrored_ledger _) fun copy => ?_
    exact Act.mirrors_bind (Act.mirrors_ofExcept _) fun copy => Act.mirrors_pure _
  have hadmit : Mirrored φ (do
      if needsCopy message.content then
        let copy ← directCopy message.content
        Ledger.discard message.content
        pure (message.withContent copy, message.withContent message.content.close)
      else pure (message, message.movedFrom) : SiteAct ε ω (Message × Message)) _ :=
    Act.mirrors_ite (Act.mirrors_bind hcopy fun _ =>
      Act.mirrors_bind (mirrored_ledger _) fun _ => Act.mirrors_pure _) (Act.mirrors_pure _)
  exact Act.mirrors_ite (Act.mirrors_bind (Act.mirrors_throw _) fun _ => hadmit) hadmit

variable [Endpoint ε] [Endpoint ε'] (h : Endpoint.Alike φ)

include h

/-- A write asks the endpoint whether it is open, and nothing else. -/
theorem mirrored_write (message : Message) :
    Mirrored φ (write message : SiteAct ε ω Ticket) (write message) := by
  have hrefuse (ticket : Ticket) (outcome : Outcome) : Mirrored φ (do
      Futures.settle ticket outcome
      Ledger.discard message.content
      pure ticket : SiteAct ε ω Ticket) _ :=
    Act.mirrors_bind (mirrored_futures _) fun _ =>
      Act.mirrors_bind (mirrored_ledger _) fun _ => Act.mirrors_pure ticket
  refine Act.mirrors_bind (mirrored_futures _) fun ticket => ?_
  refine Act.mirrors_bind (mirrored_isOpen h.isOpen) fun _ => Act.mirrors_ite ?_ (hrefuse ticket _)
  refine Act.mirrors_bind (Act.mirrors_capture (mirrored_prepare message)) fun result => ?_
  cases result with
  | ok messages =>
    exact Act.mirrors_bind (mirrored_ledger _) fun _ =>
      Act.mirrors_bind (mirrored_change _) fun _ => Act.mirrors_pure ticket
  | error fault => exact hrefuse ticket _

/-! ## Attempts -/

/-- One attempt is one send, on either side. -/
theorem mirrors_offer (message : Message) :
    Act.Mirrors (Prod.map φ id) (offer message : NativeAct ε (Message × Bool)) (offer message) := by
  -- What is asked of an endpoint is up to the message.
  cases hrequest : requestOf message with
  | error fault =>
    rw [offer_of_error hrequest, offer_of_error hrequest]
    exact Act.mirrors_throw fault
  | ok request? =>
    cases request? with
    | none =>
      rw [offer_of_none hrequest, offer_of_none hrequest]
      exact Act.mirrors_pure (message, true)
    | some request =>
      rw [offer_of_some hrequest, offer_of_some hrequest]
      exact Act.mirrors_bind (h.send request) fun amount => Act.mirrors_ofExcept _

/-- Attempts that give up after the same number of sends. -/
theorem mirrors_attempt (attempts : Nat) (message : Message) :
    Act.Mirrors (Prod.map φ id) (attempt attempts message : NativeAct ε Attempt)
      (attempt attempts message) := by
  have hspin : Act.Mirrors (Prod.map φ id) (spin attempts message : NativeAct ε (Message × Bool))
      (spin attempts message) := by
    induction attempts generalizing message with
    | zero => exact Act.mirrors_pure (message, false)
    | succ attempts ih =>
      exact Act.mirrors_bind (mirrors_offer h message) fun (left, _) =>
        Act.mirrors_ite (Act.mirrors_pure (left, true)) (ih left)
  exact Act.mirrors_bind (Act.mirrors_capture hspin) fun _ => Act.mirrors_pure _

theorem mirrors_trySeveral (attempts : Nat) (message : Message) :
    Act.Mirrors (Prod.map φ id)
      (trySeveral attempts message : NativeAct ε (Attempt × List (Message × Attempt)))
      (trySeveral attempts message) := by
  induction attempts generalizing message with
  | zero => exact Act.mirrors_pure _
  | succ attempts ih =>
    refine Act.mirrors_bind ?_ fun verdict => ?_
    · exact Act.mirrors_bind (Act.mirrors_capture (mirrors_offer h message)) fun _ =>
        Act.mirrors_pure _
    · cases verdict with
      | waiting left => exact Act.mirrors_bind (ih left) fun _ => Act.mirrors_pure _
      | sent left => exact Act.mirrors_pure _
      | failed fault => exact Act.mirrors_pure _

omit [Endpoint ε] [Endpoint ε'] h in
/-- To settle the front of the queue is a matter of promises and memory. -/
theorem mirrored_conclude (head : PendingWrite) (verdict : Attempt) :
    Mirrored φ (conclude head verdict : SiteAct ε ω Unit) (conclude head verdict) := by
  cases verdict with
  | waiting left => exact Act.mirrors_pure ()
  | sent left => exact Act.mirrors_bind (mirrored_futures _) fun _ => mirrored_ledger _
  | failed fault =>
    exact Act.mirrors_bind (mirrored_plain _) fun _ =>
      Act.mirrors_bind (mirrored_futures _) fun _ => mirrored_ledger _

/-- So a queue is drained alike. -/
theorem mirrored_drain (attempts budget : Nat) (queue : List PendingWrite) :
    Mirrored φ (drain attempts budget queue : SiteAct ε ω (List PendingWrite))
      (drain attempts budget queue) := by
  induction budget generalizing queue with
  | zero => exact Act.mirrors_pure queue
  | succ budget ih =>
    cases queue with
    | nil => exact Act.mirrors_pure []
    | cons head rest =>
      refine Act.mirrors_bind (mirrored_native (mirrors_attempt h _ _)) fun verdict => ?_
      refine Act.mirrors_bind (mirrored_conclude head verdict) fun _ => ?_
      cases verdict with
      | waiting left => exact Act.mirrors_pure _
      | sent left => exact ih rest
      | failed fault => exact ih rest

theorem mirrored_drainTold (attempts budget : Nat) (queue : List PendingWrite) :
    Mirrored φ (drainTold attempts budget queue : SiteAct ε ω (List PendingWrite × List WriteEvent))
      (drainTold attempts budget queue) := by
  induction budget generalizing queue with
  | zero => exact Act.mirrors_pure _
  | succ budget ih =>
    cases queue with
    | nil => exact Act.mirrors_pure _
    | cons head rest =>
      refine Act.mirrors_bind (mirrored_native (mirrors_trySeveral h _ _))
        fun (verdict, tries) => ?_
      refine Act.mirrors_bind (mirrored_conclude head verdict) fun _ => ?_
      cases verdict with
      | waiting left => exact Act.mirrors_pure _
      | sent left => exact Act.mirrors_bind (ih rest) fun _ => Act.mirrors_pure _
      | failed fault => exact Act.mirrors_bind (ih rest) fun _ => Act.mirrors_pure _

/-- A flush drains the queue and waits for the rest, alike on both sides. -/
theorem mirrored_flush : Mirrored φ (flush : SiteAct ε ω Unit) flush := by
  refine Act.mirrors_bind mirrored_current fun channel => ?_
  refine Act.mirrors_bind (mirrored_drain h _ _ _) fun rest => ?_
  refine Act.mirrors_bind (mirrored_change _) fun _ => ?_
  refine Act.mirrors_bind mirrored_current fun channel => ?_
  cases channel.registration with
  | some registration => exact mirrored_plain _
  | none => exact Act.mirrors_pure ()

/-! ## Closing -/

omit [Endpoint ε] [Endpoint ε'] h in
/-- What is failed is failed without the endpoint. -/
theorem mirrored_failPending (fault : Fault) :
    Mirrored φ (failPending fault : SiteAct ε ω Unit) (failPending fault) := by
  have hall (queue : List PendingWrite) :
      Mirrored φ (failAll fault queue : SiteAct ε ω Unit) (failAll fault queue) := by
    induction queue with
    | nil => exact Act.mirrors_pure ()
    | cons write rest ih =>
      exact Act.mirrors_bind (mirrored_futures _) fun _ =>
        Act.mirrors_bind (mirrored_ledger _) fun _ => ih
  exact Act.mirrors_bind mirrored_current fun channel =>
    Act.mirrors_bind (mirrored_change _) fun _ => hall channel.pending

omit [Endpoint ε] [Endpoint ε'] h in
theorem mirrored_detach : Mirrored φ (detach : SiteAct ε ω Unit) detach := by
  refine Act.mirrors_bind mirrored_current fun channel => ?_
  cases channel.registration with
  | some registration =>
    exact Act.mirrors_bind (mirrored_change _) fun _ => mirrored_plain _
  | none => exact Act.mirrors_pure ()

/-- Closing asks the endpoint to close, after what was queued has failed. -/
theorem mirrored_close : Mirrored φ (close : SiteAct ε ω Unit) close := by
  refine Act.mirrors_bind (mirrored_isOpen h.isOpen) fun _ =>
    Act.mirrors_ite ?_ (Act.mirrors_pure ())
  refine Act.mirrors_bind (mirrored_change _) fun _ => ?_
  refine Act.mirrors_bind (mirrored_failPending _) fun _ => ?_
  refine Act.mirrors_bind mirrored_detach fun _ => ?_
  refine Act.mirrors_bind (mirrored_change _) fun _ => ?_
  exact Act.mirrors_bind (mirrored_native h.close) fun _ => mirrored_plain _

theorem mirrored_drop : Mirrored φ (drop : SiteAct ε ω Unit) drop := by
  have hrest : Mirrored φ (do
      failPending .brokenPromise
      (Endpoint.drop : NativeAct ε Unit) : SiteAct ε ω Unit) _ :=
    Act.mirrors_bind (mirrored_failPending _) fun _ => mirrored_native h.drop
  refine Act.mirrors_bind (Act.mirrors_capture (mirrored_close h)) fun result => ?_
  cases result with
  | ok _ => exact hrest
  | error fault => exact Act.mirrors_bind (mirrored_plain _) fun _ => hrest

/-! ## Runs -/

/-- Every operation on the queue is mirrored. -/
theorem mirrored_run (op : QueueOp) : Mirrored φ (op.run : SiteAct ε ω Unit) op.run := by
  cases op with
  | write message =>
    exact Act.mirrors_bind (mirrored_write h message) fun _ => Act.mirrors_pure ()
  | writeAndFlush message =>
    refine Act.mirrors_bind ?_ fun _ => Act.mirrors_pure ()
    exact Act.mirrors_bind (mirrored_write h message) fun ticket =>
      Act.mirrors_bind (mirrored_flush h) fun _ => Act.mirrors_pure ticket
  | flush => exact mirrored_flush h
  | close => exact mirrored_close h
  | drop => exact mirrored_drop h

theorem writeEvents_mapEndpoint (message : Message) (site : Site ε ω) :
    writeEvents message (site.mapEndpoint φ) = writeEvents message site := by
  have hopen : Endpoint.isOpen (site.mapEndpoint φ).endpoint = Endpoint.isOpen site.endpoint :=
    h.isOpen site.endpoint
  obtain ⟨hprepare, -⟩ := mirrored_prepare (φ := φ) message (afterIssue site)
  unfold writeEvents
  rw [hopen, ← hprepare]
  rfl

theorem flushEvents_mapEndpoint (site : Site ε ω) :
    flushEvents (site.mapEndpoint φ) = flushEvents site := by
  obtain ⟨hdrain, -⟩ := mirrored_drainTold h site.channel.config.spinCount.toNat
    site.channel.config.maxWrites.toNat site.channel.pending site
  unfold flushEvents
  dsimp only
  rw [← hdrain]
  rfl

/-- And it is told of in the same words. -/
theorem events_mapEndpoint (op : QueueOp) (site : Site ε ω) :
    op.events (site.mapEndpoint φ) = op.events site := by
  have hleave : leaveEvents (site.mapEndpoint φ) = leaveEvents site := by
    unfold leaveEvents
    rw [show Endpoint.isOpen (site.mapEndpoint φ).endpoint = _ from h.isOpen site.endpoint]
    rfl
  cases op with
  | write message => exact writeEvents_mapEndpoint h message site
  | writeAndFlush message =>
    obtain ⟨-, hwrite⟩ := mirrored_write h message site
    rw [QueueOp.events, QueueOp.events, writeEvents_mapEndpoint h, hwrite,
      flushEvents_mapEndpoint h]
  | flush => exact flushEvents_mapEndpoint h site
  | close => exact hleave
  | drop => exact hleave

/-- **The endpoint is known by its answers.** Channels over like endpoints stay alike. -/
theorem runAll_mapEndpoint (ops : List QueueOp) (site : Site ε ω) :
    runAll ops (site.mapEndpoint φ) = (runAll ops site).mapEndpoint φ := by
  induction ops generalizing site with
  | nil => rfl
  | cons op ops ih =>
    rw [runAll, runAll, (mirrored_run h op site).2, ih]

/-- The same happens to the messages of channels over like endpoints. -/
theorem historyOf_mapEndpoint (ops : List QueueOp) (site : Site ε ω) :
    historyOf ops (site.mapEndpoint φ) = historyOf ops site := by
  induction ops generalizing site with
  | nil => rfl
  | cons op ops ih =>
    rw [historyOf, historyOf, (mirrored_run h op site).2, ih, events_mapEndpoint h]

end Channel

end UdpTransport
