import UdpTransport.Proofs.Burst.Order
import UdpTransport.Proofs.WriteQueue.Operations

/-!
# Along the operations of a channel

A relation that holds along the single steps of an operation holds along all of it. For read bursts
and for the write queue this is said here once for any relation: what is asked for is that it holds
along what the channel does on its own account (`Unseen` for bursts), and along what it tells its
handler and its registration.
-/

namespace UdpTransport.Channel

variable {ε ω α β : Type} [Endpoint ε]

/-! ## Fetching a datagram -/

/-- A relation that holds along what it takes to fill a receive buffer: asking the channel for its
addresses and the endpoint for datagrams, and the receive handle. -/
structure Filling (R : Site ε ω → Site ε ω → Prop) (source : HandleSource ω) : Prop where
  localAddress : Act.Within R (localAddress : SiteAct ε ω (Option Address))
  remoteAddress : Act.Within R (remoteAddress : SiteAct ε ω (Option Address))
  readInto : ∀ data, Act.Within R
    (liftM (readInto data : NativeAct ε (Buffer × Int)) : SiteAct ε ω (Buffer × Int))
  receiveInto : ∀ data, Act.Within R
    (liftM (receiveInto data : NativeAct ε (Buffer × Option Received)) :
      SiteAct ε ω (Buffer × Option Received))
  handle : ∀ f, Act.Within R (changeHandle source f : SiteAct ε ω Unit)

/-- A relation that holds along everything that a burst does on its own account: filling receive
buffers, writing down, logging, and memory. -/
structure Unseen (R : Site ε ω → Site ε ω → Prop) (source : HandleSource ω) : Prop
    extends Filling R source where
  told : ∀ name callback, Act.Within R
    (liftM (Native.record (Callback.event name callback)) : SiteAct ε ω Unit)
  log : ∀ level tag text, Act.Within R
    (liftM (Native.writeLog level tag text) : SiteAct ε ω Unit)
  memory : ∀ {α : Type} (act : Act Ledger α), Act.Within R (liftM act : SiteAct ε ω α)

/-- What is unseen for a finer relation is unseen for a coarser one. -/
theorem Unseen.mono {R R' : Site ε ω → Site ε ω → Prop} {source : HandleSource ω}
    (h : Unseen R source) (himp : ∀ site site', R site site' → R' site site') :
    Unseen R' source where
  localAddress := h.localAddress.mono himp
  remoteAddress := h.remoteAddress.mono himp
  readInto data := (h.readInto data).mono himp
  receiveInto data := (h.receiveInto data).mono himp
  told name callback := (h.told name callback).mono himp
  log level tag text := (h.log level tag text).mono himp
  memory act := (h.memory act).mono himp
  handle f := (h.handle f).mono himp

section Endpoints

variable {R : ε × Native → ε × Native → Prop} [IsPreorder (ε × Native) R]

/-- A read into a buffer does to the endpoint what the endpoint's own read does. -/
theorem within_readInto
    (hread : ∀ access room, Act.Within R (Endpoint.read access room : NativeAct ε Incoming))
    (data : Buffer) : Act.Within R (readInto data : NativeAct ε (Buffer × Int)) := by
  unfold readInto
  cases firstWritable? data with
  | none => exact Act.within_pure _
  | some c =>
    refine Act.within_bind (hread _ _) fun incoming => ?_
    split
    · exact Act.within_pure _
    · split
      · exact Act.within_pure _
      · exact Act.within_throw _

/-- The same of a receive that names its sender. -/
theorem within_receiveInto
    (hreceive : ∀ access room,
      Act.Within R (Endpoint.receive access room : NativeAct ε (Option Received)))
    (data : Buffer) :
    Act.Within R (receiveInto data : NativeAct ε (Buffer × Option Received)) := by
  unfold receiveInto
  cases firstWritable? data with
  | none => exact Act.within_pure _
  | some c =>
    refine Act.within_bind (hreceive _ _) fun received? => ?_
    cases received? with
    | none => exact Act.within_pure _
    | some received => exact Act.within_pure _

end Endpoints

section Addresses

variable {R : Site ε ω → Site ε ω → Prop} [IsPreorder (Site ε ω) R]
  (hremembers : ∀ (site : Site ε ω) local? remote?, R site (site.withChannel
    { site.channel with localCache := local?, remoteCache := remote? }))

include hremembers

/-- To tell the local address is to ask the endpoint and to remember what it says. -/
theorem within_localAddress (hask : Act.Within R
      (liftM (Endpoint.localAddress : NativeAct ε Address) : SiteAct ε ω Address)) :
    Act.Within R (localAddress : SiteAct ε ω (Option Address)) := by
  refine Act.within_bind (Act.within_of_after fun _ => rfl) fun channel => ?_
  cases channel.localCache with
  | some address => exact Act.within_pure _
  | none =>
    refine Act.within_bind (Act.within_of_after fun _ => rfl) fun isOpen => ?_
    split
    · refine Act.within_bind hask fun address => ?_
      split
      · exact Act.within_pure none
      · refine Act.within_bind (Act.within_modify fun site => ?_) fun _ => Act.within_pure _
        exact hremembers site (some address) site.channel.remoteCache
    · exact Act.within_pure none

/-- A channel asks its endpoint for the peer at most once, and caches what it hears. -/
theorem within_remoteAddress (hask : Act.Within R
      (liftM (Endpoint.remoteAddress : NativeAct ε (Option Address)) :
        SiteAct ε ω (Option Address))) :
    Act.Within R (remoteAddress : SiteAct ε ω (Option Address)) := by
  refine Act.within_bind (Act.within_of_after fun _ => rfl) fun channel => ?_
  cases channel.remoteCache with
  | some address => exact Act.within_pure _
  | none =>
    dsimp only
    split
    · refine Act.within_bind hask fun address => ?_
      refine Act.within_bind (Act.within_modify fun site => ?_) fun _ => Act.within_pure _
      exact hremembers site site.channel.localCache address
    · exact Act.within_pure none

end Addresses

section Fetching

variable {R : Site ε ω → Site ε ω → Prop} [IsPreorder (Site ε ω) R] {source : HandleSource ω}

omit [Endpoint ε] in
/-- A refused port is told apart from other faults without a further effect. -/
theorem within_connectedRead {act : SiteAct ε ω α} (h : Act.Within R act) :
    Act.Within R (connectedRead act) := by
  refine Act.within_bind (Act.within_capture h) fun result => ?_
  cases result with
  | ok a => exact Act.within_pure a
  | error fault => exact Act.within_throw _

/-- The next packet of a connected channel: one read, and what the handle records of it. -/
theorem within_nextConnected (h : Filling R source) (data : Buffer) :
    Act.Within R (nextConnected source data : SiteAct ε ω (Option Packet)) := by
  refine Act.within_bind (within_connectedRead (h.readInto data)) fun (data, amount) => ?_
  refine Act.within_bind (h.handle _) fun _ => ?_
  split
  · exact Act.within_pure none
  · refine Act.within_bind h.remoteAddress fun sender => ?_
    exact Act.within_bind h.localAddress fun recipient => Act.within_pure _

/-- A receive ends with a change of the handle. -/
theorem within_takeIn (h : Filling R source) (data : Buffer) (received : Received)
    (recipient : Option Address) :
    Act.Within R (takeIn source data received recipient : SiteAct ε ω (Option Packet)) := by
  refine Act.within_bind (h.handle _) fun _ => ?_
  exact Act.within_bind (Act.within_ofExcept _) fun data => Act.within_pure _

/-- The next packet of an unconnected one: one receive, and the same record. -/
theorem within_nextUnconnected (h : Filling R source) (data : Buffer) :
    Act.Within R (nextUnconnected source data : SiteAct ε ω (Option Packet)) := by
  refine Act.within_bind (h.receiveInto data) fun (data, received?) => ?_
  cases received? with
  | none => exact Act.within_bind (h.handle _) fun _ => Act.within_pure none
  | some received =>
    dsimp only
    cases received.local? with
    | some address => exact Act.within_bind (Act.within_pure _) (within_takeIn h data received)
    | none => exact Act.within_bind h.localAddress (within_takeIn h data received)

/-- To fetch a packet is to allocate for it, to receive into that and to give back what is not used.
-/
theorem within_fetch (h : Unseen R source) (allocator : AllocatorId) (connected : Bool) :
    Act.Within R (fetch source allocator connected : SiteAct ε ω (Option Packet)) := by
  refine Act.within_bind (within_handleNow source) fun handle => ?_
  refine Act.within_bind (h.memory _) fun data => ?_
  refine Act.within_bind (h.handle _) fun _ => ?_
  refine Act.within_bind (Act.within_capture ?_) fun result => ?_
  · cases connected with
    | true => exact within_nextConnected h.toFilling data
    | false => exact within_nextUnconnected h.toFilling data
  · cases result with
    | error fault => exact Act.within_bind (h.memory _) fun _ => Act.within_throw fault
    | ok packet? =>
      cases packet? with
      | none => exact Act.within_bind (h.memory _) fun _ => Act.within_pure none
      | some packet => exact Act.within_pure _

end Fetching

/-- A callback is the handler's, with the handle kept around it. -/
theorem within_tell {R : Site ε ω → Site ε ω → Prop} [IsPreorder (Site ε ω) R]
    {source : HandleSource ω} (h : Unseen R source) {handler : Handler ε ω}
    (callback : Callback) (hhandler : Act.Within R (handler callback)) :
    Act.Within R (tell handler callback) := by
  refine Act.within_bind (Act.within_of_after fun _ => rfl) fun channel => ?_
  cases callback with
  | packet packet =>
    exact Act.within_bind (h.told channel.name (.packet packet)) fun _ => hhandler
  | readComplete => exact Act.within_bind (h.told channel.name .readComplete) fun _ => hhandler
  | failure fault =>
    exact Act.within_bind (h.told channel.name (.failure fault)) fun _ => hhandler

/-! ## After the loop -/

/-- What a burst does once its loop has ended, and a failure was logged. -/
def reporting (handler : Handler ε ω) (source : HandleSource ω) (result : Except Fault Unit) :
    SiteAct ε ω Unit := do
  changeHandle source ReceiveHandle.complete
  tell handler .readComplete
  match result with
  | .ok _ => if (← current).config.autoRead then read
  | .error fault => tell handler (.failure fault)

/-- What a burst does once its loop has ended. -/
def concluding (handler : Handler ε ω) (source : HandleSource ω) (result : Except Fault Unit) :
    SiteAct ε ω Unit := do
  match result with
  | .ok _ => pure ()
  | .error _ =>
    Native.writeLog .debug logTag
      s!"read burst ended by an exception after {(← current).burstPackets} packet(s)"
  changeHandle source ReceiveHandle.complete
  tell handler .readComplete
  match result with
  | .ok _ => if (← current).config.autoRead then read
  | .error fault => tell handler (.failure fault)

/-- A burst is its loop and what comes after it. -/
theorem after_burst (handler : Handler ε ω) (source : HandleSource ω) (allocator : AllocatorId)
    (site : Site ε ω) :
    ∃ bound, (burst handler source allocator).after site =
      (concluding handler source
          ((readAll handler source allocator site.channel.connected bound).result site)).after
        ((readAll handler source allocator site.channel.connected bound).after site) := by
  obtain ⟨handle, hhandle⟩ := run_handleNow source site
  obtain ⟨bound, hbound⟩ : ∃ bound, handle.limit.toNat + burstBound = bound := ⟨_, rfl⟩
  refine ⟨bound, ?_⟩
  unfold burst
  rw [Act.after_bind_of_ok (run_current site), Act.after_bind_of_ok hhandle]
  simp only [hbound]
  rw [Act.after_bind_of_ok (Act.run_capture _ site)]
  rfl

section Ending

variable {R : Site ε ω → Site ε ω → Prop} [IsPreorder (Site ε ω) R] {handler : Handler ε ω}
  {source : HandleSource ω} (h : Unseen R source) (hread : Act.Within R (read : SiteAct ε ω Unit))
  (htell : ∀ callback, Act.Within R (tell handler callback))

include h hread htell

/-- The end is told, and then a fault is reported or a read asked for again. -/
theorem within_reporting (result : Except Fault Unit) :
    Act.Within R (reporting handler source result) := by
  refine Act.within_bind (h.handle _) fun _ => ?_
  refine Act.within_bind (htell _) fun _ => ?_
  cases result with
  | ok _ =>
    refine Act.within_bind (Act.within_of_after fun _ => rfl) fun channel => ?_
    split
    · exact hread
    · exact Act.within_pure ()
  | error fault => exact htell _

/-- What follows the loop is that, after a line in the log if the loop failed. -/
theorem within_concluding (result : Except Fault Unit) :
    Act.Within R (concluding handler source result) := by
  have hrest := within_reporting h hread htell result
  cases result with
  | ok _ => exact hrest
  | error fault =>
    refine Act.within_bind (Act.within_of_after fun _ => rfl) fun channel => ?_
    exact Act.within_bind (h.log _ _ _) fun _ => hrest

end Ending

/-! ## The loop -/

section Loop

variable {handler : Handler ε ω} {R : Site ε ω → Site ε ω → Prop} [IsPreorder (Site ε ω) R]
  {source : HandleSource ω}

/-- One round that has a packet hands it on and clears the wish that led to it. -/
theorem within_handOn (h : Unseen R source)
    (hclear : ∀ (site : Site ε ω) packets, R site (site.withChannel
      { site.channel with readPending := false, burstPackets := packets }))
    (htell : ∀ callback, Act.Within R (tell handler callback)) (packet : Packet) :
    Act.Within R (handOn handler source packet) := by
  refine Act.within_bind (h.handle _) fun _ => ?_
  refine Act.within_bind (Act.within_modify fun site => hclear site _) fun _ => ?_
  refine Act.within_bind (htell _) fun _ => Act.within_of_after fun site => ?_
  obtain ⟨on, hrun, _⟩ := run_goesOn source site
  exact Act.after_of_ok hrun

/-- What holds along the steps of a burst holds along all of it. -/
theorem within_burst (h : Unseen R source)
    (hclear : ∀ (site : Site ε ω) packets, R site (site.withChannel
      { site.channel with readPending := false, burstPackets := packets }))
    (hread : Act.Within R (read : SiteAct ε ω Unit))
    (htell : ∀ callback, Act.Within R (tell handler callback)) (allocator : AllocatorId) :
    Act.Within R (burst handler source allocator) := by
  have hloop : ∀ connected bound,
      Act.Within R (readAll handler source allocator connected bound) := by
    intro connected bound
    induction bound with
    | zero => exact Act.within_pure ()
    | succ bound ih =>
      refine Act.within_bind ?_ fun goes => ?_
      · refine Act.within_bind (within_fetch h allocator connected) fun packet? => ?_
        cases packet? with
        | none => exact Act.within_pure false
        | some packet => exact within_handOn h hclear htell packet
      · cases goes with
        | true => exact ih
        | false => exact Act.within_pure ()
  intro site
  obtain ⟨bound, hburst⟩ := after_burst handler source allocator site
  rw [hburst]
  exact trans_of R (hloop _ bound site) (within_concluding h hread htell _ _)

end Loop

/-! ## The end of a burst -/

/-- To find out whether reading is held back changes nothing. -/
theorem run_holdsBack_self (site : Site ε ω) :
    ∃ held, (holdsBack : SiteAct ε ω Bool).run site = .ok held site := by
  unfold holdsBack
  rw [Act.bind_of_ok (run_isOpen site)]
  cases Endpoint.isOpen site.endpoint with
  | false => exact ⟨true, rfl⟩
  | true => exact ⟨site.channel.config.suspended, rfl⟩

section Settling

variable {R : Site ε ω → Site ε ω → Prop} [IsPreorder (Site ε ω) R] {source : HandleSource ω}

section Report

variable (hlog : ∀ level tag text, Act.Within R
  (liftM (Native.writeLog level tag text) : SiteAct ε ω Unit))

include hlog

omit [Endpoint ε] in
/-- A burst is reported in the log. -/
theorem within_report : Act.Within R (do
    Native.writeLog .debug logTag
      s!"read burst delivered {(← current).burstPackets} packet(s)" : SiteAct ε ω Unit) :=
  Act.within_bind (Act.within_of_after fun _ => rfl) fun _ => hlog _ _ _

omit [Endpoint ε] in
/-- At its end a burst may withdraw its interest, and is reported. -/
theorem within_settling (hwithdraw : Act.Within R (setReadInterest false : SiteAct ε ω Unit)) :
    Act.Within R (settleInterest : SiteAct ε ω Unit) := by
  refine Act.within_bind (Act.within_of_after fun _ => rfl) fun channel => ?_
  dsimp only
  split
  · exact Act.within_bind hwithdraw fun _ => within_report hlog
  · exact within_report hlog

end Report

/-- A whole burst holds a relation that its preparation, its loop and its end all hold. -/
theorem within_readReadyWith {handler : Handler ε ω} (h : Unseen R source)
    (hbegin : Act.Within R (beginBurst source : SiteAct ε ω Unit))
    (hclear : ∀ (site : Site ε ω) packets, R site (site.withChannel
      { site.channel with readPending := false, burstPackets := packets }))
    (hread : Act.Within R (read : SiteAct ε ω Unit))
    (hwithdraw : Act.Within R (setReadInterest false : SiteAct ε ω Unit))
    (htell : ∀ callback, Act.Within R (tell handler callback)) :
    Act.Within R (readReadyWith handler source : SiteAct ε ω Unit) := by
  refine Act.within_bind (Act.within_of_after fun site => ?_) fun held => ?_
  · obtain ⟨held, hheld⟩ := run_holdsBack_self site
    exact Act.after_of_ok hheld
  · split
    · exact hwithdraw
    · refine Act.within_bind (Act.within_of_after fun _ => rfl) fun channel => ?_
      refine Act.within_bind hbegin fun _ site => ?_
      rw [Act.after_ensuring]
      exact trans_of R (within_burst h hclear hread htell _ site)
        (within_settling h.log hwithdraw _)

end Settling

/-! ## The write queue -/

section Writing

variable {R : Site ε ω → Site ε ω → Prop} [IsPreorder (Site ε ω) R]

/-- To write is to prepare the message, and to settle its promise at once if that fails. -/
theorem within_write_of
    (hprepare : ∀ message, Act.Within R (prepare message : SiteAct ε ω (Message × Message)))
    (hdiscard : ∀ buffer, Act.Within R (liftM (Ledger.discard buffer) : SiteAct ε ω Unit))
    (hfutures : ∀ {α : Type} (act : Act Futures α), Act.Within R (liftM act : SiteAct ε ω α))
    (hqueue : ∀ (site : Site ε ω) write, R site (site.withChannel
      { site.channel with pending := site.channel.pending ++ [write] }))
    (message : Message) : Act.Within R (write message : SiteAct ε ω Ticket) := by
  have hrefuse : ∀ ticket outcome, Act.Within R (do
      Futures.settle ticket outcome
      Ledger.discard message.content
      pure ticket : SiteAct ε ω Ticket) := fun ticket outcome =>
    Act.within_bind (hfutures _) fun _ =>
      Act.within_bind (hdiscard _) fun _ => Act.within_pure ticket
  unfold write
  refine Act.within_bind (hfutures _) fun ticket => ?_
  refine Act.within_bind (Act.within_of_after fun _ => rfl) fun isOpen => ?_
  split
  · refine Act.within_bind (Act.within_capture (hprepare message)) fun result => ?_
    cases result with
    | ok messages =>
      refine Act.within_bind (hdiscard _) fun _ => ?_
      refine Act.within_bind (Act.within_modify fun site => ?_) fun _ => Act.within_pure ticket
      exact hqueue site _
    | error fault => exact hrefuse ticket _
  · exact hrefuse ticket _

/-- What a channel does on its own account while it works through its queue. -/
structure Served (R : Site ε ω → Site ε ω → Prop) : Prop where
  attempt : ∀ attempts message, Act.Within R
    (liftM (attempt attempts message : NativeAct ε Attempt) : SiteAct ε ω Attempt)
  futures : ∀ {α : Type} (act : Act Futures α), Act.Within R (liftM act : SiteAct ε ω α)
  discard : ∀ buffer, Act.Within R (liftM (Ledger.discard buffer) : SiteAct ε ω Unit)
  log : ∀ level tag text, Act.Within R
    (liftM (Native.writeLog level tag text) : SiteAct ε ω Unit)

omit [IsPreorder (Site ε ω) R] in
/-- What serving holds, it holds up to any coarser relation. -/
theorem Served.mono {R' : Site ε ω → Site ε ω → Prop} (h : Served R)
    (himp : ∀ site site', R site site' → R' site site') : Served R' where
  attempt attempts message := (h.attempt attempts message).mono himp
  futures act := (h.futures act).mono himp
  discard buffer := (h.discard buffer).mono himp
  log level tag text := (h.log level tag text).mono himp

omit [Endpoint ε] in
/-- To settle the front is to settle its promise, to give memory back, and to log a failure. -/
theorem within_conclude
    (hfutures : ∀ {α : Type} (act : Act Futures α), Act.Within R (liftM act : SiteAct ε ω α))
    (hdiscard : ∀ buffer, Act.Within R (liftM (Ledger.discard buffer) : SiteAct ε ω Unit))
    (hlog : ∀ level tag text, Act.Within R
      (liftM (Native.writeLog level tag text) : SiteAct ε ω Unit))
    (head : PendingWrite) (verdict : Attempt) :
    Act.Within R (conclude head verdict : SiteAct ε ω Unit) := by
  cases verdict with
  | waiting message => exact Act.within_pure ()
  | sent message => exact Act.within_bind (hfutures _) fun _ => hdiscard _
  | failed fault =>
    refine Act.within_bind (hlog _ _ _) fun _ => ?_
    exact Act.within_bind (hfutures _) fun _ => hdiscard _

/-- To drain a queue is to serve one message after the other. -/
theorem within_drain (h : Served R) (attempts budget : Nat) (queue : List PendingWrite) :
    Act.Within R (drain attempts budget queue : SiteAct ε ω (List PendingWrite)) := by
  induction budget generalizing queue with
  | zero => exact Act.within_pure queue
  | succ budget ih =>
    cases queue with
    | nil => exact Act.within_pure []
    | cons head rest =>
      refine Act.within_bind (h.attempt attempts head.message) fun verdict => ?_
      refine Act.within_bind (within_conclude h.futures h.discard h.log head verdict) fun _ => ?_
      cases verdict with
      | waiting message => exact Act.within_pure _
      | sent message => exact ih rest
      | failed fault => exact ih rest

omit [Endpoint ε] in
/-- To empty the queue is to settle promises and to give memory back. -/
theorem within_failPending
    (hfutures : ∀ {α : Type} (act : Act Futures α), Act.Within R (liftM act : SiteAct ε ω α))
    (hdiscard : ∀ buffer, Act.Within R (liftM (Ledger.discard buffer) : SiteAct ε ω Unit))
    (hqueue : Act.Within R (change fun channel => { channel with pending := [] } :
      SiteAct ε ω Unit))
    (fault : Fault) : Act.Within R (failPending fault : SiteAct ε ω Unit) := by
  have hall : ∀ queue, Act.Within R (failAll fault queue : SiteAct ε ω Unit) := by
    intro queue
    induction queue with
    | nil => exact Act.within_pure ()
    | cons head rest ih =>
      exact Act.within_bind (hfutures _) fun _ => Act.within_bind (hdiscard _) fun _ => ih
  refine Act.within_bind (Act.within_of_after fun _ => rfl) fun channel => ?_
  exact Act.within_bind hqueue fun _ => hall _

omit [Endpoint ε] in
/-- What is read off neither the host nor the queue does not change with it. -/
theorem fixing_failPending {τ : Type} {look : Site ε ω → τ}
    (hhost : ∀ (site : Site ε ω) host, look { site with host := host } = look site)
    (hqueue : ∀ site : Site ε ω,
      look (site.withChannel { site.channel with pending := [] }) = look site)
    (fault : Fault) : Act.Within (Act.Fixing look) (failPending fault : SiteAct ε ω Unit) := by
  refine within_failPending (fun act site => ?_) (fun buffer site => ?_) ?_ fault
  · rw [Act.Fixing, after_lift_futures]
    exact hhost site _
  · rw [Act.Fixing, after_lift_ledger]
    exact hhost site _
  · exact Act.within_modify hqueue

/-- To close a channel is to mark it, to leave everything behind and to close its endpoint. -/
theorem within_close_of
    (hmark : Act.Within R (change fun channel =>
      { channel with connected := false, active := false, readPending := false } :
        SiteAct ε ω Unit))
    (hfail : Act.Within R (failPending (.violation .channelClosed) : SiteAct ε ω Unit))
    (hdetach : Act.Within R (detach : SiteAct ε ω Unit))
    (hforget : Act.Within R (forgetAddresses : SiteAct ε ω Unit))
    (hclose : Act.Within R (liftM (Endpoint.close : NativeAct ε Unit) : SiteAct ε ω Unit))
    (hlog : Act.Within R (liftM (Native.writeLog .debug logTag "closed") : SiteAct ε ω Unit)) :
    Act.Within R (close : SiteAct ε ω Unit) := by
  refine Act.within_bind (Act.within_of_after fun _ => rfl) fun isOpen => ?_
  split
  · refine Act.within_bind hmark fun _ => Act.within_bind hfail fun _ => ?_
    refine Act.within_bind hdetach fun _ => Act.within_bind hforget fun _ => ?_
    exact Act.within_bind hclose fun _ => hlog
  · exact Act.within_pure ()

/-- A channel goes out of use with its queue and its endpoint, whatever closing it came to. -/
theorem within_drop_of (hclose : Act.Within R (close : SiteAct ε ω Unit))
    (hlog : ∀ text, Act.Within R
      (liftM (Native.writeLog .warn logTag text) : SiteAct ε ω Unit))
    (hfail : Act.Within R (failPending .brokenPromise : SiteAct ε ω Unit))
    (hdrop : Act.Within R (liftM (Endpoint.drop : NativeAct ε Unit) : SiteAct ε ω Unit)) :
    Act.Within R (drop : SiteAct ε ω Unit) := by
  refine Act.within_bind (Act.within_capture hclose) fun result => ?_
  cases result with
  | ok _ => exact Act.within_bind hfail fun _ => hdrop
  | error fault => exact Act.within_bind (hlog _) fun _ => Act.within_bind hfail fun _ => hdrop

end Writing

/-! ## What a channel waits for -/

section Wishing

variable {R : Site ε ω → Site ε ω → Prop} [IsPreorder (Site ε ω) R]

/-- A relation that holds along what a channel wishes, and along telling its registration. -/
structure Wishing (R : Site ε ω → Site ε ω → Prop) : Prop where
  reading : ∀ (site : Site ε ω) pending,
    R site (site.withChannel { site.channel with readPending := pending })
  autoRead : ∀ (site : Site ε ω) on, R site (site.withChannel
    { site.channel with config := { site.channel.config with autoRead := on } })
  queue : ∀ (site : Site ε ω) rest,
    R site (site.withChannel { site.channel with pending := rest })
  readInterest : ∀ wanted, Act.Within R (setReadInterest wanted : SiteAct ε ω Unit)
  writeInterest : ∀ wanted, Act.Within R (setWriteInterest wanted : SiteAct ε ω Unit)

/-- To ask for a read is a wish. -/
theorem within_read_of_wishing (h : Wishing R) : Act.Within R (read : SiteAct ε ω Unit) :=
  within_read_of (Act.within_modify fun site => h.reading site true) (h.readInterest true)

/-- To switch automatic reading is a mark and perhaps a wish. -/
theorem within_setAutoRead (h : Wishing R) (on : Bool) :
    Act.Within R (setAutoRead on : SiteAct ε ω Unit) := by
  refine Act.within_bind (Act.within_of_after fun _ => rfl) fun channel => ?_
  refine Act.within_bind (Act.within_modify fun site => h.autoRead site on) fun _ => ?_
  split
  · exact within_read_of_wishing h
  · split
    · exact Act.within_bind (Act.within_modify fun site => h.reading site false) fun _ =>
        h.readInterest false
    · exact Act.within_pure ()

/-- A flush drains the queue, and then wishes for as much as is left. -/
theorem within_flush (h : Wishing R) (hserved : Served R) :
    Act.Within R (flush : SiteAct ε ω Unit) := by
  refine Act.within_bind (Act.within_of_after fun _ => rfl) fun channel => ?_
  refine Act.within_bind (within_drain hserved _ _ _) fun rest => ?_
  exact Act.within_bind (Act.within_modify fun site => h.queue site rest) fun _ =>
    h.writeInterest _

end Wishing

end UdpTransport.Channel
