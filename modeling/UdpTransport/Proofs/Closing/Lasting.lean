import UdpTransport.Channel.Multicast
import UdpTransport.Proofs.Lifecycle.Halves
import UdpTransport.Proofs.Registry.Sites

/-!
# What lasts once a socket is closed

A socket that is closed is never opened again, and what closing a channel puts an end to
(`Channel.Ended`) does not come back. Both are said of a single step by `Channel.Lasting`, which
holds along everything that a channel over a socket can be asked for, whatever becomes of it. Around
the channel nothing changes that is looked at.

Most of what a channel does leaves its endpoint open or closed as it was (`Channel.guise`). There it
is enough to see what happens at a channel that has ended (`lasting_of_guise`).
-/

namespace UdpTransport

namespace ChannelEndpoint

/-- Whether the endpoint is a socket. -/
def isSocket : ChannelEndpoint → Bool
  | memory _ => false
  | socket _ => true

/-- Whether the endpoint is a socket that was closed. -/
def isShut (endpoint : ChannelEndpoint) : Bool := endpoint.isSocket && !Endpoint.isOpen endpoint

/-- An endpoint is shut exactly if it is a socket without a descriptor; one in memory never is. -/
theorem isShut_iff {endpoint : ChannelEndpoint} :
    endpoint.isShut = true ↔ ∃ sock : Socket, endpoint = socket sock ∧ sock.isOpen = false := by
  cases endpoint with
  | memory endpoint => simp [isShut, isSocket]
  | socket sock => simp [isShut, isSocket, Endpoint.isOpen]

/-- What is shut is not open, whatever the endpoint is. -/
theorem isOpen_of_isShut {endpoint : ChannelEndpoint} (h : endpoint.isShut = true) :
    Endpoint.isOpen endpoint = false := by
  obtain ⟨sock, rfl, hclosed⟩ := isShut_iff.mp h
  exact hclosed

/-- Whether an endpoint is a socket, and whether it is open. -/
def guise (s : ChannelEndpoint × Native) : Bool × Bool := (s.1.isSocket, Endpoint.isOpen s.1)

variable {α : Type} {onMemory : NativeAct MemoryEndpoint α} {onSocket : SocketAct α}

/-- An endpoint stays of its kind. -/
theorem isSocket_either :
    Act.Within (Act.Fixing fun s => s.1.isSocket) (either onMemory onSocket) := by
  rintro ⟨endpoint, native⟩
  cases endpoint with
  | memory endpoint =>
    rw [Act.Fixing, after_either_memory]
    rfl
  | socket endpoint =>
    rw [Act.Fixing, after_either_socket]
    rfl

/-- Closing does not make one kind of endpoint out of the other. -/
theorem isSocket_close : Act.Within (Act.Fixing fun s => s.1.isSocket)
    (Endpoint.close : NativeAct ChannelEndpoint Unit) := isSocket_either

/-- What keeps the outlook of an endpoint keeps its guise, since its kind never changes. -/
theorem guise_either (h : Act.Within (Act.Fixing Endpoint.outlook) (either onMemory onSocket)) :
    Act.Within (Act.Fixing guise) (either onMemory onSocket) := fun s =>
  Prod.ext (isSocket_either s) (congrArg Prod.fst (h s))

/-- An endpoint that nobody uses any more says so itself; its socket is as it was. -/
theorem guise_drop :
    Act.Within (Act.Fixing guise) (Endpoint.drop : NativeAct ChannelEndpoint Unit) := by
  refine fun s => Prod.ext (isSocket_either s) ?_
  obtain ⟨endpoint, native⟩ := s
  cases endpoint with
  | memory endpoint =>
    show Endpoint.isOpen
      ((either Endpoint.drop Endpoint.drop).after (memory endpoint, native)).1 = _
    rw [after_either_memory]
    rfl
  | socket sock =>
    have hdrop : (Endpoint.drop : SocketAct Unit).after (sock, native) =
        (sock, sock.drop.after native) := by
      have hcurrent : Socket.current.run (sock, native) = .ok sock (sock, native) := rfl
      show (Socket.current >>= fun sock => liftM sock.drop).after (sock, native) = _
      rw [Act.after_bind_of_ok hcurrent, Channel.after_lift_plain]
    show Endpoint.isOpen ((either Endpoint.drop Endpoint.drop).after (socket sock, native)).1 = _
    rw [after_either_socket, hdrop]
    rfl

/-- What closed sockets refuse, a closed socket refuses as an endpoint. -/
theorem run_either_shut {fault : Fault} {s : ChannelEndpoint × Native} (hshut : s.1.isShut = true)
    (hrefuse : ∀ s : Socket × Native, s.1.isOpen = false → onSocket.run s = .error fault s) :
    (either onMemory onSocket).run s = .error fault s := by
  obtain ⟨endpoint, native⟩ := s
  obtain ⟨sock, rfl, hclosed⟩ := isShut_iff.mp hshut
  have hrun := hrefuse (sock, native) hclosed
  show either onMemory onSocket (socket sock, native) = _
  simp only [either, hrun]

end ChannelEndpoint

namespace Socket

/-- A socket that is closed agrees to nothing. -/
theorem run_requireOpen_closed {s : Socket × Native} (h : s.1.isOpen = false) (rule : Violation) :
    (requireOpen rule).run s = .error (.violation rule) s := by
  show EStateM.run (if s.1.isOpen = true then _ else _) s = _
  rw [h]
  rfl

/-- Binding a closed socket fails with the rule it breaks, before any system call. -/
theorem run_bind_closed {s : Socket × Native} (h : s.1.isOpen = false) (address : Address) :
    (bind address).run s = .error (.violation .bindClosed) s :=
  Act.bind_of_error (run_requireOpen_closed h _)

/-- So does connecting one. -/
theorem run_connect_closed {s : Socket × Native} (h : s.1.isOpen = false) (address : Address) :
    (connect address).run s = .error (.violation .connectClosed) s :=
  Act.bind_of_error (run_requireOpen_closed h _)

end Socket

namespace Channel

/-- Nothing is left of what closing a channel puts an end to, its registration apart. -/
structure Ended (channel : Channel) : Prop where
  connected : channel.connected = false
  active : channel.active = false
  pending : channel.pending = []
  localCache : channel.localCache = none
  remoteCache : channel.remoteCache = none

/-- All that closing puts an end to. -/
def dealings (channel : Channel) :
    (Bool × Bool) × List PendingWrite × Option Address × Option Address :=
  ((channel.connected, channel.active), channel.pending, channel.localCache, channel.remoteCache)

/-- Whether a channel has ended shows in its dealings alone. -/
theorem Ended.of_dealings {channel channel' : Channel} (h : dealings channel' = dealings channel)
    (hended : Ended channel) : Ended channel' where
  connected := (congrArg (fun dealings => dealings.1.1) h).trans hended.connected
  active := (congrArg (fun dealings => dealings.1.2) h).trans hended.active
  pending := (congrArg (fun dealings => dealings.2.1) h).trans hended.pending
  localCache := (congrArg (fun dealings => dealings.2.2.1) h).trans hended.localCache
  remoteCache := (congrArg (fun dealings => dealings.2.2.2) h).trans hended.remoteCache

variable {ω τ α : Type} {look : ω → τ} {site site' : Site ChannelEndpoint ω}

/-- A socket that was shut still is, and where the channel has ended if it is shut, it still has. -/
structure Lasting (look : ω → τ) (site site' : Site ChannelEndpoint ω) : Prop where
  outside : look site'.outside = look site.outside
  isSocket : site'.endpoint.isSocket = site.endpoint.isSocket
  shut : site.endpoint.isShut = true → site'.endpoint.isShut = true
  ended : (site.endpoint.isShut = true → Ended site.channel) →
    site'.endpoint.isShut = true → Ended site'.channel

instance (look : ω → τ) : IsPreorder (Site ChannelEndpoint ω) (Lasting look) where
  refl _ := ⟨rfl, rfl, id, id⟩
  trans _ _ _ first later :=
    ⟨later.outside.trans first.outside, later.isSocket.trans first.isSocket,
      later.shut ∘ first.shut, later.ended ∘ first.ended⟩

/-- At a closed socket an ended channel stays ended. -/
theorem Lasting.still (h : Lasting look site site') (hshut : site.endpoint.isShut = true)
    (hended : Ended site.channel) : Ended site'.channel :=
  h.ended (fun _ => hended) (h.shut hshut)

/-- What is seen of a channel from outside, its own state apart. -/
def guise (look : ω → τ) (site : Site ChannelEndpoint ω) : τ × Bool × Bool :=
  (look site.outside, site.endpoint.isSocket, Endpoint.isOpen site.endpoint)

/-- The guise tells whether the endpoint is shut. -/
theorem isShut_of_guise (h : guise look site' = guise look site) :
    site'.endpoint.isShut = site.endpoint.isShut := by
  obtain ⟨-, hkind, hopen⟩ : _ ∧ _ ∧ _ := by simpa [guise] using h
  rw [ChannelEndpoint.isShut, ChannelEndpoint.isShut, hkind, hopen]

/-- Where an endpoint stays open or closed as it was, it is enough that a channel that has ended
has still ended afterwards. -/
theorem lasting_of_guise {act : SiteAct ChannelEndpoint ω α}
    (hguise : Act.Within (Act.Fixing (guise look)) act)
    (hended : ∀ site : Site ChannelEndpoint ω, site.endpoint.isShut = true → Ended site.channel →
      Ended (act.after site).channel) : Act.Within (Lasting look) act := by
  intro site
  have hsame := hguise site
  have hshut := isShut_of_guise hsame
  exact
    { outside := congrArg Prod.fst hsame
      isSocket := congrArg (fun guise => guise.2.1) hsame
      shut := fun h => hshut.trans h
      ended := fun hended' h => hended site (hshut.symm.trans h) (hended' (hshut.symm.trans h)) }

/-! ## Single steps -/

/-- What keeps the guise of an endpoint keeps that of the site around it. -/
theorem guise_native {act : NativeAct ChannelEndpoint α}
    (h : Act.Within (Act.Fixing ChannelEndpoint.guise) act) :
    Act.Within (Act.Fixing (guise look)) (liftM act : SiteAct ChannelEndpoint ω α) := by
  intro site
  rw [Act.Fixing, after_lift_native]
  exact congrArg (Prod.mk _) (h (site.endpoint, site.host.native))

/-- What the endpoint does changes nothing of the channel. -/
theorem lasting_native {act : NativeAct ChannelEndpoint α}
    (h : Act.Within (Act.Fixing ChannelEndpoint.guise) act) :
    Act.Within (Lasting look) (liftM act : SiteAct ChannelEndpoint ω α) :=
  lasting_of_guise (guise_native h) fun site _ hended =>
    (congrArg Ended (within_channel_native act site)).mpr hended

/-- The rest of the native world is no part of the guise. -/
theorem guise_plain (act : Act Native α) :
    Act.Within (Act.Fixing ChannelEndpoint.guise) (liftM act : NativeAct ChannelEndpoint α) := by
  intro s
  rw [Act.Fixing, after_lift_plain]
  rfl

/-- What happens in the rest of the native world ends nothing and revives nothing. -/
theorem lasting_plain (act : Act Native α) :
    Act.Within (Lasting look) (liftM act : SiteAct ChannelEndpoint ω α) :=
  lasting_native (guise_plain act)

/-- Neither does what is done to memory and promises alone. -/
theorem lasting_memory {act : SiteAct ChannelEndpoint ω α} (h : Act.Within Site.MemoryOnly act) :
    Act.Within (Lasting look) act := by
  refine h.mono ?_
  rintro site _ ⟨ledger, fallback, rfl⟩
  have hspare : dealings { site.channel with fallback := fallback } = dealings site.channel := rfl
  exact ⟨rfl, rfl, id, fun hended hshut => .of_dealings hspare (hended hshut)⟩

theorem lasting_ledger (act : Act Ledger α) :
    Act.Within (Lasting look) (liftM act : SiteAct ChannelEndpoint ω α) :=
  lasting_memory (within_lift_ledger act)

theorem lasting_futures (act : Act Futures α) :
    Act.Within (Lasting look) (liftM act : SiteAct ChannelEndpoint ω α) := by
  intro site
  rw [after_lift_futures]
  exact ⟨rfl, rfl, id, id⟩

/-- A change of the channel lasts if it revives nothing that has ended. -/
theorem lasting_change {f : Channel → Channel} (h : ∀ channel, Ended channel → Ended (f channel)) :
    Act.Within (Lasting look) (change f : SiteAct ChannelEndpoint ω Unit) :=
  Act.within_modify fun site => ⟨rfl, rfl, id, fun hended hshut => h site.channel (hended hshut)⟩

/-- Closing has nothing to do with the rest of a channel's state. -/
theorem lasting_withChannel (site : Site ChannelEndpoint ω) {channel : Channel}
    (h : dealings channel = dealings site.channel) : Lasting look site (site.withChannel channel) :=
  ⟨rfl, rfl, id, fun hended hshut => .of_dealings h (hended hshut)⟩

/-- A change that spares the dealings revives nothing. -/
theorem lasting_spare {f : Channel → Channel}
    (h : ∀ channel, dealings (f channel) = dealings channel) :
    Act.Within (Lasting look) (change f : SiteAct ChannelEndpoint ω Unit) :=
  lasting_change fun channel => .of_dealings (h channel)

/-- A read that is asked for after the end is remembered, and nothing else. -/
theorem lasting_read : Act.Within (Lasting look) (read : SiteAct ChannelEndpoint ω Unit) :=
  within_read_of (lasting_spare fun _ => rfl) (within_setReadInterest_of fun _ _ => lasting_plain _)

/-- To switch automatic reading revives nothing, also where it asks for a read. -/
theorem lasting_setAutoRead (on : Bool) :
    Act.Within (Lasting look) (setAutoRead on : SiteAct ChannelEndpoint ω Unit) := by
  refine Act.within_bind (Act.within_of_after fun _ => rfl) fun channel => ?_
  refine Act.within_bind (lasting_spare fun _ => rfl) fun _ => ?_
  split
  · exact lasting_read
  · split
    · exact Act.within_bind (lasting_spare fun _ => rfl) fun _ =>
        within_setReadInterest_of fun _ _ => lasting_plain _
    · exact Act.within_pure ()

/-- The settings of a channel say nothing about whether it has ended. -/
theorem lasting_configure (f : ChannelConfig → ChannelConfig) :
    Act.Within (Lasting look) (change fun channel => { channel with config := f channel.config } :
      SiteAct ChannelEndpoint ω Unit) :=
  lasting_spare fun _ => rfl

/-- A channel that has ended can be registered, and has ended all the same. -/
theorem lasting_setRegistration (registration : Option Registration) :
    Act.Within (Lasting look) (setRegistration registration : SiteAct ChannelEndpoint ω Unit) := by
  refine Act.within_bind (lasting_spare fun _ => rfl) fun _ => ?_
  refine Act.within_bind (Act.within_of_after fun _ => rfl) fun channel => ?_
  split
  · exact lasting_read
  · exact Act.within_pure ()

/-! ## Addresses -/

/-- A channel that has ended tells no local address, and asks for none. -/
theorem run_localAddress_ended (hshut : site.endpoint.isShut = true) (hended : Ended site.channel) :
    (localAddress : SiteAct ChannelEndpoint ω (Option Address)).run site = .ok none site := by
  unfold localAddress
  rw [Act.bind_of_ok (run_current site), hended.localCache]
  dsimp only
  rw [Act.bind_of_ok (run_isOpen site), ChannelEndpoint.isOpen_of_isShut hshut]
  rfl

/-- A channel that has ended has no peer, and need not ask its endpoint for one. -/
theorem run_remoteAddress_ended (hended : Ended site.channel) :
    (remoteAddress : SiteAct ChannelEndpoint ω (Option Address)).run site = .ok none site := by
  unfold remoteAddress
  rw [Act.bind_of_ok (run_current site), hended.remoteCache, hended.connected]
  rfl

/-- To ask for the local address caches nothing at a closed socket. -/
theorem lasting_localAddress :
    Act.Within (Lasting look) (localAddress : SiteAct ChannelEndpoint ω (Option Address)) := by
  refine lasting_of_guise (within_localAddress (fun _ _ _ => rfl) ?_) fun site hshut hended => ?_
  · exact guise_native (ChannelEndpoint.guise_either Endpoint.Bystander.outlook_localAddress)
  · rwa [Act.after_of_ok (run_localAddress_ended hshut hended)]

/-- Nor does asking for the remote one. -/
theorem lasting_remoteAddress :
    Act.Within (Lasting look) (remoteAddress : SiteAct ChannelEndpoint ω (Option Address)) := by
  refine lasting_of_guise (within_remoteAddress (fun _ _ _ => rfl) ?_) fun site _ hended => ?_
  · exact guise_native (ChannelEndpoint.guise_either Endpoint.Bystander.outlook_remoteAddress)
  · rwa [Act.after_of_ok (run_remoteAddress_ended hended)]

/-! ## Binding, connecting and disconnecting -/

/-- What a closed socket refuses, its channel is refused. -/
theorem run_ask_shut {act : NativeAct ChannelEndpoint α} {fault : Fault}
    (h : act.run (site.endpoint, site.host.native) =
      .error fault (site.endpoint, site.host.native)) :
    (liftM act : SiteAct ChannelEndpoint ω α).run site = .error fault site := by
  have hlifted : (liftM act : SiteAct ChannelEndpoint ω α).run site =
      .error fault (site.withNative (site.endpoint, site.host.native)) := Act.focus_error h
  exact hlifted

/-- A channel's request to bind reaches the closed socket, and is refused there. -/
theorem run_askBind_shut (hshut : site.endpoint.isShut = true) (address : Address) :
    (liftM (Endpoint.bind address : NativeAct ChannelEndpoint Unit) :
      SiteAct ChannelEndpoint ω Unit).run site = .error (.violation .bindClosed) site :=
  run_ask_shut (ChannelEndpoint.run_either_shut hshut fun _ hclosed =>
    Socket.run_bind_closed hclosed address)

/-- The same of its request to connect. -/
theorem run_askConnect_shut (hshut : site.endpoint.isShut = true) (address : Address) :
    (liftM (Endpoint.connect address : NativeAct ChannelEndpoint Unit) :
      SiteAct ChannelEndpoint ω Unit).run site = .error (.violation .connectClosed) site :=
  run_ask_shut (ChannelEndpoint.run_either_shut hshut fun _ hclosed =>
    Socket.run_connect_closed hclosed address)

/-- Binding a closed channel fails and leaves everything as it was. -/
theorem run_bind_shut (hshut : site.endpoint.isShut = true) (address : Address) :
    (bind address : SiteAct ChannelEndpoint ω Unit).run site =
      .error (.violation .bindClosed) site :=
  Act.bind_of_error (run_askBind_shut hshut address)

/-- What connecting a closed channel is refused for: the first thing that it asks of the socket. -/
def closedRule : Option Address → Violation
  | some _ => .bindClosed
  | none => .connectClosed

/-- So does connecting it, in both forms. -/
theorem run_connect_shut (hshut : site.endpoint.isShut = true) (remote : Address)
    (local? : Option Address) :
    (connect remote local? : SiteAct ChannelEndpoint ω Unit).run site =
      .error (.violation (closedRule local?)) site := by
  cases local? with
  | none => exact Act.bind_of_error (run_askConnect_shut hshut remote)
  | some address => exact Act.bind_of_error (run_askBind_shut hshut address)

/-- A line in the log shows nothing of the endpoint. -/
theorem guise_log (level : Log.Level) (tag text : String) :
    Act.Within (Act.Fixing (guise look))
      (liftM (Native.writeLog level tag text) : SiteAct ChannelEndpoint ω Unit) :=
  guise_native (guise_plain _)

/-- What is logged before an operation of the life cycle shows nothing of the endpoint either. -/
theorem guise_note (op : LifeOp) :
    Act.Within (Act.Fixing (guise look)) (op.note : SiteAct ChannelEndpoint ω Unit) := by
  cases op with
  | bind address =>
    refine Act.within_bind (Act.within_modify fun _ => rfl) fun _ => ?_
    refine Act.within_bind (Act.within_modify fun _ => rfl) fun _ => ?_
    refine Act.within_bind (within_localAddress (fun _ _ _ => rfl) ?_) fun _ => guise_log _ _ _
    exact guise_native (ChannelEndpoint.guise_either Endpoint.Bystander.outlook_localAddress)
  | connect remote local? =>
    refine Act.within_bind (Act.within_modify fun _ => rfl) fun _ => ?_
    exact Act.within_bind (Act.within_modify fun _ => rfl) fun _ => guise_log _ _ _
  | disconnect =>
    exact Act.within_bind (Act.within_modify fun _ => rfl) fun _ => Act.within_modify fun _ => rfl

/-- No operation of the life cycle opens or closes an endpoint. -/
theorem guise_life (op : LifeOp) :
    Act.Within (Act.Fixing (guise look)) (op.act : SiteAct ChannelEndpoint ω Unit) := by
  rw [LifeOp.act_eq]
  refine Act.within_bind (op.within_ask (fun address => ?_) (fun address => ?_) ?_) fun _ =>
    guise_note op
  · exact guise_native (ChannelEndpoint.guise_either (Endpoint.Bystander.outlook_bind address))
  · exact guise_native (ChannelEndpoint.guise_either (Endpoint.Bystander.outlook_connect address))
  · exact guise_native (ChannelEndpoint.guise_either Endpoint.Bystander.outlook_disconnect)

/-- Binding, connecting and disconnecting a channel that has ended cannot bring it back. -/
theorem lasting_life (op : LifeOp) :
    Act.Within (Lasting look) (op.act : SiteAct ChannelEndpoint ω Unit) := by
  refine lasting_of_guise (guise_life op) fun site hshut hended => ?_
  cases op with
  | bind address =>
    show Ended ((bind address : SiteAct ChannelEndpoint ω Unit).after site).channel
    rwa [Act.after_of_error (run_bind_shut hshut address)]
  | connect remote local? =>
    show Ended ((connect remote local? : SiteAct ChannelEndpoint ω Unit).after site).channel
    rwa [Act.after_of_error (run_connect_shut hshut remote local?)]
  | disconnect =>
    -- Whatever the socket says, the channel only takes note of what holds already.
    have hdisconnect : Act.Within (Act.Keeping fun site => Ended site.channel)
        (disconnect : SiteAct ChannelEndpoint ω Unit) := by
      refine Act.within_bind ?_ fun _ => ?_
      · exact (within_channel_native _).mono fun _ _ hsame hended =>
          (congrArg Ended hsame).mpr hended
      refine Act.within_bind (Act.within_modify fun site h => ?_) fun _ =>
        Act.within_modify fun site h => ?_
      · exact ⟨rfl, rfl, h.pending, h.localCache, h.remoteCache⟩
      · exact ⟨h.connected, h.active, h.pending, rfl, rfl⟩
    exact hdisconnect site hended

/-! ## Writing -/

/-- What a write leaves at a closed channel: its promise is settled as failed at once, its message
is given back, and nothing else has changed. -/
def turnedAway (message : Message) (site : Site ChannelEndpoint ω) : Site ChannelEndpoint ω :=
  (site.withFutures ⟨site.host.futures.issued + 1, site.host.futures.settled.push
    (site.host.futures.issued, .failed (.violation .writeAfterClose))⟩).withLedger
      (Ledger.release message.content.components site.host.ledger)

/-- A write to a closed channel succeeds as a call and fails as a promise. -/
theorem run_write_shut (hshut : site.endpoint.isShut = true) (message : Message) :
    (write message : SiteAct ChannelEndpoint ω Ticket).run site =
      .ok site.host.futures.issued (turnedAway message site) := by
  -- The promise is made before the channel looks whether it is open.
  unfold write
  rw [Act.bind_of_ok (run_issue site), Act.bind_of_ok (run_isOpen _)]
  simp only [Site.withFutures_endpoint, ChannelEndpoint.isOpen_of_isShut hshut]
  rw [if_neg Bool.false_ne_true, Act.bind_of_ok (run_settle ..), Act.bind_of_ok (run_discard ..)]
  rfl

/-- What is done to memory and promises alone keeps the guise. -/
theorem guise_memory {act : SiteAct ChannelEndpoint ω α} (h : Act.Within Site.MemoryOnly act) :
    Act.Within (Act.Fixing (guise look)) act := by
  refine h.mono ?_
  rintro site _ ⟨ledger, fallback, rfl⟩
  rfl

theorem guise_futures (act : Act Futures α) :
    Act.Within (Act.Fixing (guise look)) (liftM act : SiteAct ChannelEndpoint ω α) := by
  intro site
  rw [Act.Fixing, after_lift_futures]
  rfl

/-- A write puts nothing into the queue of a channel that has ended. -/
theorem lasting_write (message : Message) :
    Act.Within (Lasting look) (write message : SiteAct ChannelEndpoint ω Ticket) := by
  refine lasting_of_guise ?_ fun site hshut hended => ?_
  · exact within_write_of (fun message => guise_memory (within_prepare message))
      (fun _ => guise_memory (within_lift_ledger _)) guise_futures (fun _ _ => rfl) message
  · rwa [Act.after_of_ok (run_write_shut hshut message)]

/-! ## Flushing -/

/-- Asking for events leaves an endpoint open or closed as it was. -/
theorem wishing_guise : Wishing (Act.Fixing (guise look)) where
  reading _ _ := rfl
  autoRead _ _ := rfl
  queue _ _ := rfl
  readInterest _ := within_setReadInterest_of fun _ _ => guise_native (guise_plain _)
  writeInterest _ := within_setWriteInterest_of fun _ _ => guise_native (guise_plain _)

/-- So does sending what is queued. -/
theorem served_guise : Served (Act.Fixing (guise look)) where
  attempt attempts message := by
    refine guise_native (within_attempt (fun request => ?_) attempts message)
    exact ChannelEndpoint.guise_either (Endpoint.Bystander.outlook_send request)
  futures := guise_futures
  discard _ := guise_memory (within_lift_ledger _)
  log := guise_log

/-- An empty queue is worked through at once. -/
theorem drain_nil (attempts budget : Nat) :
    (drain attempts budget [] : SiteAct ChannelEndpoint ω (List PendingWrite)) = pure [] := by
  cases budget <;> rfl

/-- To flush an empty queue is to say that the channel does not wait to write. -/
theorem run_flush_ended (hended : Ended site.channel) :
    (flush : SiteAct ChannelEndpoint ω Unit).run site =
      (setWriteInterest false : SiteAct ChannelEndpoint ω Unit).run site := by
  have hsame : site.withChannel { site.channel with pending := [] } = site := by
    rw [← hended.pending]
    rfl
  unfold flush
  rw [Act.bind_of_ok (run_current site)]
  simp only [hended.pending, drain_nil]
  rw [pure_bind, Act.bind_of_ok (run_change ..), hsame]
  rfl

/-- A flush of a channel that has ended finds nothing to send. -/
theorem lasting_flush : Act.Within (Lasting look) (flush : SiteAct ChannelEndpoint ω Unit) := by
  refine lasting_of_guise (within_flush wishing_guise served_guise) fun site hshut hended => ?_
  rw [Act.after_congr (run_flush_ended hended)]
  have hlasts : Act.Within (Lasting fun _ => ())
      (setWriteInterest false : SiteAct ChannelEndpoint ω Unit) :=
    within_setWriteInterest_of fun _ _ => lasting_plain _
  exact (hlasts site).still hshut hended

/-- Write and flush in one call is one after the other. -/
theorem lasting_writeAndFlush (message : Message) :
    Act.Within (Lasting look) (writeAndFlush message : SiteAct ChannelEndpoint ω Ticket) :=
  Act.within_bind (lasting_write message) fun ticket =>
    Act.within_bind lasting_flush fun _ => Act.within_pure ticket

/-- A single attempt to send a message is between the endpoint and the message. -/
theorem lasting_offer (message : Message) :
    Act.Within (Lasting look) (liftM (offer message : NativeAct ChannelEndpoint (Message × Bool)) :
      SiteAct ChannelEndpoint ω (Message × Bool)) := by
  refine lasting_native (within_offer (fun request => ?_) message)
  exact ChannelEndpoint.guise_either (Endpoint.Bystander.outlook_send request)

/-! ## Closing -/

/-- What a channel that leaves everything behind lets alone once it is marked. -/
def marks (site : Site ChannelEndpoint ω) : (Bool × Bool) × ChannelEndpoint × ω :=
  ((site.channel.connected, site.channel.active), site.endpoint, site.outside)

/-- To fail what is queued lets the marks of a channel alone. -/
theorem marks_failPending (fault : Fault) :
    Act.Within (Act.Fixing marks) (failPending fault : SiteAct ChannelEndpoint ω Unit) :=
  fixing_failPending (fun _ _ => rfl) (fun _ => rfl) fault

/-- To end the registration changes nothing else of the channel. -/
theorem after_detach (site : Site ChannelEndpoint ω) :
    ∃ native, (detach : SiteAct ChannelEndpoint ω Unit).after site =
      (site.withChannel { site.channel with registration := none }).withNative
        (site.endpoint, native) := by
  unfold detach
  rw [Act.after_bind_of_ok (run_current site)]
  cases hregistration : site.channel.registration with
  | none =>
    have hsame : site.withChannel { site.channel with registration := none } = site := by
      rw [← hregistration]
      rfl
    exact ⟨site.host.native, by rw [hsame]; rfl⟩
  | some registration =>
    dsimp only
    rw [Act.after_bind_of_ok (run_change ..)]
    exact within_lift_plain _ _

/-- A channel that has left everything behind has ended. -/
theorem ended_leave {left : Site ChannelEndpoint ω} (h : leave.run site = .ok () left) :
    Ended left.channel ∧ left.endpoint = site.endpoint ∧ left.outside = site.outside := by
  obtain ⟨marked, hmarked⟩ : ∃ marked, marked = site.withChannel
    { site.channel with connected := false, active := false, readPending := false } := ⟨_, rfl⟩
  obtain ⟨emptied, hempty, hserves⟩ := run_failPending (.violation .channelClosed) marked
  have hmarks := marks_failPending (.violation .channelClosed) marked
  rw [Act.after_of_ok hempty] at hmarks
  obtain ⟨_, detached, hdetach⟩ := succeeds_detach emptied
  obtain ⟨native, hdetached⟩ := after_detach emptied
  rw [Act.after_of_ok hdetach] at hdetached
  -- None of the steps can fail, so all of them have been taken.
  unfold leave at h
  rw [Act.bind_of_ok (run_change ..), ← hmarked, Act.bind_of_ok hempty, Act.bind_of_ok hdetach,
    hdetached] at h
  cases h
  rw [hmarked] at hmarks
  have hpending : emptied.channel.pending = [] := hserves.pending
  exact ⟨⟨congrArg (fun marks => marks.1.1) hmarks, congrArg (fun marks => marks.1.2) hmarks,
    hpending, rfl, rfl⟩, congrArg (fun marks => marks.2.1) hmarks,
    congrArg (fun marks => marks.2.2) hmarks⟩

/-- To close the endpoint changes nothing else but the native side. -/
theorem after_shut (site : Site ChannelEndpoint ω) :
    ∃ native, (shut : SiteAct ChannelEndpoint ω Unit).after site =
      site.withNative (((Endpoint.close : NativeAct ChannelEndpoint Unit).after
        (site.endpoint, site.host.native)).1, native) := by
  have hclose := after_lift_native (Endpoint.close : NativeAct ChannelEndpoint Unit) site
  unfold shut
  cases hrun : (liftM (Endpoint.close : NativeAct ChannelEndpoint Unit) :
      SiteAct ChannelEndpoint ω Unit).run site with
  | ok _ closed =>
    rw [Act.after_of_ok hrun] at hclose
    subst hclose
    rw [Act.after_bind_of_ok hrun]
    exact within_lift_plain (Native.writeLog .debug logTag "closed") _
  | error fault closed =>
    rw [Act.after_of_error hrun] at hclose
    rw [Act.after_of_error (Act.bind_of_error hrun), hclose]
    exact ⟨_, rfl⟩

/-- What closing makes of an open channel. -/
structure Closes (site site' : Site ChannelEndpoint ω) : Prop where
  ended : Ended site'.channel
  isOpen : Endpoint.isOpen site'.endpoint = false
  isSocket : site'.endpoint.isSocket = site.endpoint.isSocket
  outside : site'.outside = site.outside

/-- **Closing ends a channel**, whatever the system says to it. -/
theorem closes_close (hopen : Endpoint.isOpen site.endpoint = true) :
    Closes site ((close : SiteAct ChannelEndpoint ω Unit).after site) := by
  -- The channel leaves everything behind first; what the system says comes after that.
  obtain ⟨_, left, hleave⟩ := succeeds_leave site
  obtain ⟨hended, hendpoint, houtside⟩ := ended_leave hleave
  obtain ⟨native, hshut⟩ := after_shut left
  rw [Act.after_congr (run_close hopen), Act.after_bind_of_ok hleave, hshut, hendpoint]
  exact
    { ended := hended
      isOpen := (ChannelEndpoint.closed_close (s := (site.endpoint, left.host.native)) hopen).isOpen
      isSocket := ChannelEndpoint.isSocket_close (site.endpoint, left.host.native)
      outside := houtside }

/-- Closing makes an end that lasts, and closing again keeps it. -/
theorem lasting_close : Act.Within (Lasting look) (close : SiteAct ChannelEndpoint ω Unit) := by
  intro site
  cases hopen : Endpoint.isOpen site.endpoint with
  | false =>
    rw [Act.after_of_ok (run_close_closed hopen)]
    exact refl_of _ _
  | true =>
    have hcloses := closes_close hopen
    exact
      { outside := congrArg look hcloses.outside
        isSocket := hcloses.isSocket
        shut := fun hshut => absurd hopen (by simp [ChannelEndpoint.isOpen_of_isShut hshut])
        ended := fun _ _ => hcloses.ended }

/-- A channel over a socket is shut once it is closed. -/
theorem isShut_close (hsocket : site.endpoint.isSocket = true) :
    ((close : SiteAct ChannelEndpoint ω Unit).after site).endpoint.isShut = true := by
  cases hopen : Endpoint.isOpen site.endpoint with
  | false =>
    rw [Act.after_of_ok (run_close_closed hopen)]
    simp [ChannelEndpoint.isShut, hsocket, hopen]
  | true =>
    have hcloses := closes_close hopen
    simp [ChannelEndpoint.isShut, hcloses.isSocket, hsocket, hcloses.isOpen]

/-- A line in the log revives nothing. -/
theorem lasting_log (level : Log.Level) (tag text : String) :
    Act.Within (Lasting look)
      (liftM (Native.writeLog level tag text) : SiteAct ChannelEndpoint ω Unit) :=
  lasting_plain _

/-- To fail what is queued ends more, and revives nothing. -/
theorem lasting_failPending (fault : Fault) :
    Act.Within (Lasting look) (failPending fault : SiteAct ChannelEndpoint ω Unit) := by
  refine within_failPending lasting_futures (fun _ => lasting_ledger _) ?_ fault
  refine lasting_change fun _ h => ?_
  exact ⟨h.connected, h.active, rfl, h.localCache, h.remoteCache⟩

/-- A channel that nobody uses any more. -/
theorem lasting_drop : Act.Within (Lasting look) (drop : SiteAct ChannelEndpoint ω Unit) :=
  within_drop_of lasting_close (fun _ => lasting_log _ _ _) (lasting_failPending _)
    (lasting_native ChannelEndpoint.guise_drop)

/-! ## Other requests -/

/-- A request to a group answers with a promise and leaves the channel as it was. -/
theorem lasting_requestGroup (request : GroupRequest) :
    Act.Within (Lasting look) (requestGroup request : SiteAct ChannelEndpoint ω Ticket) := by
  refine Act.within_bind (Act.within_ofExcept _) fun _ => ?_
  refine Act.within_bind (lasting_futures _) fun ticket => ?_
  exact Act.within_bind (lasting_futures _) fun _ => Act.within_pure ticket

/-- What the user of a channel can ask of it, bursts apart. -/
inductive Operation {ω : Type} : {α : Type} → SiteAct ChannelEndpoint ω α → Prop where
  | life (op : LifeOp) : Operation op.act
  | close : Operation close
  | localAddress : Operation localAddress
  | remoteAddress : Operation remoteAddress
  | write (message : Message) : Operation (write message)
  | writeAndFlush (message : Message) : Operation (writeAndFlush message)
  | flush : Operation flush
  /-- One attempt to send a message that is not queued. -/
  | offer (message : Message) : Operation
      (liftM (offer message : NativeAct ChannelEndpoint (Message × Bool)) :
        SiteAct ChannelEndpoint ω (Message × Bool))
  | prepare (message : Message) : Operation (prepare message)
  | read : Operation read
  | setAutoRead (on : Bool) : Operation (setAutoRead on)
  | configure (f : ChannelConfig → ChannelConfig) :
      Operation (change fun channel => { channel with config := f channel.config })
  | requestGroup (request : GroupRequest) : Operation (requestGroup request)

/-- **No operation opens what was closed**, or brings back what closing has ended. -/
theorem Operation.lasting {act : SiteAct ChannelEndpoint ω α} (h : Operation act) :
    Act.Within (Lasting look) act := by
  cases h with
  | life op => exact lasting_life op
  | close => exact lasting_close
  | localAddress => exact lasting_localAddress
  | remoteAddress => exact lasting_remoteAddress
  | write message => exact lasting_write message
  | writeAndFlush message => exact lasting_writeAndFlush message
  | flush => exact lasting_flush
  | offer message => exact lasting_offer message
  | prepare message => exact lasting_memory (within_prepare message)
  | read => exact lasting_read
  | setAutoRead on => exact lasting_setAutoRead on
  | configure f => exact lasting_configure f
  | requestGroup request => exact lasting_requestGroup request

/-! ## Bursts -/

section Bursts

variable {source : HandleSource ω} {handler : Handler ChannelEndpoint ω}

/-- The receive handle is no part of what ends, as long as its source is discreet. -/
theorem alongHandle_lasting (hsource : Discreet look source) :
    AlongHandle (Lasting look : Site ChannelEndpoint ω → _ → Prop) source := by
  cases source with
  | own => exact fun site _ => lasting_withChannel site rfl
  | lent lent =>
    exact ⟨fun _ _ => ⟨hsource.1 _ _, rfl, id, id⟩, fun _ => ⟨hsource.2 _, rfl, id, id⟩⟩

/-- A burst begins with the handle alone. -/
theorem lasting_beginBurst (hsource : Discreet look source) :
    Act.Within (Lasting look) (beginBurst source : SiteAct ChannelEndpoint ω Unit) :=
  (alongHandle_lasting hsource).beginBurst fun site => lasting_withChannel site rfl

theorem lasting_prepareHandle :
    Act.Within (Lasting look) (prepareHandle : SiteAct ChannelEndpoint ω Unit) := by
  intro site
  rw [Act.after_of_ok (run_prepareHandle site)]
  exact lasting_withChannel site rfl

/-- So nothing that a burst does between two callbacks revives a channel. -/
theorem unseen_lasting (hsource : Discreet look source) : Unseen (Lasting look) source where
  localAddress := lasting_localAddress
  remoteAddress := lasting_remoteAddress
  readInto data := lasting_native (within_readInto (fun _ _ =>
    ChannelEndpoint.guise_either (Endpoint.Bystander.outlook_read _ _)) data)
  receiveInto data := lasting_native (within_receiveInto (fun _ _ =>
    ChannelEndpoint.guise_either (Endpoint.Bystander.outlook_receive _ _)) data)
  told _ _ := lasting_plain _
  log := lasting_log
  memory := lasting_ledger
  handle := (alongHandle_lasting hsource).changeHandle

end Bursts

end Channel

end UdpTransport
