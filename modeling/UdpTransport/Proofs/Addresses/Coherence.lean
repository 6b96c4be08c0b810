import UdpTransport.Proofs.Addresses.Bursts

/-!
# What a channel tells about its addresses

Let any operations be done to a channel, failures included. What the channel remembers of its
addresses is what its endpoint reports, unless since it last forgot them an address that it
remembered was changed in one of two ways (`AddressOp.stales`): by a bind, a connect or a disconnect
that the endpoint failed halfway, or by a send. The channel forgets its addresses where the endpoint
agrees to bind, to connect or to disconnect, and where the channel is closed.

`coherent_runAddresses` says what follows for what the channel tells, and for the packets that it
hands on; `coherent_over_socket` says it of channels over sockets.
-/

namespace UdpTransport.Channel

variable {ε ω : Type}

/-! ## The two halves, and addresses -/

/-- What the channel remembers stays as it is, and a steady endpoint stays steady. -/
def Carried (steady : ε × Native → Prop) (site site' : Site ε ω) : Prop :=
  remembered site' = remembered site ∧ (steady (below site) → steady (below site'))

instance (steady : ε × Native → Prop) : IsPreorder (Site ε ω) (Carried steady) where
  refl _ := ⟨rfl, id⟩
  trans _ _ _ first later := ⟨later.1.trans first.1, later.2 ∘ first.2⟩

/-- Nothing in the world around matters. -/
abbrev anything (_ : ω) : Prop := True

/-- Every handle leaves the world around as it may be. -/
theorem respects_anything (source : HandleSource ω) : Respects anything source := by
  cases source with
  | own => trivial
  | lent lent => exact ⟨fun _ _ => id, fun _ => id⟩

/-- A step of the endpoint that keeps it steady carries the rest along. -/
theorem carried_native {steady : ε × Native → Prop} {α : Type} {act : NativeAct ε α}
    (h : Act.Within (Act.Keeping steady) act) :
    Act.Within (Carried steady) (liftM act : SiteAct ε ω α) := by
  intro site
  rw [after_lift_native]
  exact ⟨rfl, h (below site)⟩

variable [Endpoint ε] {steady : ε × Native → Prop} {given : Address → ε × Native → Prop}

/-- An operation of the user of a channel that has to do with its addresses. -/
inductive AddressOp (ε ω : Type) where
  | life (op : LifeOp)
  | close
  | write (message : Message)
  | flush
  | readReady (handler : Handler ε ω)
  /-- A burst with a receive handle that does not belong to the channel. -/
  | readReadyWith (handler : Handler ε ω) (handle : LentHandle ω)
  | localAddress
  | remoteAddress

namespace AddressOp

/-- Runs an operation. -/
def run : AddressOp ε ω → SiteAct ε ω Unit
  | life op => op.act
  | close => Channel.close
  | write message => do
    let _ ← Channel.write message
  | flush => Channel.flush
  | readReady handler => Channel.readReady handler
  | readReadyWith handler handle => Channel.readReadyWith handler (.lent handle)
  | localAddress => do
    let _ ← Channel.localAddress
  | remoteAddress => do
    let _ ← Channel.remoteAddress

/-- The handlers leave the channel current. -/
def Heeding (steady : ε × Native → Prop) (given : Address → ε × Native → Prop) :
    AddressOp ε ω → Prop
  | readReady handler => handler.Heeds steady given anything
  | readReadyWith handler _ => handler.Heeds steady given anything
  | _ => True

/-- Whether the channel may remember an address that is outdated after an operation, given whether
it may have before. -/
def stales (op : AddressOp ε ω) (site : Site ε ω) (stale : Prop) : Prop :=
  match op with
  | life op =>
    match (op.ask : SiteAct ε ω Unit).result site with
    | .ok _ => False
    | .error _ => stale ∨ Outdates site ((op.ask : SiteAct ε ω Unit).after site)
  | flush => stale ∨ Outdates site ((Channel.flush : SiteAct ε ω Unit).after site)
  | close => stale ∧ Endpoint.isOpen site.endpoint = false
  | _ => stale

end AddressOp

/-- Runs operations one after the other; what one fails with stops none of the others. -/
def runAddresses : List (AddressOp ε ω) → Site ε ω → Site ε ω
  | [], site => site
  | op :: ops, site => runAddresses ops (op.run.after site)

/-- Whether the channel may remember an address that is outdated after operations. -/
def staleAfter : List (AddressOp ε ω) → Site ε ω → Prop → Prop
  | [], _, stale => stale
  | op :: ops, site, stale => staleAfter ops (op.run.after site) (op.stales site stale)

section Steadfast

variable (hsteadfast : Endpoint.Steadfast steady given)

include hsteadfast

/-- What moves no address carries everything along. -/
theorem carried_of_unmoved {fine : ω → Prop} {site site' : Site ε ω} (h : Unmoved fine site site') :
    Carried steady site site' :=
  ⟨h.remembered, fun hsteady => ((h.idle hsteadfast).1 hsteady).1⟩

/-- To ask the endpoint for something keeps it steady, whatever becomes of its addresses. -/
theorem carried_ask (op : LifeOp) : Act.Within (Carried steady) (op.ask : SiteAct ε ω Unit) :=
  op.within_ask (fun address => carried_native (hsteadfast.bind address))
    (fun address => carried_native (hsteadfast.connect address))
    (carried_native hsteadfast.disconnect)

/-- So does shutting it. -/
theorem carried_shut : Act.Within (Carried steady) (shut : SiteAct ε ω Unit) := by
  have hlog : Act.Within (Unmoved anything)
      (liftM (Native.writeLog .debug logTag "closed") : SiteAct ε ω Unit) := unmoved_log _ _ _
  refine Act.within_bind (carried_native hsteadfast.close) fun _ => ?_
  exact hlog.mono fun _ _ => carried_of_unmoved hsteadfast

theorem carried_flush : Act.Within (Carried steady) (flush : SiteAct ε ω Unit) := by
  have hunmoved : ∀ {α : Type} {act : SiteAct ε ω α}, Act.Within (Unmoved anything) act →
      Act.Within (Carried steady) act := fun h => h.mono fun _ _ => carried_of_unmoved hsteadfast
  refine within_flush ?_ ?_
  · exact
      { reading := fun _ _ => ⟨rfl, id⟩
        autoRead := fun _ _ => ⟨rfl, id⟩
        queue := fun _ _ => ⟨rfl, id⟩
        readInterest := fun wanted => hunmoved (unmoved_setReadInterest wanted)
        writeInterest := fun wanted => hunmoved (unmoved_setWriteInterest wanted) }
  · exact
      { attempt := fun attempts message =>
          carried_native (within_attempt hsteadfast.send attempts message)
        futures := fun act => hunmoved (unmoved_futures act)
        discard := fun buffer => hunmoved (unmoved_discard buffer)
        log := fun level tag text => hunmoved (unmoved_log level tag text) }

/-- Once the endpoint has agreed, the channel forgets what it remembers. -/
theorem current_note (op : LifeOp) {site : Site ε ω} (hsteady : steady (below site)) :
    Current steady anything ((op.note : SiteAct ε ω Unit).after site) := by
  have hforgotten : ∀ channel : Channel, Current steady anything (site.withChannel
      { channel with localCache := none, remoteCache := none }) := fun channel =>
    ⟨hsteady, coherent_of_forgotten rfl rfl, trivial⟩
  have hlog : ∀ text, Act.Within (Lasts steady anything)
      (liftM (Native.writeLog .debug logTag text) : SiteAct ε ω Unit) :=
    fun text => lasts_of_unmoved hsteadfast (unmoved_log _ _ text)
  cases op with
  | bind address =>
    have hrest : Act.Within (Lasts steady anything) (do
        let bound ← localAddress
        Native.writeLog .debug logTag ("bound to " ++ (bound.getD .unspecified).toText) :
          SiteAct ε ω Unit) :=
      Act.within_bind (lasts_localAddress hsteadfast) fun _ => hlog _
    exact (hrest _ (hforgotten { site.channel with active := true })).1
  | connect remote local? =>
    exact (hlog _ _ (hforgotten { site.channel with connected := true, active := true })).1
  | disconnect => exact hforgotten { site.channel with connected := false, active := false }

/-! ## One operation -/

/-- A steady endpoint stays steady. -/
abbrev StaysSteady (steady : ε × Native → Prop) : Site ε ω → Site ε ω → Prop :=
  Act.Keeping fun site => steady (below site)

/-- What moves no address leaves the endpoint as steady as it was. -/
theorem steady_of_unmoved {α : Type} {act : SiteAct ε ω α}
    (h : Act.Within (Unmoved anything) act) : Act.Within (StaysSteady steady) act :=
  h.mono fun _ _ hunmoved => (carried_of_unmoved hsteadfast hunmoved).2

omit hsteadfast in
theorem steady_native {α : Type} {act : NativeAct ε α}
    (h : Act.Within (Endpoint.Still steady) act) :
    Act.Within (StaysSteady steady) (liftM act : SiteAct ε ω α) :=
  (carried_native (h.mono fun _ _ hstill hsteady => (hstill hsteady).1)).mono fun _ _ h => h.2

theorem unseen_steady (source : HandleSource ω) :
    Unseen (StaysSteady steady : Site ε ω → Site ε ω → Prop) source where
  localAddress := within_localAddress (fun _ _ _ => id)
    (steady_native (hsteadfast.localAddress.mono fun _ _ h => h.1))
  remoteAddress := within_remoteAddress (fun _ _ _ => id)
    (steady_native (hsteadfast.remoteAddress.mono fun _ _ h => h.1))
  readInto data := steady_native (within_readInto hsteadfast.read data)
  receiveInto data := steady_native (within_receiveInto hsteadfast.receive data)
  told _ _ := steady_of_unmoved hsteadfast (unmoved_record _)
  log level tag text := steady_of_unmoved hsteadfast (unmoved_log level tag text)
  memory act := steady_of_unmoved hsteadfast (unmoved_memory (within_lift_ledger act))
  handle f := steady_of_unmoved hsteadfast (unmoved_changeHandle (respects_anything source) f)

/-- Whatever the channel remembers, a burst leaves the endpoint steady if its handler does. -/
theorem steady_readReadyWith {handler : Handler ε ω}
    (hkeeps : ∀ callback, Act.Within (StaysSteady steady) (handler callback))
    (source : HandleSource ω) :
    Act.Within (StaysSteady steady) (readReadyWith handler source : SiteAct ε ω Unit) :=
  within_readReadyWith (unseen_steady hsteadfast source)
    (steady_of_unmoved hsteadfast (unmoved_beginBurst (respects_anything source)))
    (fun _ _ => id)
    (steady_of_unmoved hsteadfast (within_read_of_wishing wishing_unmoved))
    (steady_of_unmoved hsteadfast (unmoved_setReadInterest false))
    fun callback => within_tell (unseen_steady hsteadfast source) callback (hkeeps callback)

/-- What is steady, and coherent unless it may be outdated. -/
structure Kept (steady : ε × Native → Prop) (stale : Prop) (site : Site ε ω) : Prop where
  steady : steady (below site)
  coherent : ¬ stale → Coherent site

omit hsteadfast in
/-- What keeps a channel current keeps it whether or not it is stale. -/
theorem kept_of_current {act : SiteAct ε ω Unit} {stale : Prop} {site : Site ε ω}
    (h : Kept steady stale site) (hsteady : Act.Within (StaysSteady steady) act)
    (hcurrent : Act.Within (Act.Keeping (Current steady anything)) act) :
    Kept steady stale (act.after site) where
  steady := hsteady site h.steady
  coherent hfresh := (hcurrent site ⟨h.steady, h.coherent hfresh, trivial⟩).coherent

omit hsteadfast in
/-- What only carries it along may make it stale, by outdating an address. -/
theorem kept_of_carried {stale : Prop} {site site' : Site ε ω} (h : Kept steady stale site)
    (hcarried : Carried steady site site') : Kept steady (stale ∨ Outdates site site') site' where
  steady := hcarried.2 h.steady
  coherent hfresh :=
    (h.coherent fun hstale => hfresh (.inl hstale)).kept hcarried.1 fun hout => hfresh (.inr hout)

/-- A burst leaves a channel that is current so, and its endpoint steady in any case. -/
theorem kept_readReadyWith {handler : Handler ε ω} (hhandler : handler.Heeds steady given anything)
    (source : HandleSource ω) {stale : Prop} {site : Site ε ω} (h : Kept steady stale site) :
    Kept steady stale ((readReadyWith handler source : SiteAct ε ω Unit).after site) :=
  kept_of_current h (steady_readReadyWith hsteadfast hhandler.keeps source)
    (current_readReadyWith hsteadfast hhandler (respects_anything source))

/-- Closing forgets the addresses, so that a channel that was open is no longer stale. -/
theorem kept_close {stale : Prop} {site : Site ε ω} (h : Kept steady stale site) :
    Kept steady (stale ∧ Endpoint.isOpen site.endpoint = false)
      ((close : SiteAct ε ω Unit).after site) := by
  cases hopen : Endpoint.isOpen site.endpoint with
  | false =>
    rw [Act.after_of_ok (run_close_closed hopen)]
    exact ⟨h.steady, fun hfresh => h.coherent fun hstale => hfresh ⟨hstale, rfl⟩⟩
  | true =>
    -- By the time that the endpoint is asked, nothing is remembered any more.
    obtain ⟨_, left, hleave⟩ := succeeds_leave site
    obtain ⟨hlocal, hremote⟩ := forgotten_leave hleave
    have hsteady : steady (below left) := by
      have hleft : Act.Within (StaysSteady steady) (leave : SiteAct ε ω Unit) := by
        refine Act.within_bind (Act.within_modify fun _ => id) fun _ => ?_
        refine Act.within_bind
          (within_failPending ?_ ?_ (Act.within_modify fun _ => id) _) fun _ => ?_
        · exact fun act => steady_of_unmoved hsteadfast (unmoved_futures act)
        · exact fun buffer => steady_of_unmoved hsteadfast (unmoved_discard buffer)
        refine Act.within_bind (steady_of_unmoved hsteadfast unmoved_detach) fun _ => ?_
        exact Act.within_modify fun _ => id
      exact Act.after_of_ok hleave ▸ hleft site h.steady
    obtain ⟨hsame, hshut⟩ := carried_shut hsteadfast left
    obtain ⟨hlocal', hsame⟩ := Prod.mk.inj hsame
    rw [Act.after_congr (run_close hopen), Act.after_bind_of_ok hleave]
    refine ⟨hshut hsteady, fun _ => coherent_of_forgotten (hlocal'.trans hlocal) ?_⟩
    exact (Prod.mk.inj hsame).1.trans hremote

/-- An operation of the life cycle forgets them if it succeeds. -/
theorem kept_life (op : LifeOp) {stale : Prop} {site : Site ε ω} (h : Kept steady stale site) :
    Kept steady ((AddressOp.life op).stales site stale)
      ((op.act : SiteAct ε ω Unit).after site) := by
  have hcarried := carried_ask hsteadfast op site
  rw [LifeOp.act_eq]
  unfold AddressOp.stales
  dsimp only
  cases hask : (op.ask : SiteAct ε ω Unit).run site with
  | ok _ agreed =>
    rw [Act.after_of_ok hask] at hcarried
    rw [Act.after_bind_of_ok hask, Act.result_of_ok hask]
    have hcurrent := current_note hsteadfast op (hcarried.2 h.steady)
    exact ⟨hcurrent.steady, fun _ => hcurrent.coherent⟩
  | error fault refused =>
    rw [Act.after_of_error (Act.bind_of_error hask), Act.result_of_error hask,
      Act.after_of_error hask]
    rw [Act.after_of_error hask] at hcarried
    exact kept_of_carried h hcarried

/-- **One operation.** Where a remembered address may be outdated is just where it is said to. -/
theorem AddressOp.kept {op : AddressOp ε ω} (hheeding : op.Heeding steady given) {stale : Prop}
    {site : Site ε ω} (h : Kept steady stale site) :
    Kept steady (op.stales site stale) (op.run.after site) := by
  -- Only a `life` operation may outdate the caches. The others keep the socket where it is, or fill
  -- a cache with what they were just told.
  cases op with
  | life op => exact kept_life hsteadfast op h
  | close => exact kept_close hsteadfast h
  | flush => exact kept_of_carried h (carried_flush hsteadfast site)
  | write message =>
    have hunmoved : Act.Within (Unmoved anything) (AddressOp.write message : AddressOp ε ω).run :=
      Act.within_bind (unmoved_write message) fun _ => Act.within_pure ()
    exact kept_of_current h (steady_of_unmoved hsteadfast hunmoved)
      (current_of_unmoved hsteadfast hunmoved).within
  | readReady handler =>
    have hunmoved : Act.Within (Unmoved anything) (prepareHandle : SiteAct ε ω Unit) :=
      unmoved_prepareHandle
    have hprepared := kept_of_current h (steady_of_unmoved hsteadfast hunmoved)
      (current_of_unmoved hsteadfast hunmoved).within
    have hread := kept_readReadyWith hsteadfast hheeding .own hprepared
    rw [Act.after_of_ok (run_prepareHandle site)] at hread
    show Kept steady stale ((Channel.readReady handler : SiteAct ε ω Unit).after site)
    unfold Channel.readReady
    rw [Act.after_bind_of_ok (run_prepareHandle site)]
    exact hread
  | readReadyWith handler handle => exact kept_readReadyWith hsteadfast hheeding (.lent handle) h
  | localAddress =>
    refine kept_of_current h ?_ ?_
    · exact Act.within_bind (unseen_steady hsteadfast .own).localAddress fun _ =>
        Act.within_pure ()
    · exact Act.within_bind (current_of_lasts (lasts_localAddress hsteadfast)).within fun _ =>
        Act.within_pure ()
  | remoteAddress =>
    refine kept_of_current h ?_ ?_
    · exact Act.within_bind (unseen_steady hsteadfast .own).remoteAddress fun _ =>
        Act.within_pure ()
    · exact Act.within_bind (current_of_lasts (lasts_remoteAddress hsteadfast)).within fun _ =>
        Act.within_pure ()

/-- **Any operations keep a channel coherent that none of them outdates.** -/
theorem kept_runAddresses {ops : List (AddressOp ε ω)}
    (hheeding : ∀ op ∈ ops, op.Heeding steady given) {stale : Prop} {site : Site ε ω}
    (h : Kept steady stale site) :
    Kept steady (staleAfter ops site stale) (runAddresses ops site) := by
  induction ops generalizing site stale with
  | nil => exact h
  | cons op ops ih =>
    obtain ⟨hfirst, hrest⟩ := List.forall_mem_cons.mp hheeding
    exact ih hrest (op.kept hsteadfast hfirst h)

/-! ## Any operations -/

/-- **What a channel tells about its addresses.** Let any operations be done to a coherent channel
over an endpoint whose addresses change only through its own operations, whether or not they fail.
If no address that the channel remembers was outdated since it last forgot them, it tells the local
address that its endpoint reports while it is open, and the peer that its endpoint reports while it
is connected; and in a burst every packet whose datagram came without a local address is addressed
to the one that the endpoint reports at that moment. -/
theorem coherent_runAddresses {ops : List (AddressOp ε ω)}
    (hheeding : ∀ op ∈ ops, op.Heeding steady given) {site : Site ε ω}
    (hsteady : steady (below site)) (hcoherent : Coherent site)
    (hfresh : ¬ staleAfter ops site False) :
    let reached := runAddresses ops site
    (Endpoint.isOpen reached.endpoint = true →
      (localAddress : SiteAct ε ω (Option Address)).result reached =
        ((Endpoint.localAddress : NativeAct ε Address).result (below reached)).map
          Address.known?) ∧
      (reached.channel.connected = true →
        (remoteAddress : SiteAct ε ω (Option Address)).result reached =
          (Endpoint.remoteAddress : NativeAct ε (Option Address)).result (below reached)) ∧
      ∀ (handler : Handler ε ω) (fine : ω → Prop), handler.Heeds steady given fine →
        fine reached.outside →
        fine ((readReady handler : SiteAct ε ω Unit).after reached).outside ∧
          ∀ source, Respects fine source →
            fine ((readReadyWith handler source : SiteAct ε ω Unit).after reached).outside := by
  intro reached
  have hkept : Kept steady (staleAfter ops site False) reached :=
    kept_runAddresses hsteadfast hheeding ⟨hsteady, fun _ => hcoherent⟩
  have hreached : Coherent reached := hkept.coherent hfresh
  refine ⟨hreached.result_localAddress, hreached.result_remoteAddress, ?_⟩
  intro handler fine hhandler hfine
  have hcurrent : Current steady fine reached := ⟨hkept.steady, hreached, hfine⟩
  exact ⟨(current_readReady hsteadfast hhandler reached hcurrent).fine,
    fun source hrespects =>
      (current_readReadyWith hsteadfast hhandler hrespects reached hcurrent).fine⟩

end Steadfast

/-- **Over a socket.** As long as the system tells what it knows of the names of its sockets, a
channel tells the names that the system would tell, whatever was done to it, unless an address that
it remembers was outdated; and the system goes on telling what it knows. -/
theorem coherent_over_socket {ops : List (AddressOp Socket ω)}
    (hheeding : ∀ op ∈ ops, op.Heeding Socket.Answered Socket.Controlled) {site : Site Socket ω}
    (hcandid : site.host.native.kernel.Candid) (hcoherent : Coherent site)
    (hfresh : ¬ staleAfter ops site False) :
    let reached := runAddresses ops site
    reached.host.native.kernel.Candid ∧
      (reached.endpoint.isOpen = true →
        (localAddress : SiteAct Socket ω (Option Address)).result reached =
          (Socket.localAddress.result (below reached)).map Address.known?) ∧
      (reached.channel.connected = true →
        (remoteAddress : SiteAct Socket ω (Option Address)).result reached =
          Socket.remoteAddress.result (below reached)) := by
  intro reached
  have hkept : Kept Socket.Answered (staleAfter ops site False) reached :=
    kept_runAddresses Socket.steadfast hheeding ⟨hcandid, fun _ => hcoherent⟩
  have hreached : Coherent reached := hkept.coherent hfresh
  exact ⟨hkept.steady, hreached.result_localAddress, hreached.result_remoteAddress⟩

/-! ## Packets that are addressed as they should be -/

/-- Counts packets, and notes whether each was addressed to the address that its endpoint has. -/
def checking : Handler MemoryEndpoint (Bool × Nat) := fun callback =>
  match callback with
  | .packet packet => modify fun site =>
      { site with
        outside := (site.outside.1 && (!site.endpoint.isOpen ||
          decide (packet.recipient = site.endpoint.localAddress.known?)), site.outside.2 + 1) }
  | _ => pure ()

/-- The handler that checks each packet may rely on what it is told. -/
theorem heeds_checking :
    checking.Heeds MemoryEndpoint.Unaddressed (fun _ _ => False) fun outside =>
      outside.1 = true where
  keeps callback := by
    cases callback with
    | packet packet => exact Act.within_modify fun _ => id
    | readComplete => exact Act.within_pure ()
    | failure fault => exact Act.within_pure ()
  packet packet site hcurrent haddressed := by
    refine ⟨hcurrent.steady, hcurrent.coherent.kept rfl (not_outdates_of_reported rfl), ?_⟩
    rcases haddressed with hreported | ⟨_, hnever, _⟩
    · show (site.outside.1 && _) = true
      rw [hcurrent.fine, Bool.true_and]
      cases hopen : site.endpoint.isOpen with
      | false => rfl
      | true =>
        have hknown : Except.ok site.endpoint.localAddress.known? = Except.ok packet.recipient :=
          hreported hopen
        have hsame : packet.recipient = site.endpoint.localAddress.known? := by
          injection hknown with hsame
          exact hsame.symm
        simp [hsame]
    · exact hnever.elim
  readComplete := Act.within_pure ()
  failure _ := Act.within_pure ()

/-- A channel over an in-memory endpoint with one datagram that has yet to be received. -/
def expecting : Site MemoryEndpoint (Bool × Nat) where
  channel := { name := "c", config := { allocator := 0, policy := 0 } }
  endpoint := { channel := "c", inbound := [.datagram [7] (.loopback 9 Family.ipv4) none none] }
  host := { ledger := { accounts := [{ kind := .heap }] } }
  outside := (true, 0)

/-- A channel that was asked for its local address and is bound to another one then tells that one,
and a packet that it hands on afterwards is addressed to it. -/
theorem coherent_rebound :
    let ops : List (AddressOp MemoryEndpoint (Bool × Nat)) :=
      [.localAddress, .life (.bind (.loopback 9000 Family.ipv4))]
    let asked := runAddresses (ops.take 1) expecting
    let reached := runAddresses ops expecting
    asked.channel.localCache = some (.loopback 4000 Family.ipv4) ∧
      (localAddress : SiteAct MemoryEndpoint (Bool × Nat) _).result reached =
        .ok (some (.loopback 9000 Family.ipv4)) ∧
      ((readReady checking).after reached).outside.1 = true ∧
      ((readReady checking).after reached).outside.2 = 1 := by
  intro ops asked reached
  have hheeding : ∀ op ∈ ops, op.Heeding MemoryEndpoint.Unaddressed fun _ _ => False := by
    intro op hop
    rcases List.mem_pair.mp hop with rfl | rfl <;> trivial
  -- The one datagram that waits carries no address of its own.
  have hsteady : MemoryEndpoint.Unaddressed (below expecting) := by
    intro bytes sender address reported hmem
    cases List.mem_singleton.mp hmem
  have hagreed : ((LifeOp.bind (.loopback 9000 Family.ipv4)).ask :
      SiteAct MemoryEndpoint (Bool × Nat) Unit).result asked = .ok () := by decide +kernel
  have hfresh : ¬ staleAfter ops expecting False := by
    show ¬ (AddressOp.life (.bind (.loopback 9000 Family.ipv4))).stales asked False
    unfold AddressOp.stales
    dsimp only
    rw [hagreed]
    exact id
  have hopen : Endpoint.isOpen reached.endpoint = true := by decide +kernel
  have htold : ((Endpoint.localAddress : NativeAct MemoryEndpoint Address).result
      (below reached)).map Address.known? = .ok (some (.loopback 9000 Family.ipv4)) := by
    decide +kernel
  have hcount : ((readReady checking).after reached).outside.2 = 1 := by decide +kernel
  have hasked : asked.channel.localCache = some (.loopback 4000 Family.ipv4) := by decide +kernel
  have hbefore : reached.outside.1 = true := by decide +kernel
  have hreached : runAddresses ops expecting = reached := rfl
  have hcoherent := coherent_runAddresses MemoryEndpoint.steadfast hheeding hsteady
    (coherent_of_forgotten rfl rfl) hfresh
  rw [hreached] at hcoherent
  obtain ⟨hlocal, -, hpackets⟩ := hcoherent
  exact ⟨hasked, (hlocal hopen).trans htold, (hpackets checking _ heeds_checking hbefore).1, hcount⟩

end UdpTransport.Channel
