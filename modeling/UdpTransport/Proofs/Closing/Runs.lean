import UdpTransport.Proofs.Closing.Over

/-!
# Closing for good

`Driven` lists what a program may do with channels and one event loop: everything that a channel can
be asked for, reading bursts with listeners that do the same, registering and running the loop,
making channels and removing them, and whatever else leaves channels and loop alone. Operations may
fail, and what they fail with may be caught or not.

A program may look at any moment, also from inside a callback, and how everything was is written
down (`Transport.look`). Whatever it does, every moment is secure, and a channel that was closed at
one moment is closed at all later ones (`Driven.safe`). So it is over at all of them
(`closing_is_final`).
-/

namespace UdpTransport

/-- How all channels were at the moments when a program looked, the first first, and the world
around them. -/
structure Chronicle (ω : Type) where
  pages : List (Transport ω) := []
  world : ω

namespace Transport

variable {ω α : Type} {loop : LoopId} {nested : Prop} {held : Set String} {name : String}

/-- A transport with an empty chronicle. -/
def chronicled (transport : Transport ω) : Transport (Chronicle ω) :=
  { transport with outside := { world := transport.outside } }

/-- A transport without its chronicle. -/
def plain (transport : Transport (Chronicle ω)) : Transport ω :=
  { transport with outside := transport.outside.world }

/-- The moments that were written down, and the present. -/
def moments (transport : Transport (Chronicle ω)) : List (Transport ω) :=
  transport.outside.pages ++ [transport.plain]

/-- Writes the present down. -/
def look : TransportAct (Chronicle ω) Unit := modify fun transport =>
  { transport with outside := { transport.outside with pages := transport.moments } }

/-! ## Steps -/

/-- What a channel takes along from one moment to a later one. -/
structure Station.Lasts (station station' : Station) : Prop where
  isSocket : station'.endpoint.isSocket = station.endpoint.isSocket
  shut : station.endpoint.isShut = true → station'.endpoint.isShut = true
  ended : (station.endpoint.isShut = true → station.channel.Ended) →
    station'.endpoint.isShut = true → station'.channel.Ended

theorem Station.Lasts.refl (station : Station) : Station.Lasts station station := ⟨rfl, id, id⟩

/-- A channel stays, and lasts; nothing is written down meanwhile. -/
structure Stays (name : String) (transport transport' : Transport (Chronicle ω)) : Prop where
  pages : transport'.outside.pages = transport.outside.pages
  station : ∀ station, transport.stations.get? name = some station →
    ∃ station', transport'.stations.get? name = some station' ∧ Station.Lasts station station'

instance (name : String) : IsPreorder (Transport (Chronicle ω)) (Stays name) where
  refl _ := ⟨rfl, fun station h => ⟨station, h, .refl station⟩⟩
  trans _ _ _ first later := by
    refine ⟨later.pages.trans first.pages, fun station h => ?_⟩
    obtain ⟨between, hbetween, hfirst⟩ := first.station station h
    obtain ⟨station', hstation', hlater⟩ := later.station between hbetween
    exact ⟨station', hstation', hlater.isSocket.trans hfirst.isSocket, hlater.shut ∘ hfirst.shut,
      hlater.ended ∘ hfirst.ended⟩

theorem Stays.of_same {transport transport' : Transport (Chronicle ω)}
    (hpages : transport'.outside.pages = transport.outside.pages)
    (hsame : transport'.stations.get? name = transport.stations.get? name) :
    Stays name transport transport' :=
  ⟨hpages, fun station h => ⟨station, hsame.trans h, .refl station⟩⟩

/-- What is kept around a channel that is taken out: the other channels, and what was written
down. -/
def around (elsewhere : Elsewhere (Chronicle ω)) : Named Station × List (Transport ω) :=
  (elsewhere.others, elsewhere.outside.pages)

variable {site site' : StationSite (Chronicle ω)} {taken : String}

/-- Whatever channel is taken out, what lasts for it lasts for all. -/
theorem stays_putBack (h : Channel.Lasting around site site') :
    Stays name (putBack site taken) (putBack site' taken) := by
  obtain ⟨hothers, hpages⟩ := Prod.mk.inj h.outside
  refine ⟨hpages, fun station hstation => ?_⟩
  by_cases hname : name = taken
  · subst hname
    rw [get?_putBack] at hstation
    cases hstation
    exact ⟨_, get?_putBack .., h.isSocket, h.shut, h.ended⟩
  · refine ⟨station, ?_, .refl station⟩
    simp only [putBack, Named.get?_put_of_ne _ hname] at hstation ⊢
    rw [hothers]
    exact hstation

theorem stays_on {act : StationAct (Chronicle ω) α}
    (h : Act.Within (Channel.Lasting around) act) : Act.Within (Stays name) (on taken act) := by
  intro transport
  cases hstation : transport.stations.get? taken with
  | none =>
    rw [after_on_missing hstation]
    exact refl_of _ _
  | some station =>
    have hstays : Stays name (putBack (transport.takeOut taken station) taken) (putBack _ taken) :=
      stays_putBack (h (transport.takeOut taken station))
    rw [putBack_takeOut hstation] at hstays
    rw [after_on hstation]
    exact hstays

/-- Work on the native side is nothing to any channel. -/
theorem stays_native (act : Act Native α) :
    Act.Within (Stays name) (liftM act : TransportAct (Chronicle ω) α) := by
  intro transport
  rw [after_lift_native]
  exact .of_same rfl rfl

theorem stays_attach (registration : Option Registration) :
    Act.Within (Stays name)
      (EventLoop.attach taken registration : TransportAct (Chronicle ω) Unit) := by
  refine Act.within_bind Act.within_get fun transport => ?_
  split
  · exact stays_on (Channel.lasting_setRegistration registration)
  · exact Act.within_pure ()

theorem stays_settleIn (id : Nat) (fd : Int) :
    Act.Within (Stays name)
      (EventLoop.settleIn loop id taken fd : TransportAct (Chronicle ω) Unit) := by
  refine Act.within_bind (Act.within_capture (stays_attach _)) fun result => ?_
  cases result with
  | ok _ => exact stays_native _
  | error fault =>
    -- an interest that the system refused takes the registration back
    dsimp only
    split
    · refine Act.within_bind (stays_attach none) fun _ => ?_
      exact Act.within_bind (stays_native _) fun _ => Act.within_throw fault
    · exact Act.within_throw fault

/-- Whatever becomes of a registration, no channel is opened or closed by it. -/
theorem stays_register :
    Act.Within (Stays name) (EventLoop.register loop taken : TransportAct (Chronicle ω) Unit) := by
  intro transport
  rcases EventLoop.register_cases loop taken transport with
    ⟨fault, hrefused⟩ | ⟨station, hstation, hopen, hfree⟩
  · rw [Act.after_of_error hrefused]
    exact refl_of _ _
  cases htable : transport.host.native.loop? loop with
  | none =>
    -- a loop that is gone takes no notice
    have hrun : (EventLoop.register loop taken).run transport = .ok () transport := by
      unfold EventLoop.register
      rw [Act.bind_of_ok (run_station hstation), if_neg (by simp [hopen]),
        if_neg (by simp [Channel.isRegistered, hfree]), Act.bind_of_ok (EStateM.run_get transport)]
      simp only [htable]
      rfl
    rw [Act.after_of_ok hrun]
    exact refl_of _ _
  | some table =>
    rw [Act.after_congr (EventLoop.run_register_enter hstation hopen hfree htable)]
    exact Act.within_bind (stays_native _) (fun _ => stays_settleIn _ _) transport

theorem stays_deregister :
    Act.Within (Stays name)
      (EventLoop.deregister loop taken : TransportAct (Chronicle ω) Unit) := by
  refine Act.within_bind Act.within_get fun transport => ?_
  cases (transport.host.native.loop? loop).bind (·.findChannel? taken) with
  | none => exact Act.within_pure ()
  | some entry => exact Act.within_bind (stays_attach none) fun _ => stays_native _

/-- A channel stays when another one is removed. -/
theorem stays_remove (hother : name ≠ taken) :
    Act.Within (Stays name) (Transport.remove taken : TransportAct (Chronicle ω) Unit) := by
  refine Act.within_bind Act.within_get fun transport => ?_
  split
  · refine Act.within_bind (stays_on Channel.lasting_drop) fun _ => ?_
    exact Act.within_modify fun transport => .of_same rfl (Named.get?_erase_of_ne _ hother)
  · exact Act.within_pure ()

/-- Nothing is made in the place of a channel that is there. -/
theorem stays_enroll (station : Station) :
    Act.Within (Stays name)
      (Transport.enroll taken station : TransportAct (Chronicle ω) Unit) := by
  refine Act.within_modify fun transport => ⟨?_, fun there hthere => ?_⟩
  · split <;> rfl
  · refine ⟨there, ?_, .refl there⟩
    split
    · rename_i hroom
      have hother : name ≠ taken := by
        rintro rfl
        rw [hroom.1] at hthere
        cases hthere
      exact (Named.get?_put_of_ne _ hother _).trans hthere
    · exact hthere

/-! ## What a program asks of channels goes by moves -/

theorem goes_operation {act : StationAct ω α} (h : Channel.Operation act) :
    Act.Within (SiteGoes loop nested held taken) act := by
  have houtlook : ∀ {β : Type} {act : StationAct ω β},
      Act.Within (Act.Fixing Channel.outlook) act →
        Act.Within (SiteGoes loop nested held taken) act := fun h => h.mono fun _ _ => .of_outlook
  -- Only closing, flushing and asking to read reach for the registration; the rest cannot change
  -- what the loop sees of the channel.
  cases h with
  | life op =>
    cases op with
    | bind address => exact houtlook (Channel.outlook_bind address)
    | connect remote local? => exact houtlook (Channel.outlook_connect remote local?)
    | disconnect => exact houtlook Channel.outlook_disconnect
  | close => exact goes_close
  | localAddress => exact houtlook Channel.unseen_outlook.localAddress
  | remoteAddress => exact houtlook Channel.unseen_outlook.remoteAddress
  | write message => exact houtlook (Channel.outlook_write message)
  | writeAndFlush message =>
    refine Act.within_bind (houtlook (Channel.outlook_write message)) fun ticket => ?_
    exact Act.within_bind goes_flush fun _ => Act.within_pure ticket
  | flush => exact goes_flush
  | offer message =>
    exact houtlook (Channel.outlook_native
      (Channel.within_offer Endpoint.Bystander.outlook_send message))
  | prepare message => exact houtlook (Channel.outlook_of_memory (Channel.within_prepare message))
  | read => exact goes_read
  | setAutoRead on => exact goes_setAutoRead on
  | configure f => exact Act.within_modify fun site => .of_outlook rfl
  | requestGroup request =>
    refine Act.within_bind (Act.within_ofExcept _) fun _ => ?_
    refine Act.within_bind (houtlook (Channel.outlook_futures _)) fun ticket => ?_
    exact Act.within_bind (houtlook (Channel.outlook_futures _)) fun _ => Act.within_pure ticket

/-! ## Moments -/

/-- All moments are secure, and a channel that was closed at one of them is closed at all later
ones. -/
structure Safe (loop : LoopId) (name : String) (transport : Transport (Chronicle ω)) : Prop where
  secure : ∀ moment ∈ transport.moments, Secure loop name moment
  closed : transport.moments.Pairwise fun earlier later => Closed name earlier → Closed name later

variable {transport transport' : Transport (Chronicle ω)}

theorem present_mem_moments (transport : Transport (Chronicle ω)) :
    transport.plain ∈ transport.moments :=
  List.mem_append_right _ (List.mem_singleton.mpr rfl)

theorem Safe.sound (h : Safe loop name transport) :
    ∃ table, Sound loop table (transport.scene loop) :=
  (h.secure _ (present_mem_moments transport)).sound

/-- What was closed at any moment is closed by now. -/
theorem Safe.closed_now (h : Safe loop name transport) {moment : Transport ω}
    (hmoment : moment ∈ transport.moments) (hclosed : Closed name moment) :
    Closed name transport.plain := by
  rcases List.mem_append.mp hmoment with hpage | hnow
  · exact (List.pairwise_append.mp h.closed).2.2 moment hpage transport.plain
      (List.mem_singleton.mpr rfl) hclosed
  · rwa [← List.mem_singleton.mp hnow]

/-- The present may be followed by one that is secure, and in which nothing has opened. -/
theorem Safe.onward (h : Safe loop name transport) {before : List (Transport ω)}
    (hbefore : before.Sublist transport.moments)
    (hmoments : transport'.moments = before ++ [transport'.plain])
    (hsecure : Secure loop name transport'.plain)
    (hclosed : Closed name transport.plain → Closed name transport'.plain) :
    Safe loop name transport' where
  secure moment hmoment := by
    rw [hmoments] at hmoment
    rcases List.mem_append.mp hmoment with hold | hnew
    · exact h.secure moment (hbefore.subset hold)
    · rw [List.mem_singleton.mp hnew]
      exact hsecure
  closed := by
    rw [hmoments]
    refine List.pairwise_append.mpr ⟨h.closed.sublist hbefore, List.pairwise_singleton .., ?_⟩
    intro moment hmoment now hnow hshut
    rw [List.mem_singleton.mp hnow]
    exact hclosed (h.closed_now (hbefore.subset hmoment) hshut)

/-- To look makes the present one of the moments. -/
theorem safe_look :
    Act.Within (Act.Keeping (Safe loop name)) (look : TransportAct (Chronicle ω) Unit) :=
  Act.within_modify fun transport h =>
    h.onward (List.Sublist.refl _) rfl (h.secure _ (present_mem_moments transport)) id

/-- **Steps that go by moves and let a channel stay** lead from safe moments to safe moments. -/
theorem Safe.step (h : Safe loop name transport)
    (hgoes : Goes loop True ∅ transport transport') (hstays : Stays name transport transport') :
    Safe loop name transport' := by
  have hsecure := h.secure _ (present_mem_moments transport)
  obtain ⟨table, hsound⟩ := hsecure.sound
  obtain ⟨table', hsound', -⟩ := hsound.moves (hgoes table hsound)
  obtain ⟨station, hstation, hsocket, hended⟩ := hsecure.station
  obtain ⟨station', hstation', hlasts⟩ := hstays.station station hstation
  -- The moves keep the event loop sound; that the channel has ended comes from what lasts.
  refine h.onward (List.sublist_append_left _ _) ?_ ⟨⟨table', hsound'⟩, ?_⟩ ?_
  · exact congrArg (· ++ [transport'.plain]) hstays.pages
  · exact ⟨station', hstation', hlasts.isSocket.trans hsocket, hlasts.ended hended⟩
  · rintro ⟨there, hthere, hshut⟩
    cases hstation.symm.trans hthere
    have hisShut : station.endpoint.isShut = true := by
      simp [ChannelEndpoint.isShut, hsocket, hshut]
    exact ⟨station', hstation', ChannelEndpoint.isOpen_of_isShut (hlasts.shut hisShut)⟩

theorem safe_of_step {act : TransportAct (Chronicle ω) α}
    (hgoes : Act.Within (Goes loop True ∅) act) (hstays : Act.Within (Stays name) act) :
    Act.Within (Act.Keeping (Safe loop name)) act := fun transport h =>
  h.step (hgoes transport) (hstays transport)

/-! ## Bursts -/

/-- All is safe, once the channel that is taken out is put back. -/
abbrev SafeAt (loop : LoopId) (name taken : String) (site : StationSite (Chronicle ω)) : Prop :=
  Safe loop name (putBack site taken)

theorem safeAt_of_step {act : StationAct (Chronicle ω) α}
    (hgoes : Act.Within (SiteGoes loop True ∅ taken) act)
    (hlasting : Act.Within (Channel.Lasting around) act) :
    Act.Within (Act.Keeping (SafeAt loop name taken)) act := fun site h =>
  h.step (hgoes site) (stays_putBack (hlasting site))

theorem safe_on {act : StationAct (Chronicle ω) α}
    (h : Act.Within (Act.Keeping (SafeAt loop name taken)) act) :
    Act.Within (Act.Keeping (Safe loop name)) (on taken act) := by
  intro transport hsafe
  cases hstation : transport.stations.get? taken with
  | none => rwa [after_on_missing hstation]
  | some station =>
    rw [after_on hstation]
    refine h (transport.takeOut taken station) ?_
    show Safe loop name (putBack _ taken)
    rwa [putBack_takeOut hstation]

section Bursts

/-- A receive handle that leaves the other channels and the chronicle alone. -/
abbrev Discreet : HandleSource (Elsewhere (Chronicle ω)) → Prop := Channel.Discreet around

variable {source : HandleSource (Elsewhere (Chronicle ω))} (hsource : Discreet source)

include hsource

theorem unseen_safeAt :
    Channel.Unseen (Act.Keeping (SafeAt loop name taken) : StationSite (Chronicle ω) → _ → Prop)
      source :=
  have hgoes : Channel.Unseen
    (SiteGoes loop True ∅ taken : StationSite (Chronicle ω) → _ → Prop) source :=
      unseen_goes (hsource.part Prod.fst)
  have hlasting := Channel.unseen_lasting hsource
  { localAddress := safeAt_of_step hgoes.localAddress hlasting.localAddress
    remoteAddress := safeAt_of_step hgoes.remoteAddress hlasting.remoteAddress
    readInto := fun data => safeAt_of_step (hgoes.readInto data) (hlasting.readInto data)
    receiveInto := fun data => safeAt_of_step (hgoes.receiveInto data) (hlasting.receiveInto data)
    told := fun name callback => safeAt_of_step (hgoes.told name callback)
      (hlasting.told name callback)
    log := fun level tag text => safeAt_of_step (hgoes.log level tag text)
      (hlasting.log level tag text)
    memory := fun act => safeAt_of_step (hgoes.memory act) (hlasting.memory act)
    handle := fun f => safeAt_of_step (hgoes.handle f) (hlasting.handle f) }

omit hsource in
/-- What a listener keeps safe is safe when its channel is taken out again. -/
theorem safeAt_react {listener : Listener (Chronicle ω)} (hheld : taken ∈ held)
    {callback : Callback}
    (hgoes : Act.Within (Goes loop nested held) (listener taken callback))
    (hsafe : Act.Within (Act.Keeping (Safe loop name)) (listener taken callback)) :
    Act.Within (Act.Keeping (SafeAt loop name taken)) (react listener taken callback) := by
  intro site h
  -- Its channel is still there after the listener, since nobody may remove it meanwhile.
  obtain ⟨table, hsound⟩ := h.sound
  obtain ⟨station, hstation⟩ := station_after_listener hheld hgoes hsound
  show Safe loop name (putBack _ taken)
  rw [after_react hstation, putBack_takeOut hstation]
  exact hsafe _ h

theorem safeAt_readReadyWith {listener : Listener (Chronicle ω)} (hheld : taken ∈ held)
    (hgoes : ∀ callback, Act.Within (Goes loop nested held) (listener taken callback))
    (hsafe : ∀ callback, Act.Within (Act.Keeping (Safe loop name)) (listener taken callback)) :
    Act.Within (Act.Keeping (SafeAt loop name taken))
      (Channel.readReadyWith (react listener taken) source : StationAct (Chronicle ω) Unit) := by
  refine Channel.within_readReadyWith (unseen_safeAt hsource) ?_ ?_ ?_ ?_ fun callback => ?_
  · exact safeAt_of_step (goes_beginBurst (hsource.part Prod.fst))
      (Channel.lasting_beginBurst hsource)
  · intro site packets h
    have hgoes : SiteGoes loop True ∅ taken site (site.withChannel
      { site.channel with readPending := false, burstPackets := packets }) := .of_outlook rfl
    exact h.step hgoes (stays_putBack (Channel.lasting_withChannel site rfl))
  · exact safeAt_of_step goes_read Channel.lasting_read
  · exact safeAt_of_step (wishing_goes.readInterest false)
      (Channel.within_setReadInterest_of fun _ _ => Channel.lasting_plain _)
  · exact Channel.within_tell (unseen_safeAt hsource) callback
      (safeAt_react hheld (hgoes callback) (hsafe callback))

end Bursts

theorem safeAt_readReady {listener : Listener (Chronicle ω)} (hheld : taken ∈ held)
    (hgoes : ∀ callback, Act.Within (Goes loop nested held) (listener taken callback))
    (hsafe : ∀ callback, Act.Within (Act.Keeping (Safe loop name)) (listener taken callback)) :
    Act.Within (Act.Keeping (SafeAt loop name taken))
      (Channel.readReady (react listener taken) : StationAct (Chronicle ω) Unit) := by
  have hown : Discreet (.own : HandleSource (Elsewhere (Chronicle ω))) := trivial
  exact Act.within_bind (safeAt_of_step goes_prepareHandle Channel.lasting_prepareHandle) fun _ =>
    safeAt_readReadyWith hown hheld hgoes hsafe

/-! ## Running the loop -/

theorem goes_of_scene (h : transport'.scene loop = transport.scene loop) :
    Goes loop nested held transport transport' := by
  show Proceeds loop nested held _ (transport'.scene loop)
  rw [h]
  exact refl_of _ _

theorem safe_runOnce {listener : Listener (Chronicle ω)}
    (hgoes : ∀ channel callback,
      Act.Within (Goes loop True (insert channel held)) (listener channel callback))
    (hsafe : ∀ channel callback,
      Act.Within (Act.Keeping (Safe loop name)) (listener channel callback)) (timeout : Int) :
    Act.Within (Act.Keeping (Safe loop name)) (EventLoop.runOnce listener loop timeout) := by
  have hwork : ∀ (part : EventLoop.Part) channel,
      Act.Within (Act.Keeping (Safe loop name)) (on channel (part.work listener channel)) := by
    intro part channel
    cases part with
    | reading =>
      exact safe_on (safeAt_readReady (Set.mem_insert channel held) (hgoes channel)
        (hsafe channel))
    | flushing =>
      exact safe_of_step (goes_on goes_flush) (stays_on Channel.lasting_flush)
  have hlog : ∀ level tag text, Act.Within (Act.Keeping (Safe loop name))
      (liftM (Native.writeLog level tag text) : TransportAct (Chronicle ω) Unit) := fun _ _ _ =>
    safe_of_step (goes_log _ _ _) (stays_native _)
  intro transport h
  obtain ⟨table, hsound⟩ := h.sound
  have htable : transport.host.native.loop? loop = some table := hsound.there
  -- The wait reports a batch and the dispatch begins, or it fails and nothing is dispatched.
  cases hanswer : (Kernel.wait table.maxEvents transport.host.native.kernel).1 with
  | value events =>
    have hreported : Goes loop True ∅ transport
        (EventLoop.informed loop table timeout events transport) := fun _ _ => by
      rw [EventLoop.scene_informed htable]
      exact .single (.reported events trivial hsound.there)
    have hrest : Act.Within (Act.Keeping (Safe loop name))
        (EventLoop.dispatchFrom listener loop 0 events.length >>= fun _ => pure events.length) :=
      Act.within_bind (EventLoop.within_dispatchFrom hwork hlog 0 events.length) fun _ =>
        Act.within_pure events.length
    rw [Act.after_congr (EventLoop.runOnce_run htable listener timeout hanswer)]
    exact hrest _ (h.step hreported (.of_same rfl rfl))
  | failure code =>
    rw [EventLoop.after_runOnce_of_failure htable listener timeout hanswer]
    exact h.step (goes_of_scene (EventLoop.scene_waited ..)) (.of_same rfl rfl)

/-! ## Driven programs -/

/-- What else there is to a transport: all channels, the event loop, and the chronicle. -/
def vista (loop : LoopId) (transport : Transport (Chronicle ω)) :
    Scene × Named Station × List (Transport ω) :=
  (transport.scene loop, transport.stations, transport.outside.pages)

end Transport

open Transport (Goes SafeAt Safe Stays look)

/-- What a program may do with channels and an event loop. The channels that are `held` are not
removed: those that the program keeps, and those whose callbacks are running. -/
inductive Driven {ω : Type} (loop : LoopId) :
    Set String → {α : Type} → TransportAct (Chronicle ω) α → Prop where
  | look {held : Set String} : Driven loop held look
  /-- Anything that leaves all channels, the event loop and the chronicle alone. It may fail. -/
  | aside {held : Set String} {α : Type} {act : TransportAct (Chronicle ω) α}
      (h : Act.Within (Act.Fixing (Transport.vista loop)) act) : Driven loop held act
  | operation {held : Set String} {α : Type} (name : String) {act : StationAct (Chronicle ω) α}
      (h : Channel.Operation act) : Driven loop held (Transport.on name act)
  | readReady {held : Set String} (name : String) {listener : Listener (Chronicle ω)}
      (h : ∀ callback, Driven loop (insert name held) (listener name callback)) :
      Driven loop held (Transport.on name (Channel.readReady (Transport.react listener name)))
  | readReadyWith {held : Set String} (name : String)
      {lent : LentHandle (Elsewhere (Chronicle ω))} (hlent : Transport.Discreet (.lent lent))
      {listener : Listener (Chronicle ω)}
      (h : ∀ callback, Driven loop (insert name held) (listener name callback)) :
      Driven loop held
        (Transport.on name (Channel.readReadyWith (Transport.react listener name) (.lent lent)))
  | register {held : Set String} (name : String) : Driven loop held (EventLoop.register loop name)
  | deregister {held : Set String} (name : String) :
      Driven loop held (EventLoop.deregister loop name)
  | runOnce {held : Set String} (timeout : Int) {listener : Listener (Chronicle ω)}
      (h : ∀ name callback, Driven loop (insert name held) (listener name callback)) :
      Driven loop held (EventLoop.runOnce listener loop timeout)
  | enroll {held : Set String} (name : String) {station : Station}
      (hfree : station.channel.registration = none) :
      Driven loop held (Transport.enroll name station)
  | remove {held : Set String} {name : String} (hheld : name ∉ held) :
      Driven loop held (Transport.remove name)
  | bind {held : Set String} {α β : Type} {act : TransportAct (Chronicle ω) α}
      {next : α → TransportAct (Chronicle ω) β} (first : Driven loop held act)
      (later : ∀ a, Driven loop held (next a)) : Driven loop held (act >>= next)
  | capture {held : Set String} {α : Type} {act : TransportAct (Chronicle ω) α}
      (h : Driven loop held act) : Driven loop held act.capture

namespace Driven

variable {ω α : Type} {loop : LoopId} {held : Set String} {name : String}

/-- While callbacks of a channel run, more channels are held than before and after. -/
theorem goes_of_insert {taken : String} {act : TransportAct (Chronicle ω) α}
    (h : Act.Within (Goes loop True (insert taken held)) act) :
    Act.Within (Goes loop True held) act :=
  h.mono fun _ _ => Proceeds.mono id (Set.subset_insert taken held)

/-- Driven programs go by moves. -/
theorem goes {act : TransportAct (Chronicle ω) α} (h : Driven loop held act) :
    Act.Within (Goes loop True held) act := by
  induction h with
  | look => exact Act.within_modify fun transport => Transport.goes_of_scene rfl
  | aside h => exact fun transport => Transport.goes_of_scene (congrArg Prod.fst (h transport))
  | operation name h => exact Transport.goes_on (Transport.goes_operation h)
  | readReady name h ih =>
    exact goes_of_insert (Transport.goes_on
      (Transport.goes_readReady (Set.mem_insert name _) ih))
  | readReadyWith name hlent h ih =>
    exact goes_of_insert (Transport.goes_on
      (Transport.goes_readReadyWith (hlent.part Prod.fst) (Set.mem_insert name _) ih))
  | register name => exact EventLoop.goes_register
  | deregister name => exact EventLoop.goes_deregister
  | runOnce timeout h ih => exact EventLoop.goes_runOnce trivial ih timeout
  | enroll name hfree => exact Transport.goes_enroll hfree
  | remove hheld => exact EventLoop.goes_remove hheld
  | bind first later ihfirst ihlater => exact Act.within_bind ihfirst ihlater
  | capture h ih => exact Act.within_capture ih

/-- **Driven programs lead from safe moments to safe moments.** -/
theorem safe {act : TransportAct (Chronicle ω) α} (h : Driven loop held act) (hheld : name ∈ held) :
    Act.Within (Act.Keeping (Safe loop name)) act := by
  -- The induction is over the program. What a handler does is part of it, with one more name held.
  induction h with
  | look => exact Transport.safe_look
  | aside h =>
    intro transport hsafe
    have hvista : Transport.vista loop _ = Transport.vista loop transport := h transport
    obtain ⟨hscene, hstations, hpages⟩ : _ ∧ _ ∧ _ := by simpa [Transport.vista] using hvista
    exact hsafe.step (Transport.goes_of_scene hscene)
      (.of_same hpages (congrArg (·.get? name) hstations))
  | operation other h =>
    exact Transport.safe_of_step (Transport.goes_on (Transport.goes_operation h))
      (Transport.stays_on h.lasting)
  | readReady other h ih =>
    exact Transport.safe_on (Transport.safeAt_readReady (Set.mem_insert other _)
      (fun callback => (h callback).goes)
      fun callback => ih callback (Set.mem_insert_of_mem _ hheld))
  | readReadyWith other hlent h ih =>
    exact Transport.safe_on (Transport.safeAt_readReadyWith hlent (Set.mem_insert other _)
      (fun callback => (h callback).goes)
      fun callback => ih callback (Set.mem_insert_of_mem _ hheld))
  | register other =>
    exact Transport.safe_of_step EventLoop.goes_register Transport.stays_register
  | deregister other =>
    exact Transport.safe_of_step EventLoop.goes_deregister Transport.stays_deregister
  | runOnce timeout h ih =>
    exact Transport.safe_runOnce (fun other callback => (h other callback).goes)
      (fun other callback => ih other callback (Set.mem_insert_of_mem _ hheld)) timeout
  | enroll other hfree =>
    exact Transport.safe_of_step (Transport.goes_enroll hfree) (Transport.stays_enroll _)
  | remove hother =>
    refine Transport.safe_of_step (EventLoop.goes_remove (Set.notMem_empty _))
      (Transport.stays_remove ?_)
    rintro rfl
    exact hother hheld
  | bind first later ihfirst ihlater =>
    exact Act.within_bind (ihfirst hheld) fun a => ihlater a hheld
  | capture h ih => exact Act.within_capture (ih hheld)

end Driven

/-! ## Closing -/

namespace Transport

open EventLoop (besideTwo besideTwo_fresh)

variable {ω α : Type} {loop : LoopId} {held : Set String} {name : String}
  {transport : Transport ω} {station : Station}

/-- Before anything happened, the only moment is the present. -/
theorem safe_fresh (hfresh : Fresh loop transport)
    (hstation : transport.stations.get? name = some station)
    (hsocket : station.endpoint.isSocket = true)
    (hopen : Endpoint.isOpen station.endpoint = true) : Safe loop name transport.chronicled := by
  refine ⟨fun moment hmoment => ?_, List.pairwise_singleton _ transport⟩
  obtain rfl : moment = transport := List.mem_singleton.mp hmoment
  refine ⟨hfresh.sound, station, hstation, hsocket, fun hshut => ?_⟩
  rw [ChannelEndpoint.isOpen_of_isShut hshut] at hopen
  cases hopen

/-- **Closing is final.** Take a channel over an open socket beside a new event loop, and any
program that uses both and does not remove the channel. At every moment that the program looks at,
from wherever it does, and at the end, closing the channel makes it over, whatever the system says.
Where it was closed at some moment, it is over then, and at all later ones. -/
theorem closing_is_final (hfresh : Fresh loop transport)
    (hstation : transport.stations.get? name = some station)
    (hsocket : station.endpoint.isSocket = true)
    (hopen : Endpoint.isOpen station.endpoint = true) {act : TransportAct (Chronicle ω) α}
    (hact : Driven loop held act) (hheld : name ∈ held) :
    (∀ moment ∈ (act.after transport.chronicled).moments,
        Over loop name ((on name Channel.close).after moment) ∧
          (Closed name moment → Over loop name moment)) ∧
      (act.after transport.chronicled).moments.Pairwise fun earlier later =>
        Closed name earlier → Over loop name later := by
  have hsafe := hact.safe hheld transport.chronicled (safe_fresh hfresh hstation hsocket hopen)
  refine ⟨fun moment hmoment => ?_, ?_⟩
  · have hsecure := hsafe.secure moment hmoment
    exact ⟨hsecure.close, hsecure.over⟩
  · refine hsafe.closed.imp_of_mem fun {earlier later} _ hlater hclosed hshut => ?_
    exact (hsafe.secure later hlater).over (hclosed hshut)

/-- Whatever a channel is told, it is closed. -/
def quitting : Listener (Chronicle Unit) := fun name _ => on name Channel.close

/-- Registers a channel and runs the event loop, with a listener that closes channels. Then looks,
and asks to read. -/
def quits : TransportAct (Chronicle Unit) Unit := do
  EventLoop.register 0 "a"
  let _ ← (EventLoop.runOnce quitting 0 0).capture
  look
  on "a" Channel.read

theorem driven_quits : Driven 0 {"a"} quits :=
  .bind (.register "a") fun _ =>
    .bind (.capture (.runOnce 0 fun name _ => .operation name .close)) fun _ =>
      .bind .look fun _ => .operation "a" .read

/-- The channel is closed while it is told of a burst, and the system refuses to close the
descriptor. Right after that the channel is over, and it still is in the end. -/
theorem closing_is_final_quits :
    let failing : Script :=
      { wait := [some (.value [(1, 1)])], close := [some (.failure 5)] }
    let moments := (quits.after (besideTwo failing).chronicled).moments
    moments.length = 2 ∧ (∀ moment ∈ moments, Over 0 "a" moment) ∧
      (.call (.close 5) (.failure 5)) ∈
        (quits.after (besideTwo failing).chronicled).host.native.journal := by
  intro failing moments
  have hfresh : Fresh 0 (besideTwo failing) := besideTwo_fresh fun n hmem => by cases hmem
  have hstation : (besideTwo failing).stations.get? "a" = some _ := rfl
  obtain ⟨hover, -⟩ := closing_is_final hfresh hstation rfl rfl driven_quits (Set.mem_singleton "a")
  have hclosed : moments.map (fun moment => (moment.stations.get? "a").map
      fun station => Endpoint.isOpen station.endpoint) = [some false, some false] := by
    decide +kernel
  refine ⟨by simpa using congrArg List.length hclosed, fun moment hmoment => ?_, by decide +kernel⟩
  have hshut : (moment.stations.get? "a").map (fun station => Endpoint.isOpen station.endpoint) =
      some false := by
    simpa [hclosed] using List.mem_map_of_mem (f := fun moment : Transport Unit =>
      (moment.stations.get? "a").map fun station => Endpoint.isOpen station.endpoint) hmoment
  exact (hover moment hmoment).2 (Option.map_eq_some_iff.mp hshut)

end Transport

end UdpTransport
