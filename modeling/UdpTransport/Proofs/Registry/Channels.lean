import UdpTransport.Proofs.Registry.Sites

/-!
# Channels among others, and their event loop

Everything that a channel does goes by moves of the scene: asking for a burst, switching automatic
reading, flushing, closing, and reading a burst, where the handler may do whatever goes by moves,
except to take its own channel away (`Transport.goes_readReadyWith`). A channel that is closed has
no registration any more (`Transport.close_goes`), and neither has one that nobody uses
(`Transport.drop_goes`).
-/

namespace UdpTransport

/-- What of a channel has to do with its registration. -/
def Station.bearing (station : Station) : Bearing :=
  ⟨station.channel.registration, Endpoint.isOpen station.endpoint,
    Endpoint.descriptor station.endpoint⟩

namespace Transport

variable {ω α : Type} {loop : LoopId} {nested : Prop} {held : Set String} {name : String}
  {transport : Transport ω} {station : Station} {site site' : StationSite ω} {table : Loop}

/-- What a loop can tell of each channel. -/
def bearings (transport : Transport ω) : Bearings := fun name =>
  (transport.stations.get? name).map Station.bearing

/-- How an event loop, all channels and the system look. -/
def scene (loop : LoopId) (transport : Transport ω) : Scene :=
  transport.host.native.sight.scene loop transport.bearings

/-- How they look while one channel is taken out, as if it were put back. -/
def siteScene (loop : LoopId) (name : String) (site : StationSite ω) : Scene :=
  (putBack site name).scene loop

/-- The scene goes on by moves. -/
abbrev Goes (loop : LoopId) (nested : Prop) (held : Set String) :
    Transport ω → Transport ω → Prop :=
  Act.Through (scene loop) (Proceeds loop nested held)

/-- The scene goes on by moves while a channel is taken out. -/
abbrev SiteGoes (loop : LoopId) (nested : Prop) (held : Set String) (name : String) :
    StationSite ω → StationSite ω → Prop :=
  Act.Through (siteScene loop name) (Proceeds loop nested held)

/-! ## One channel at its place -/

/-- A channel that is put back is known by what it is then. -/
theorem bearings_putBack (site : StationSite ω) (name : String) :
    (putBack site name).bearings name = some (Channel.bearing site) := by
  unfold bearings
  rw [get?_putBack]
  rfl

/-- As long as nothing else changes, the channels are the same but for the one. -/
theorem bearings_putBack_of_outside (h : site'.outside = site.outside) (name : String) :
    (putBack site' name).bearings =
      Function.update (putBack site name).bearings name (some (Channel.bearing site')) := by
  funext other
  by_cases hother : other = name
  · subst hother
    rw [Function.update_self, bearings_putBack]
  · rw [Function.update_of_ne hother]
    simp only [bearings, putBack, Named.get?_put_of_ne _ hother, h]

/-- The scene around a channel is that of the other channels, and its own bearing. -/
theorem siteScene_of_outside (h : site'.outside = site.outside) :
    siteScene loop name site' = site'.host.native.sight.scene loop
      (Function.update (siteScene loop name site).bearings name (some (Channel.bearing site'))) :=
  congrArg (site'.host.native.sight.scene loop) (bearings_putBack_of_outside h name)

/-- What keeps the outlook of a channel keeps the scene. -/
theorem siteScene_of_outlook (h : Channel.outlook site' = Channel.outlook site) :
    siteScene loop name site' = siteScene loop name site := by
  obtain ⟨hbearing, hsight, houtside⟩ : Channel.bearing site' = Channel.bearing site ∧
      site'.host.native.sight = site.host.native.sight ∧ site'.outside = site.outside := by
    simpa [Channel.outlook] using h
  have hsame : Function.update (siteScene loop name site).bearings name
      (some (Channel.bearing site)) = (siteScene loop name site).bearings :=
    Function.update_eq_self_iff.mpr (bearings_putBack site name).symm
  rw [siteScene_of_outside houtside, hbearing, hsight, hsame]
  rfl

/-- To take a channel out and to put it back changes nothing. -/
theorem bearings_takeOut (h : transport.stations.get? name = some station) :
    (putBack (transport.takeOut name station) name).bearings = transport.bearings := by
  funext other
  by_cases hother : other = name
  · subst hother
    rw [bearings_putBack, bearings, h]
    rfl
  · simp only [bearings, putBack, takeOut, Named.get?_put_of_ne _ hother,
      Named.get?_erase_of_ne _ hother]

/-- A channel that is taken out is still seen. -/
theorem siteScene_takeOut (h : transport.stations.get? name = some station) :
    siteScene loop name (transport.takeOut name station) = transport.scene loop :=
  congrArg (transport.host.native.sight.scene loop) (bearings_takeOut h)

/-- Where the scene is kept, no move is made. -/
theorem SiteGoes.of_outlook (h : Channel.outlook site' = Channel.outlook site) :
    SiteGoes loop nested held name site site' := by
  show Proceeds loop nested held _ (siteScene loop name site')
  rw [siteScene_of_outlook h]
  exact refl_of _ _

/-- Work on the native side shows in the sight only. -/
theorem siteScene_lift_native (act : Act Native α) (site : StationSite ω) :
    siteScene loop name ((liftM act : StationAct ω α).after site) =
      (act.after site.host.native).sight.scene loop (siteScene loop name site).bearings := by
  have hafter : (liftM act : StationAct ω α).after site =
      site.withNative (site.endpoint, act.after site.host.native) :=
    (Channel.after_lift_native (liftM act : NativeAct ChannelEndpoint α) site).trans
      (by rw [Channel.after_lift_plain])
  rw [hafter]
  rfl

/-- What a channel does at its place happens to all. -/
theorem goes_on {act : StationAct ω α} (h : Act.Within (SiteGoes loop nested held name) act) :
    Act.Within (Goes loop nested held) (on name act) := by
  intro transport
  cases hstation : transport.stations.get? name with
  | none =>
    rw [after_on_missing hstation]
    exact refl_of (Goes loop nested held) transport
  | some station =>
    have hgoes : Proceeds loop nested held
        (siteScene loop name (transport.takeOut name station)) _ :=
      h (transport.takeOut name station)
    rw [siteScene_takeOut hstation] at hgoes
    rw [after_on hstation]
    exact hgoes

/-- If a listener leaves its channel where it is, the channel is taken out of what it left. -/
theorem after_react {listener : Listener ω} {callback : Callback}
    (h : ((listener name callback).after (putBack site name)).stations.get? name = some station) :
    (react listener name callback).after site =
      ((listener name callback).after (putBack site name)).takeOut name station := by
  cases hrun : (listener name callback).run (putBack site name) with
  | ok _ reached =>
    rw [Act.after_of_ok hrun] at h ⊢
    have hreact : (react listener name callback).run site =
        .ok () (reached.takeOut name station) := by
      show react listener name callback site = _
      unfold react
      rw [show listener name callback (putBack site name) = _ from hrun]
      simp only [h, Option.getD_some]
    exact Act.after_of_ok hreact
  | error fault reached =>
    rw [Act.after_of_error hrun] at h ⊢
    have hreact : (react listener name callback).run site =
        .error fault (reached.takeOut name station) := by
      show react listener name callback site = _
      unfold react
      rw [show listener name callback (putBack site name) = _ from hrun]
      simp only [h, Option.getD_some]
    exact Act.after_of_error hreact

/-- A listener leaves its channel where it is if what it does goes by moves that hold the channel.
-/
theorem station_after_listener {listener : Listener ω} (hheld : name ∈ held) {callback : Callback}
    (h : Act.Within (Goes loop nested held) (listener name callback))
    (hsound : Sound loop table (siteScene loop name site)) :
    ∃ station, ((listener name callback).after (putBack site name)).stations.get? name =
      some station := by
  have hthere : (((listener name callback).after (putBack site name)).bearings name).isSome := by
    refine isSome_of_moves (h (putBack site name) table hsound) hheld ?_
    rw [show (scene loop (putBack site name)).bearings name = _ from bearings_putBack site name]
    rfl
  simpa [bearings, Option.isSome_iff_exists] using hthere

/-- What a listener does happens to all, its own channel included, which has to stay. -/
theorem goes_react {listener : Listener ω} (hheld : name ∈ held) {callback : Callback}
    (h : Act.Within (Goes loop nested held) (listener name callback)) :
    Act.Within (SiteGoes loop nested held name) (react listener name callback) := by
  intro site table hsound
  obtain ⟨station, hstation⟩ := station_after_listener hheld h hsound
  rw [after_react hstation, siteScene_takeOut hstation]
  exact h (putBack site name) table hsound

/-! ## Interest -/

/-- An entry is updated by one move, or by none if the system refuses. -/
theorem goes_updateEntry (id flag : Nat) (wanted : Bool) :
    Act.Within (SiteGoes loop nested held name)
      (liftM (Registration.updateEntry loop id flag wanted) : StationAct ω Unit) := by
  intro site table hsound
  have htable : site.host.native.loop? loop = some table := hsound.there
  have hworded : Kernel.Worded site.host.native.sight.answers := hsound.worded
  rw [siteScene_lift_native]
  rcases Registration.updateEntry_run htable hworded id flag wanted with
    hrun | ⟨entry, interest, hfind, hcall⟩
  · rw [Act.after_of_ok hrun]
    exact .refl
  obtain ⟨hentry, rfl⟩ := Loop.mem_of_find? hfind
  rcases hcall with ⟨number, native, hrun, hsight⟩ | ⟨code, seen, native, hrun, hsight⟩
  · rw [Act.after_of_ok hrun, hsight, Native.scene_asked htable]
    exact .single (.modified interest number hsound.there hentry)
  · rw [Act.after_of_error hrun, hsight]
    exact .single (.refused interest seen hsound.there hentry)

/-- A registration of a channel of a sound scene is an entry of the event loop. -/
theorem registration_of_sound (h : Sound loop table (siteScene loop name site))
    {registration : Registration} (hregistration : site.channel.registration = some registration) :
    ∃ entry ∈ table.entries, entry.channel = name ∧ registration = .entry loop entry.id ∧
      Channel.bearing site = ⟨some (.entry loop entry.id), true, entry.descriptor⟩ :=
  h.entry_of_registration (bearings_putBack site name) hregistration

/-- So whatever a channel waits for, it waits for by moves. -/
theorem wishing_goes :
    Channel.Wishing (SiteGoes loop nested held name : StationSite ω → StationSite ω → Prop) where
  reading _ _ := .of_outlook rfl
  autoRead _ _ := .of_outlook rfl
  queue _ _ := .of_outlook rfl
  readInterest wanted := by
    intro site table hsound
    unfold Channel.setReadInterest
    rw [Act.after_bind_of_ok (Channel.run_current site)]
    cases hregistration : site.channel.registration with
    | none => exact .refl
    | some registration =>
      obtain ⟨entry, _, _, rfl, _⟩ := registration_of_sound hsound hregistration
      exact goes_updateEntry entry.id Number.readable wanted site table hsound
  writeInterest wanted := by
    intro site table hsound
    unfold Channel.setWriteInterest
    rw [Act.after_bind_of_ok (Channel.run_current site)]
    cases hregistration : site.channel.registration with
    | none => exact .refl
    | some registration =>
      obtain ⟨entry, _, _, rfl, _⟩ := registration_of_sound hsound hregistration
      exact goes_updateEntry entry.id Number.writable wanted site table hsound

theorem goes_read : Act.Within (SiteGoes loop nested held name)
    (Channel.read : StationAct ω Unit) := Channel.within_read_of_wishing wishing_goes

theorem goes_setAutoRead (on : Bool) : Act.Within (SiteGoes loop nested held name)
    (Channel.setAutoRead on : StationAct ω Unit) := Channel.within_setAutoRead wishing_goes on

theorem goes_flush : Act.Within (SiteGoes loop nested held name)
    (Channel.flush : StationAct ω Unit) :=
  Channel.within_flush wishing_goes (Channel.served_outlook.mono fun _ _ => .of_outlook)

/-! ## Bursts -/

section Bursts

variable {source : HandleSource (Elsewhere ω)} (hsource : Channel.Discreet Elsewhere.others source)

/-- What else is kept outside shows in no scene. -/
theorem siteScene_withOutside (site : StationSite ω) {elsewhere : Elsewhere ω}
    (h : elsewhere.others = site.outside.others) :
    siteScene loop name { site with outside := elsewhere } = siteScene loop name site := by
  unfold siteScene scene bearings putBack
  rw [h]

include hsource

theorem alongHandle_goes :
    Channel.AlongHandle (SiteGoes loop nested held name : StationSite ω → _ → Prop) source := by
  cases source with
  | own => exact fun _ _ => .of_outlook rfl
  | lent lent =>
    refine ⟨fun site handle => ?_, fun site => ?_⟩
    · show Proceeds loop nested held _ (siteScene loop name _)
      rw [siteScene_withOutside site (hsource.1 _ _)]
      exact refl_of _ _
    · show Proceeds loop nested held _ (siteScene loop name _)
      rw [siteScene_withOutside site (hsource.2 _)]
      exact refl_of _ _

theorem goes_beginBurst : Act.Within (SiteGoes loop nested held name)
    (Channel.beginBurst source : StationAct ω Unit) :=
  (alongHandle_goes hsource).beginBurst fun _ => .of_outlook rfl

theorem unseen_goes :
    Channel.Unseen (SiteGoes loop nested held name : StationSite ω → _ → Prop) source :=
  have howned : Channel.Unseen (SiteGoes loop nested held name : StationSite ω → _ → Prop) .own :=
    Channel.unseen_outlook.mono fun _ _ => .of_outlook
  { howned with handle := (alongHandle_goes hsource).changeHandle }

/-- **A burst goes by moves** if all that the listener does goes by moves, and if the receive handle
leaves the other channels alone. -/
theorem goes_readReadyWith {listener : Listener ω} (hheld : name ∈ held)
    (h : ∀ callback, Act.Within (Goes loop nested held) (listener name callback)) :
    Act.Within (SiteGoes loop nested held name)
      (Channel.readReadyWith (react listener name) source : StationAct ω Unit) :=
  Channel.within_readReadyWith (unseen_goes hsource) (goes_beginBurst hsource)
    (fun _ _ => .of_outlook rfl) goes_read (wishing_goes.readInterest false) fun callback =>
      Channel.within_tell (unseen_goes hsource) callback (goes_react hheld (h callback))

end Bursts

theorem goes_prepareHandle : Act.Within (SiteGoes loop nested held name)
    (Channel.prepareHandle : StationAct ω Unit) := fun site => by
  rw [Act.after_of_ok (Channel.run_prepareHandle site)]
  exact .of_outlook rfl

/-- With its own receive handle, a channel leaves all others alone. -/
theorem goes_readReady {listener : Listener ω} (hheld : name ∈ held)
    (h : ∀ callback, Act.Within (Goes loop nested held) (listener name callback)) :
    Act.Within (SiteGoes loop nested held name)
      (Channel.readReady (react listener name) : StationAct ω Unit) :=
  have hown : Channel.Discreet Elsewhere.others (.own : HandleSource (Elsewhere ω)) := trivial
  Act.within_bind goes_prepareHandle fun _ => goes_readReadyWith hown hheld h

/-! ## Closing -/

/-- A channel that ends its registration leaves the event loop. -/
theorem detach_goes (h : Sound loop table (siteScene loop name site)) :
    ∃ site', (Channel.detach : StationAct ω Unit).run site = .ok () site' ∧
      Relation.ReflTransGen (Move loop nested held) (siteScene loop name site)
        (siteScene loop name site') ∧
      Channel.bearing site' = { Channel.bearing site with registration := none } := by
  unfold Channel.detach
  rw [Act.bind_of_ok (Channel.run_current site)]
  cases hregistration : site.channel.registration with
  | none =>
    refine ⟨site, rfl, .refl, ?_⟩
    rw [← hregistration]
    rfl
  | some registration =>
    -- In a sound scene a registration is an entry of the table, under this very channel.
    obtain ⟨entry, hentry, rfl, rfl, hbearing⟩ := registration_of_sound h hregistration
    have htable : site.host.native.loop? loop = some table := h.there
    obtain ⟨seen, native, hrun, hsight⟩ := Registration.removeEntry_run htable h.worded
      (h.find?_id hentry)
    obtain ⟨reached, hreached⟩ : ∃ reached, reached = (site.withChannel
      { site.channel with registration := none }).withNative (site.endpoint, native) := ⟨_, rfl⟩
    have hfree : Channel.bearing reached = ⟨none, true, entry.descriptor⟩ := by
      have hboth := congrArg (fun bearing : Bearing => (bearing.isOpen, bearing.descriptor))
        hbearing
      simp only [Channel.bearing, Prod.mk.injEq] at hboth
      simp [hreached, Channel.bearing, hboth]
    have hscene : siteScene loop entry.channel reached = reached.host.native.sight.scene loop
        (Function.update (siteScene loop entry.channel site).bearings entry.channel
          (some (Channel.bearing reached))) :=
      siteScene_of_outside (by rw [hreached]; rfl)
    rw [hfree, hreached, Site.withNative_host_native, hsight, Native.scene_asked htable] at hscene
    refine ⟨reached, ?_, ?_, ?_⟩
    · dsimp only
      rw [Act.bind_of_ok (Channel.run_change ..), hreached]
      exact Channel.lift_native_ok (Act.focus_ok hrun)
    · rw [hreached, hscene]
      exact .single (.left seen h.there hentry)
    · rw [hfree, hbearing]

/-- Whatever becomes of closing the endpoint, the channel is closed. -/
theorem shut_goes (hfree : site.channel.registration = none)
    (hopen : Endpoint.isOpen site.endpoint = true)
    (hafter : (liftM (Endpoint.close : NativeAct ChannelEndpoint Unit) :
      StationAct ω Unit).after site = site') :
    Relation.ReflTransGen (Move loop nested held) (siteScene loop name site)
        (siteScene loop name site') ∧
      Channel.bearing site' = ⟨none, false, Socket.noDescriptor⟩ := by
  rw [Channel.after_lift_native] at hafter
  subst hafter
  have hthere : (siteScene loop name site).bearings name =
      some ⟨none, true, Endpoint.descriptor site.endpoint⟩ := by
    rw [← hfree, ← hopen]
    exact bearings_putBack site name
  have hclosed : Endpoint.Closed (site.endpoint, site.host.native) _ :=
    ChannelEndpoint.closed_close hopen
  generalize (Endpoint.close : NativeAct ChannelEndpoint Unit).after
    (site.endpoint, site.host.native) = part at hclosed ⊢
  have hbearing : Channel.bearing (site.withNative part) =
      ⟨none, false, Socket.noDescriptor⟩ := by
    simp [Channel.bearing, hfree, hclosed.isOpen, hclosed.descriptor]
  have hscene : siteScene loop name (site.withNative part) =
      part.2.sight.scene loop (Function.update (siteScene loop name site).bearings name
        (some (Channel.bearing (site.withNative part)))) := siteScene_of_outside rfl
  refine ⟨?_, hbearing⟩
  rw [hscene, hbearing]
  -- A socket without a descriptor is shut without a call.
  rcases hclosed.told with ⟨hnone, hsight⟩ | ⟨hfd, seen, hsight⟩
  · rw [hsight]
    rw [show Endpoint.descriptor site.endpoint = Socket.noDescriptor from hnone] at hthere
    exact .single (.shut hthere)
  · rw [hsight]
    exact .single (.closed seen hthere hfd)

/-- The last part of closing: the endpoint is closed, and that is written into the log. -/
def shutting : StationAct ω Unit := do
  (Endpoint.close : NativeAct ChannelEndpoint Unit)
  Native.writeLog .debug Channel.logTag "closed"

/-- A channel without a registration is shut by one move, which leaves nothing to see of it. -/
theorem shutting_goes (hfree : site.channel.registration = none)
    (hopen : Endpoint.isOpen site.endpoint = true) (hafter : shutting.after site = site') :
    Relation.ReflTransGen (Move loop nested held) (siteScene loop name site)
        (siteScene loop name site') ∧
      Channel.bearing site' = ⟨none, false, Socket.noDescriptor⟩ := by
  generalize hshut : (liftM (Endpoint.close : NativeAct ChannelEndpoint Unit) :
    StationAct ω Unit).after site = shut
  have hsame : Channel.outlook site' = Channel.outlook shut := by
    rw [← hafter, ← hshut]
    exact Act.look_bind _ (fun _ => Channel.outlook_log _ _ _) site
  rw [siteScene_of_outlook hsame, show Channel.bearing site' = Channel.bearing shut from
    congrArg Prod.fst hsame]
  exact shut_goes hfree hopen hshut

/-- Before an open channel closes its endpoint, it leaves the event loop. -/
theorem run_close (h : Sound loop table (siteScene loop name site))
    (hopen : Endpoint.isOpen site.endpoint = true) (nested : Prop) (held : Set String) :
    ∃ left : StationSite ω, (Channel.close : StationAct ω Unit).after site = shutting.after left ∧
      Relation.ReflTransGen (Move loop nested held) (siteScene loop name site)
        (siteScene loop name left) ∧
      left.channel.registration = none ∧ Endpoint.isOpen left.endpoint = true := by
  unfold Channel.close
  rw [Act.after_bind_of_ok (Channel.run_isOpen site), hopen, if_pos rfl,
    Act.after_bind_of_ok (Channel.run_change ..)]
  generalize hchanged : site.withChannel
    { site.channel with connected := false, active := false, readPending := false } = changed
  have hsame : Channel.outlook changed = Channel.outlook site := hchanged ▸ rfl
  -- To settle the queue is nothing to the scene; what counts is that the channel is detached while
  -- its endpoint is still open.
  obtain ⟨failed, hfail, _⟩ := Channel.run_failPending (.violation .channelClosed) changed
  have hfailed : Channel.outlook failed = Channel.outlook site := by
    have hkept := Channel.outlook_failPending (.violation .channelClosed) changed
    rw [Act.after_of_ok hfail] at hkept
    exact Eq.trans hkept hsame
  have hscene : siteScene loop name failed = siteScene loop name site :=
    siteScene_of_outlook hfailed
  obtain ⟨detached, hdetach, hmoves, hbearing⟩ := detach_goes (hscene.symm ▸ h)
  have hforget : (Channel.forgetAddresses : StationAct ω Unit).run detached =
      .ok () (detached.withChannel
        { detached.channel with localCache := none, remoteCache := none }) := rfl
  have hleft : Channel.outlook (detached.withChannel
      { detached.channel with localCache := none, remoteCache := none }) =
        Channel.outlook detached := rfl
  generalize detached.withChannel
    { detached.channel with localCache := none, remoteCache := none } = left at hforget hleft
  refine ⟨left, ?_, ?_, ?_, ?_⟩
  · rw [Act.after_bind_of_ok hfail, Act.after_bind_of_ok hdetach, Act.after_bind_of_ok hforget]
    rfl
  · rw [← hscene, siteScene_of_outlook hleft]
    exact hmoves
  · calc left.channel.registration
      _ = detached.channel.registration :=
          congrArg (fun outlook => outlook.1.registration) hleft
      _ = none := congrArg Bearing.registration hbearing
  · calc Endpoint.isOpen left.endpoint
      _ = Endpoint.isOpen detached.endpoint := congrArg (fun outlook => outlook.1.isOpen) hleft
      _ = Endpoint.isOpen failed.endpoint := congrArg Bearing.isOpen hbearing
      _ = Endpoint.isOpen site.endpoint := congrArg (fun outlook => outlook.1.isOpen) hfailed
      _ = true := hopen

/-- **Closing ends the registration.** -/
theorem close_goes (h : Sound loop table (siteScene loop name site))
    (hafter : (Channel.close : StationAct ω Unit).after site = site') :
    Relation.ReflTransGen (Move loop nested held) (siteScene loop name site)
        (siteScene loop name site') ∧
      (Channel.bearing site').registration = none ∧ (Channel.bearing site').isOpen = false := by
  cases hopen : Endpoint.isOpen site.endpoint with
  | false =>
    have hsame : site' = site := by
      rw [← hafter]
      unfold Channel.close
      rw [Act.after_bind_of_ok (Channel.run_isOpen site), hopen]
      rfl
    subst hsame
    refine ⟨.refl, ?_, hopen⟩
    -- Only open channels are registered.
    cases hregistration : site'.channel.registration with
    | none => exact hregistration
    | some registration =>
      obtain ⟨_, _, _, _, hbearing⟩ := registration_of_sound h hregistration
      exact absurd (hopen.symm.trans (congrArg Bearing.isOpen hbearing)) Bool.false_ne_true
  | true =>
    obtain ⟨left, hrest, hmoves, hfree, hstill⟩ := run_close h hopen nested held
    obtain ⟨hshut, hbearing⟩ := shutting_goes hfree hstill (hrest.symm.trans hafter)
    rw [hbearing]
    exact ⟨hmoves.trans hshut, rfl, rfl⟩

/-- **A channel that nobody uses any more has no registration.** -/
theorem drop_goes (h : Sound loop table (siteScene loop name site))
    (hafter : (Channel.drop : StationAct ω Unit).after site = site') :
    Relation.ReflTransGen (Move loop nested held) (siteScene loop name site)
        (siteScene loop name site') ∧ (Channel.bearing site').registration = none := by
  generalize hclose : (Channel.close : StationAct ω Unit).after site = closed
  obtain ⟨hmoves, hfree, hshut⟩ := close_goes h hclose
  suffices hsame : Channel.outlook site' = Channel.outlook closed by
    rw [siteScene_of_outlook hsame, show Channel.bearing site' = Channel.bearing closed from
      congrArg Prod.fst hsame]
    exact ⟨hmoves, hfree⟩
  -- The endpoint is closed by now, so that nothing is left to be done but to give things up.
  have hrest : ∀ {reached : StationSite ω}, Channel.outlook reached = Channel.outlook closed →
      Channel.outlook ((do
        Channel.failPending .brokenPromise
        (Endpoint.drop : NativeAct ChannelEndpoint Unit) : StationAct ω Unit).after reached) =
          Channel.outlook closed := by
    intro reached hreached
    obtain ⟨failed, hfail, _⟩ := Channel.run_failPending .brokenPromise reached
    have hkept := Channel.outlook_failPending .brokenPromise reached
    rw [Act.after_of_ok hfail] at hkept
    have hfailed : Channel.outlook failed = Channel.outlook closed := Eq.trans hkept hreached
    have hstill : Endpoint.isOpen failed.endpoint = false :=
      (congrArg (fun outlook => outlook.1.isOpen) hfailed).trans hshut
    rw [Act.after_bind_of_ok hfail, Channel.after_lift_native,
      ChannelEndpoint.after_drop hstill]
    exact hfailed
  rw [← hafter]
  unfold Channel.drop
  rw [Act.after_bind_of_ok (Act.run_capture _ site), hclose]
  cases (Channel.close : StationAct ω Unit).result site with
  | ok _ => exact hrest rfl
  | error fault =>
    dsimp only
    obtain ⟨native, hlog⟩ := Channel.run_writeLog .warn Channel.logTag
      ("close on destruction failed: " ++ fault.message) closed
    have hkept := Channel.outlook_log .warn Channel.logTag
      ("close on destruction failed: " ++ fault.message) closed
    rw [Act.after_of_ok hlog] at hkept
    rw [Act.after_bind_of_ok hlog]
    exact hrest hkept

/-- To close a channel is to leave the loop and to shut. -/
theorem goes_close : Act.Within (SiteGoes loop nested held name)
    (Channel.close : StationAct ω Unit) := fun _ _ hsound => (close_goes hsound rfl).1

end Transport

end UdpTransport
