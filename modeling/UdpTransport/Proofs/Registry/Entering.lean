import UdpTransport.Proofs.Registry.Channels

/-!
# Coming and going

A channel is entered and then attached, which asks for a burst if reading goes on by itself. If the
system refuses the one or the other, all is as it was, but for the number that was used up
(`EventLoop.register_run`). A channel that is taken away leaves by one move
(`EventLoop.leave_run`), and so does one that is removed.
-/

namespace UdpTransport

namespace Transport

variable {ω α : Type} {loop : LoopId} {nested : Prop} {held : Set String} {name : String}
  {transport transport' : Transport ω} {station : Station} {site site' : StationSite ω}
  {table : Loop}

/-- Work on the native side shows in the sight only. -/
theorem scene_lift_native (act : Act Native α) (transport : Transport ω) :
    scene loop ((liftM act : TransportAct ω α).after transport) =
      (act.after transport.host.native).sight.scene loop transport.bearings := by
  rw [after_lift_native]
  rfl

theorem goes_of_sight {act : Act Native α} (h : Act.Within (Act.Fixing Native.sight) act) :
    Act.Within (Goes loop nested held) (liftM act : TransportAct ω α) := by
  intro transport
  show Proceeds loop nested held (scene loop transport) (scene loop _)
  rw [scene_lift_native, h transport.host.native]
  exact refl_of _ _

theorem goes_log (level : Log.Level) (tag text : String) :
    Act.Within (Goes loop nested held)
      (liftM (Native.writeLog level tag text) : TransportAct ω Unit) :=
  goes_of_sight (Native.within_sight_writeLog level tag text)

/-- What is known of a channel is what is seen of it. -/
theorem bearings_of_station (h : transport.stations.get? name = some station) :
    transport.bearings name = some station.bearing := by
  rw [bearings, h]
  rfl

/-- A channel that is erased is not seen any more. -/
theorem scene_erase (transport : Transport ω) (name : String) :
    scene loop { transport with stations := transport.stations.erase name } =
      (transport.scene loop).withBearing name none := by
  refine congrArg (transport.host.native.sight.scene loop) (funext fun other => ?_)
  by_cases hother : other = name
  · subst hother
    simp [bearings, scene, Sight.scene]
  · simp [bearings, scene, Sight.scene, Function.update_of_ne hother,
      Named.get?_erase_of_ne _ hother]

/-! ## Asking for a burst -/

/-- A refused interest, and nothing else, keeps a channel from asking for a burst. -/
theorem read_run (h : Sound loop table (siteScene loop name site)) :
    (∃ site', (Channel.read : StationAct ω Unit).run site = .ok () site') ∨
      ∃ fault site', (Channel.read : StationAct ω Unit).run site = .error fault site' ∧
        fault.isSocketFault = true ∧ ∃ fd data code, siteScene loop name site' =
          (siteScene loop name site).asked table.set .modify fd data (.failure code) := by
  unfold Channel.read
  rw [Act.bind_of_ok (Channel.run_isOpen site)]
  cases Endpoint.isOpen site.endpoint with
  | false => exact .inl ⟨site, rfl⟩
  | true =>
    rw [if_pos rfl, Act.bind_of_ok (Channel.run_change ..)]
    generalize hasked : site.withChannel { site.channel with readPending := true } = asked
    have hscene : siteScene loop name asked = siteScene loop name site :=
      siteScene_of_outlook (hasked ▸ rfl)
    have hsound : Sound loop table (siteScene loop name asked) := hscene.symm ▸ h
    unfold Channel.setReadInterest
    rw [Act.bind_of_ok (Channel.run_current asked)]
    cases hregistration : asked.channel.registration with
    | none => exact .inl ⟨asked, rfl⟩
    | some registration =>
      obtain ⟨entry, hentry, _, rfl, _⟩ := registration_of_sound hsound hregistration
      have htable : asked.host.native.loop? loop = some table := hsound.there
      rcases Registration.updateEntry_run htable hsound.worded entry.id Number.readable true with
        hrun | ⟨watched, interest, hfind, ⟨number, native, hrun, hsight⟩ |
          ⟨code, seen, native, hrun, hsight⟩⟩
      · exact .inl ⟨_, Channel.lift_native_ok (Act.focus_ok hrun)⟩
      · exact .inl ⟨_, Channel.lift_native_ok (Act.focus_ok hrun)⟩
      -- The system refused, and the table was not touched.
      · right
        have hlift : (liftM (Registration.updateEntry loop entry.id Number.readable true) :
            NativeAct ChannelEndpoint Unit).run (asked.endpoint, asked.host.native) =
              .error (.native "epoll_ctl" code) (asked.endpoint, native) := Act.focus_error hrun
        refine ⟨.native "epoll_ctl" code, asked.withNative (asked.endpoint, native),
          Act.focus_error hlift, rfl, watched.descriptor, some (interest, entry.id), seen, ?_⟩
        rw [← hscene]
        show native.sight.scene loop (siteScene loop name asked).bearings = _
        rw [hsight]
        rfl

/-! ## Leaving -/

/-- Detaching a channel that is there gives it no registration. -/
theorem run_detaching (h : transport.stations.get? name = some station) :
    ∃ detached, (EventLoop.attach name none : TransportAct ω Unit).run transport =
        .ok () detached ∧ detached.host = transport.host ∧
      detached.bearings = Function.update transport.bearings name
        (some { station.bearing with registration := none }) := by
  generalize hsite : (transport.takeOut name station).withChannel
    { station.channel with registration := none } = site
  have hset : (Channel.setRegistration none : StationAct ω Unit).run
      (transport.takeOut name station) = .ok () site := by
    rw [← hsite]
    rfl
  refine ⟨putBack site name, ?_, ?_, ?_⟩
  · rw [EventLoop.run_attach h, run_on h, hset]
  · rw [← hsite]
    rfl
  · have hbearings := bearings_putBack_of_outside
      (show site.outside = (transport.takeOut name station).outside by rw [← hsite]; rfl) name
    rw [hbearings, bearings_takeOut h, ← hsite]
    rfl

end Transport

namespace EventLoop

open Transport (Goes siteScene scene)

variable {ω α : Type} {loop : LoopId} {nested : Prop} {held : Set String} {name : String}
  {transport transport' : Transport ω} {station : Station} {table : Loop} {entry : InterestEntry}

/-- Takes a channel away from its entry, and the entry out of the table. -/
def leave (loop : LoopId) (name : String) (id : Nat) : TransportAct ω Unit := do
  attach name none
  (Registration.removeEntry loop id : Act Native Unit)

/-- A channel leaves its event loop, whatever the system says. -/
theorem leave_run (h : Sound loop table (transport.scene loop)) (hentry : entry ∈ table.entries) :
    ∃ seen transport', (leave loop entry.channel entry.id).run transport = .ok () transport' ∧
      transport'.scene loop = (((transport.scene loop).asked table.set .delete entry.descriptor none
        seen).withTable (table.erase entry.id)).withBearing entry.channel
          (some ⟨none, true, entry.descriptor⟩) := by
  have hattached : transport.bearings entry.channel =
      some ⟨some (.entry loop entry.id), true, entry.descriptor⟩ := h.attached entry hentry
  obtain ⟨station, hstation, hbearing⟩ : ∃ station,
      transport.stations.get? entry.channel = some station ∧
        station.bearing = ⟨some (.entry loop entry.id), true, entry.descriptor⟩ := by
    simpa [Transport.bearings] using hattached
  obtain ⟨detached, hdetach, hhost, hbearings⟩ := Transport.run_detaching hstation
  rw [hbearing] at hbearings
  -- Detaching comes first and leaves the host alone, so the entry is still on the table.
  have htable : detached.host.native.loop? loop = some table := by
    rw [hhost]
    exact h.there
  have hworded : Kernel.Worded detached.host.native.sight.answers := by
    rw [hhost]
    exact h.worded
  obtain ⟨seen, native, hremove, hsight⟩ := Registration.removeEntry_run htable hworded
    (h.find?_id hentry)
  refine ⟨seen, detached.withNative native, ?_, ?_⟩
  · unfold leave
    rw [Act.bind_of_ok hdetach]
    exact Transport.lift_native_ok hremove
  · show native.sight.scene loop detached.bearings = _
    rw [hsight, Native.scene_asked htable, hbearings, hhost]
    rfl

theorem leave_goes (hentry : entry ∈ table.entries) (h : Sound loop table (transport.scene loop)) :
    Relation.ReflTransGen (Move loop nested held) (transport.scene loop)
      (((leave loop entry.channel entry.id).after transport).scene loop) := by
  obtain ⟨seen, transport', hrun, hscene⟩ := leave_run h hentry
  rw [Act.after_of_ok hrun, hscene]
  exact .single (.left seen h.there hentry)

theorem goes_deregister : Act.Within (Goes loop nested held)
    (deregister loop name : TransportAct ω Unit) := by
  intro transport table hsound
  have htable : transport.host.native.loop? loop = some table := hsound.there
  unfold deregister
  rw [Act.after_bind_of_ok (EStateM.run_get transport), htable]
  generalize hfound : (some table).bind (fun table => table.findChannel? name) = found
  have hfind : table.findChannel? name = found := hfound
  cases found with
  | none => exact .refl
  | some entry =>
    have hentry : entry ∈ table.entries := List.mem_of_find?_eq_some hfind
    have hname : entry.channel = name := by simpa using List.find?_some hfind
    subst hname
    exact leave_goes hentry hsound

/-- A channel that nobody holds is closed first, and then it goes. -/
theorem goes_remove (hheld : name ∉ held) : Act.Within (Goes loop nested held)
    (Transport.remove name : TransportAct ω Unit) := by
  intro transport table hsound
  unfold Transport.remove
  rw [Act.after_bind_of_ok (EStateM.run_get transport)]
  cases hstation : transport.stations.get? name with
  | none => exact .refl
  | some station =>
    show Relation.ReflTransGen _ _ (scene loop ((Transport.on name Channel.drop >>= fun _ =>
      modify fun transport => { transport with stations := transport.stations.erase name } :
        TransportAct ω Unit).after transport))
    obtain ⟨hmoves, hfree⟩ :=
      Transport.drop_goes (Transport.siteScene_takeOut hstation ▸ hsound) rfl
    rw [Transport.siteScene_takeOut hstation] at hmoves
    have hafter := Transport.after_on hstation Channel.drop
    generalize (Channel.drop : StationAct ω Unit).after (transport.takeOut name station) = dropped
      at hmoves hfree hafter
    -- A drop that fails leaves the station in place, a drop that succeeds lets the name go.
    cases hrun : (Transport.on name Channel.drop).run transport with
    | error fault reached =>
      rw [Act.after_of_error hrun] at hafter
      rw [Act.after_of_error (Act.bind_of_error hrun), hafter]
      exact hmoves
    | ok _ reached =>
      rw [Act.after_of_ok hrun] at hafter
      subst hafter
      rw [Act.after_bind_of_ok hrun]
      refine hmoves.trans (.single ?_)
      show Move loop nested held _ (scene loop { Transport.putBack dropped name with
        stations := (Transport.putBack dropped name).stations.erase name })
      rw [Transport.scene_erase]
      exact .gone (Transport.bearings_putBack dropped name) hfree hheld

/-! ## Registering -/

/-- A channel that is open and free, entered and attached: what is seen of it at its place, before
it asks for a burst. -/
theorem scene_attached (hstation : transport.stations.get? name = some station)
    (hopen : Endpoint.isOpen station.endpoint = true)
    (htable : transport.host.native.loop? loop = some table) {native : Native} {number : Int}
    (hsight : native.sight = (transport.host.native.sight.asked (.changeInterest table.set .add
      (Endpoint.descriptor station.endpoint) (some (0, table.nextId))) (.value number)).withLoop
        loop (table.entered name (Endpoint.descriptor station.endpoint))) :
    siteScene loop name (((transport.withNative native).takeOut name station).withChannel
        { station.channel with registration := some (.entry loop table.nextId) }) =
      ((((transport.scene loop).asked table.set .add (Endpoint.descriptor station.endpoint)
        (some (0, table.nextId)) (.value number)).withTable
          (table.entered name (Endpoint.descriptor station.endpoint))).withBearing name
            (some ⟨some (.entry loop table.nextId), true,
              Endpoint.descriptor station.endpoint⟩)) := by
  generalize hsite : ((transport.withNative native).takeOut name station).withChannel
    { station.channel with registration := some (.entry loop table.nextId) } = site
  have houtside : site.outside = (transport.takeOut name station).outside := by
    rw [← hsite]
    rfl
  have hbearing : Channel.bearing site =
      ⟨some (.entry loop table.nextId), true, Endpoint.descriptor station.endpoint⟩ := by
    rw [← hsite, ← hopen]
    rfl
  have hnative : site.host.native = native := by
    rw [← hsite]
    rfl
  have hscene : siteScene loop name site = site.host.native.sight.scene loop
      (Function.update (siteScene loop name (transport.takeOut name station)).bearings name
        (some (Channel.bearing site))) := Transport.siteScene_of_outside houtside
  rw [hscene, hbearing, hnative, hsight, Native.scene_asked htable,
    Transport.siteScene_takeOut hstation]
  rfl

/-- Attaching asks for a burst if reading goes on by itself. -/
theorem run_setRegistration (site : StationSite ω) (registration : Registration) :
    (Channel.setRegistration (some registration) : StationAct ω Unit).run site =
      (if site.channel.config.autoRead then Channel.read else pure () : StationAct ω Unit).run
        (site.withChannel { site.channel with registration := some registration }) := by
  unfold Channel.setRegistration
  rw [Act.bind_of_ok (Channel.run_change ..), Act.bind_of_ok (Channel.run_current _)]
  rfl

/-- Attaching goes by moves, or fails because the system refuses an interest. -/
theorem attach_run (hstation : transport.stations.get? name = some station)
    {registration : Registration} {joined : Scene} (hjoined : Sound loop table joined)
    (hscene : siteScene loop name ((transport.takeOut name station).withChannel
      { station.channel with registration := some registration }) = joined)
    (nested : Prop) (held : Set String) :
    (∃ reached, (attach name (some registration) : TransportAct ω Unit).run transport =
        .ok () reached ∧
      Relation.ReflTransGen (Move loop nested held) joined (reached.scene loop)) ∨
      ∃ fault reached, (attach name (some registration) : TransportAct ω Unit).run transport =
          .error fault reached ∧ fault.isSocketFault = true ∧
        Relation.ReflTransGen (Move loop nested held) joined (reached.scene loop) ∧
        ∃ fd data code,
          reached.scene loop = joined.asked table.set .modify fd data (.failure code) := by
  have hattach := (run_attach hstation (some registration)).trans
    (Transport.run_on hstation (Channel.setRegistration (some registration)))
  rw [run_setRegistration] at hattach
  generalize hsite : (transport.takeOut name station).withChannel
    { (transport.takeOut name station).channel with registration := some registration } = site
      at hattach
  have hthere : siteScene loop name site = joined := hsite ▸ hscene
  subst hthere
  -- Without auto-read nothing is asked, so only the other case can be refused.
  cases hauto : (transport.takeOut name station).channel.config.autoRead with
  | false =>
    rw [hauto] at hattach
    exact .inl ⟨_, hattach, .refl⟩
  | true =>
    rw [hauto, if_pos rfl] at hattach
    have hgoes : Relation.ReflTransGen (Move loop nested held) (siteScene loop name site)
      (siteScene loop name _) := Transport.goes_read site table hjoined
    rcases Transport.read_run hjoined with ⟨asked, hread⟩ | ⟨fault, asked, hread, hsocket, hrefused⟩
    · rw [hread] at hattach
      rw [Act.after_of_ok hread] at hgoes
      exact .inl ⟨_, hattach, hgoes⟩
    · rw [hread] at hattach
      rw [Act.after_of_error hread] at hgoes
      exact .inr ⟨fault, _, hattach, hsocket, hgoes, hrefused⟩

/-- What was entered can be taken out again, and leaves no trace in the table. -/
theorem entered_erase (h : Wired loop table (transport.scene loop).bearings) (name : String)
    (fd : Int) : ((table.entered name fd).erase table.nextId).entries = table.entries := by
  have hothers : table.entries.filter (fun entry => decide (entry.id ≠ table.nextId)) =
      table.entries := List.filter_eq_self.mpr fun entry hentry => by
    have hless := h.below entry hentry
    exact decide_eq_true (by omega)
  simp only [Loop.erase, Loop.entered, Loop.insert, List.filter_cons, ne_eq, not_true_eq_false,
    decide_false, Bool.false_eq_true, if_false]
  exact hothers

/-- A channel that was entered is attached, or leaves again. -/
theorem settleIn_goes (hstation : transport.stations.get? name = some station) {joined : Scene}
    {fd : Int} (hjoined : Sound loop (table.entered name fd) joined)
    (hscene : siteScene loop name ((transport.takeOut name station).withChannel
      { station.channel with registration := some (.entry loop table.nextId) }) = joined)
    (nested : Prop) (held : Set String) :
    (∃ reached, (settleIn loop table.nextId name fd : TransportAct ω Unit).run transport =
        .ok () reached ∧
      Relation.ReflTransGen (Move loop nested held) joined (reached.scene loop)) ∨
      ∃ fault reached, (settleIn loop table.nextId name fd : TransportAct ω Unit).run transport =
          .error fault reached ∧
        Relation.ReflTransGen (Move loop nested held) joined (reached.scene loop) ∧
        (reached.scene loop).table = some ((table.entered name fd).erase table.nextId) ∧
        (reached.scene loop).bearings =
          Function.update joined.bearings name (some ⟨none, true, fd⟩) := by
  unfold settleIn
  rw [Act.bind_of_ok (Act.run_capture _ transport)]
  rcases attach_run hstation hjoined hscene nested held with
    ⟨reached, hattach, hmoves⟩ |
      ⟨fault, reached, hattach, hsocket, hmoves, asked, data, code, hrefused⟩
  · left
    rw [Act.result_of_ok hattach, Act.after_of_ok hattach]
    dsimp only
    obtain ⟨_, logged, hlog⟩ := Native.succeeds_writeLog .debug Registration.loopTag
      s!"registered fd {fd}" reached.host.native
    have hsame := Native.within_sight_writeLog .debug Registration.loopTag
      s!"registered fd {fd}" reached.host.native
    rw [Act.after_of_ok hlog] at hsame
    refine ⟨reached.withNative logged, Transport.lift_native_ok hlog, ?_⟩
    show Relation.ReflTransGen _ _ (logged.sight.scene loop reached.bearings)
    rw [hsame]
    exact hmoves
  -- The channel was attached, but the system refused its interest: it leaves again.
  · right
    rw [Act.result_of_error hattach, Act.after_of_error hattach]
    simp only [hsocket, if_true]
    have hsound : Sound loop (table.entered name fd) (reached.scene loop) := by
      rw [hrefused]
      exact hjoined.refused _ _ _
    obtain ⟨seen, gone, hleave, hgone⟩ := leave_run hsound
      (show (⟨table.nextId, name, fd, 0⟩ : InterestEntry) ∈ (table.entered name fd).entries from
        List.mem_cons_self)
    have hrun : (leave loop name table.nextId >>= fun _ => throw fault : TransportAct ω Unit).run
        reached = .error fault gone := (Act.bind_of_ok hleave).trans rfl
    refine ⟨fault, gone, ?_, ?_, ?_, ?_⟩
    · rw [← hrun]
      unfold leave
      rw [bind_assoc]
    · rw [hgone]
      exact hmoves.tail (.left seen hsound.there List.mem_cons_self)
    · rw [hgone]
      rfl
    · rw [hgone, hrefused]
      rfl

/-- The entries and the channels are as they were. -/
structure Unchanged (table : Loop) (scene scene' : Scene) : Prop where
  entries : ∃ table', scene'.table = some table' ∧ table'.entries = table.entries
  bearings : scene'.bearings = scene.bearings

/-- A channel that is open and free is entered and attached, or nothing of it stays. -/
theorem join_run (h : Sound loop table (transport.scene loop))
    (hstation : transport.stations.get? name = some station)
    (hopen : Endpoint.isOpen station.endpoint = true)
    (hfree : station.channel.registration = none) (nested : Prop) (held : Set String) :
    (∃ reached, (register loop name).run transport = .ok () reached ∧
      Relation.ReflTransGen (Move loop nested held) (transport.scene loop) (reached.scene loop)) ∨
      ∃ fault reached, (register loop name).run transport = .error fault reached ∧
        Relation.ReflTransGen (Move loop nested held) (transport.scene loop)
          (reached.scene loop) ∧
        Unchanged table (transport.scene loop) (reached.scene loop) := by
  have htable : transport.host.native.loop? loop = some table := h.there
  have hthere : (transport.scene loop).bearings name =
      some ⟨none, true, Endpoint.descriptor station.endpoint⟩ := by
    rw [← hfree, ← hopen]
    exact Transport.bearings_of_station hstation
  rw [run_register_enter hstation hopen hfree htable]
  rcases enter_run table h.worded name (Endpoint.descriptor station.endpoint) with
    ⟨number, native, henter, hsight⟩ | ⟨code, seen, native, henter, hsight⟩
  · rw [Act.bind_of_ok (Transport.lift_native_ok henter)]
    have hscene := scene_attached hstation hopen htable hsight
    have hjoin : Move loop nested held (transport.scene loop) _ :=
      .joined number h.there hthere
    have hjoined := h.joined hthere number
    have hentered : (transport.withNative native).stations.get? name = some station := hstation
    rcases settleIn_goes hentered hjoined hscene nested held with
      ⟨reached, hrun, hmoves⟩ | ⟨fault, reached, hrun, hmoves, hgone, hbearings⟩
    · exact .inl ⟨reached, hrun, hmoves.head hjoin⟩
    -- Entering and leaving again cancel out.
    · refine .inr ⟨fault, reached, hrun, hmoves.head hjoin, ⟨_, hgone, ?_⟩, ?_⟩
      · exact entered_erase h.toWired name _
      · rw [hbearings]
        show Function.update (Function.update (transport.scene loop).bearings name _) name _ = _
        rw [Function.update_idem]
        exact Function.update_eq_self_iff.mpr hthere.symm
  · have hscene : (transport.withNative native).scene loop = ((transport.scene loop).asked table.set
        .add (Endpoint.descriptor station.endpoint) (some (0, table.nextId))
          (.failure seen)).withTable table.counted := by
      show native.sight.scene loop transport.bearings = _
      rw [hsight, Native.scene_asked htable]
      rfl
    refine .inr ⟨_, _, Act.bind_of_error (Transport.lift_native_error henter), ?_, ?_⟩
    · rw [hscene]
      exact .single (.denied _ _ h.there)
    · rw [hscene]
      exact ⟨⟨_, rfl, rfl⟩, rfl⟩

/-- **All or nothing.** A registration goes by moves, and one that fails leaves the entries and the
channels as they were. -/
theorem register_run (h : Sound loop table (transport.scene loop)) (name : String) (nested : Prop)
    (held : Set String) :
    (∃ reached, (register loop name).run transport = .ok () reached ∧
      Relation.ReflTransGen (Move loop nested held) (transport.scene loop) (reached.scene loop)) ∨
      ∃ fault reached, (register loop name).run transport = .error fault reached ∧
        Relation.ReflTransGen (Move loop nested held) (transport.scene loop)
          (reached.scene loop) ∧
        Unchanged table (transport.scene loop) (reached.scene loop) := by
  have hsame : Unchanged table (transport.scene loop) (transport.scene loop) :=
    ⟨⟨table, h.there, rfl⟩, rfl⟩
  rcases register_cases loop name transport with ⟨fault, hrefused⟩ |
    ⟨station, hstation, hopen, hfree⟩
  · exact .inr ⟨fault, transport, hrefused, .refl, hsame⟩
  · exact join_run h hstation hopen hfree nested held

theorem goes_register : Act.Within (Goes loop nested held)
    (register loop name : TransportAct ω Unit) := by
  intro transport table hsound
  rcases register_run hsound name nested held with ⟨reached, hrun, hmoves⟩ |
    ⟨fault, reached, hrun, hmoves, _⟩
  · rw [Act.after_of_ok hrun]
    exact hmoves
  · rw [Act.after_of_error hrun]
    exact hmoves

end EventLoop

end UdpTransport
