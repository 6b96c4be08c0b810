import UdpTransport.Proofs.Closing.Lasting
import UdpTransport.Proofs.Names
import UdpTransport.Proofs.Registry.Agreement

/-!
# What a closed channel does

A channel over a socket that was closed is over (`Transport.Over`): all that it tells says so, its
event loop has no entry for it, and of what it is asked for, it does nothing any more. Writing
settles the promise as failed, binding and connecting fail, and the rest is done by doing nothing,
without a word to the system or to the handler.

A channel is over as soon as its socket is closed, provided that it has ended then and that the
event loop is sound (`Transport.Secure.over`). Closing makes sure of both, whatever becomes of it
(`Transport.Secure.close`).
-/

namespace UdpTransport

namespace Channel

variable {ε ω : Type} [Endpoint ε] {site : Site ε ω}

/-- A closed channel without registration reads nothing, and tells nobody. -/
theorem run_readReadyWith_over (hclosed : Endpoint.isOpen site.endpoint = false)
    (hfree : site.channel.registration = none) (handler : Handler ε ω) (source : HandleSource ω) :
    (readReadyWith handler source).run site = .ok () site := by
  have hheld : (holdsBack : SiteAct ε ω Bool).run site = .ok true site := by
    unfold holdsBack
    rw [Act.bind_of_ok (run_isOpen site), hclosed]
    rfl
  unfold readReadyWith
  rw [Act.bind_of_ok hheld, if_pos rfl]
  unfold setReadInterest
  rw [Act.bind_of_ok (run_current site), hfree]
  rfl

theorem run_readReady_over (hclosed : Endpoint.isOpen site.endpoint = false)
    (hfree : site.channel.registration = none) (handler : Handler ε ω) :
    (readReady handler).run site =
      .ok () (site.withChannel { site.channel with handle := some (ownHandle site) }) := by
  unfold readReady
  rw [Act.bind_of_ok (run_prepareHandle site)]
  refine run_readReadyWith_over ?_ ?_ handler .own
  · exact hclosed
  · exact hfree

theorem run_read_closed (hclosed : Endpoint.isOpen site.endpoint = false) :
    (read : SiteAct ε ω Unit).run site = .ok () site := by
  unfold read
  rw [Act.bind_of_ok (run_isOpen site), hclosed]
  rfl

theorem run_flush_over {site : Site ChannelEndpoint ω} (hended : Ended site.channel)
    (hfree : site.channel.registration = none) :
    (flush : SiteAct ChannelEndpoint ω Unit).run site = .ok () site := by
  rw [run_flush_ended hended]
  unfold setWriteInterest
  rw [Act.bind_of_ok (run_current site), hfree]
  rfl

end Channel

namespace Transport

open Channel (Ended)

variable {ω α : Type} {loop : LoopId} {name : String} {transport : Transport ω} {station : Station}

/-- A channel that is put back as it was taken out leaves no trace. -/
theorem putBack_takeOut (h : transport.stations.get? name = some station) :
    putBack (transport.takeOut name station) name = transport := by
  unfold putBack takeOut
  rw [show (⟨station.channel, station.endpoint⟩ : Station) = station from rfl, Named.put_erase h]

/-- A change of a channel at its place. -/
theorem putBack_withChannel (transport : Transport ω) (name : String) (station : Station)
    (channel : Channel) :
    putBack ((transport.takeOut name station).withChannel channel) name =
      { transport with
        stations := transport.stations.put name { station with channel := channel } } := by
  have hput : (transport.stations.erase name).put name ⟨channel, station.endpoint⟩ =
      transport.stations.put name ⟨channel, station.endpoint⟩ := by
    rw [← Named.erase_put transport.stations name ⟨channel, station.endpoint⟩,
      Named.put_erase (Named.get?_put_self ..)]
  unfold putBack takeOut
  simp only [Site.withChannel, hput]

section Unchanged

variable {act : StationAct ω α} (h : transport.stations.get? name = some station)

include h

theorem run_on_unchanged {a : α}
    (hrun : act.run (transport.takeOut name station) = .ok a (transport.takeOut name station)) :
    (on name act).run transport = .ok a transport := by
  rw [run_on h, hrun]
  simp only [putBack_takeOut h]

theorem run_on_refused {fault : Fault} (hrun : act.run (transport.takeOut name station) =
      .error fault (transport.takeOut name station)) :
    (on name act).run transport = .error fault transport := by
  rw [run_on h, hrun]
  simp only [putBack_takeOut h]

end Unchanged

/-! ## Being over -/

/-- The socket of a channel is closed. -/
def Closed (name : String) (transport : Transport ω) : Prop :=
  ∃ station, transport.stations.get? name = some station ∧
    Endpoint.isOpen station.endpoint = false

/-- What a channel tells about itself once it is over. -/
structure Silent (name : String) (transport : Transport ω) (station : Station) : Prop where
  there : transport.stations.get? name = some station
  isOpen : Endpoint.isOpen station.endpoint = false
  isConnected : station.channel.connected = false
  isActive : Channel.isActive (transport.takeOut name station) = false
  isRegistered : station.channel.isRegistered = false
  pending : station.channel.pending = []

/-- A channel that is over, at its event loop and among all other channels. -/
structure Over (loop : LoopId) (name : String) (transport : Transport ω) : Prop where
  silent : ∃ station, Silent name transport station
  localAddress : (on name Channel.localAddress).run transport = .ok none transport
  remoteAddress : (on name Channel.remoteAddress).run transport = .ok none transport
  /-- The event loop has no entry for it. -/
  noEntry : ∃ table, transport.host.native.loop? loop = some table ∧
    ∀ entry ∈ table.entries, entry.channel ≠ name
  /-- The promise of a write is settled as failed, and the message is given back. -/
  write : ∀ message : Message,
    (on name (Channel.write message)).run transport =
      .ok transport.host.futures.issued { transport with
        host := { transport.host with
          futures := ⟨transport.host.futures.issued + 1, transport.host.futures.settled.push
            (transport.host.futures.issued, .failed (.violation .writeAfterClose))⟩
          ledger := Ledger.release message.content.components transport.host.ledger } }
  read : (on name Channel.read).run transport = .ok () transport
  flush : (on name Channel.flush).run transport = .ok () transport
  close : (on name Channel.close).run transport = .ok () transport
  /-- At most the receive handle is made anew; neither the system nor the listener hears of it. -/
  readReady : ∀ listener : Listener ω, ∃ station handle,
    transport.stations.get? name = some station ∧
      (on name (Channel.readReady (react listener name))).run transport =
        .ok () { transport with
          stations := transport.stations.put name
            { station with channel := { station.channel with handle := some handle } } }
  readReadyWith : ∀ (listener : Listener ω) (handle : LentHandle (Elsewhere ω)),
    (on name (Channel.readReadyWith (react listener name) (.lent handle))).run transport =
      .ok () transport
  bind : ∀ address, (on name (Channel.bind address)).run transport =
    .error (.violation .bindClosed) transport
  connect : ∀ remote local?, (on name (Channel.connect remote local?)).run transport =
    .error (.violation (Channel.closedRule local?)) transport
  register : (EventLoop.register loop name).run transport =
    .error (.violation .registerClosed) transport

/-- The event loop is sound, and a channel over a socket has ended if the socket is closed. -/
structure Secure (loop : LoopId) (name : String) (transport : Transport ω) : Prop where
  sound : ∃ table, Sound loop table (transport.scene loop)
  station : ∃ station, transport.stations.get? name = some station ∧
    station.endpoint.isSocket = true ∧
      (station.endpoint.isShut = true → Ended station.channel)

/-- A channel whose socket is closed has no registration, and no entry. -/
theorem free_of_sound {table : Loop} (h : Agreed loop table transport)
    (hstation : transport.stations.get? name = some station)
    (hclosed : Endpoint.isOpen station.endpoint = false) :
    station.channel.registration = none ∧ ∀ entry ∈ table.entries, entry.channel ≠ name := by
  -- A registration would say that the endpoint is open.
  have hfree : station.channel.registration = none := by
    cases hregistration : station.channel.registration with
    | none => rfl
    | some registration =>
      have hopen := (h.isOpen name station registration hstation hregistration).1
      rw [hclosed] at hopen
      cases hopen
  refine ⟨hfree, fun entry hentry hname => ?_⟩
  obtain ⟨owner, howner, hregistration⟩ := h.owned entry hentry
  rw [hname, hstation] at howner
  cases howner
  rw [hfree] at hregistration
  cases hregistration

/-- **A secure channel is over once its socket is closed.** -/
theorem Secure.over (h : Secure loop name transport) (hclosed : Closed name transport) :
    Over loop name transport := by
  obtain ⟨station, hstation, hshut⟩ := hclosed
  obtain ⟨table, hsound⟩ := h.sound
  obtain ⟨station', hstation', hsocket, hended⟩ := h.station
  -- Both speak of the station under the name.
  cases hstation.symm.trans hstation'
  have hisShut : station.endpoint.isShut = true := by
    simp [ChannelEndpoint.isShut, hsocket, hshut]
  have hended := hended hisShut
  obtain ⟨hfree, hentries⟩ := free_of_sound hsound.agreed hstation hshut
  exact
    { silent := ⟨station,
        { there := hstation
          isOpen := hshut
          isConnected := hended.connected
          isActive := by simp [Channel.isActive, takeOut, hshut]
          isRegistered := by simp [Channel.isRegistered, hfree]
          pending := hended.pending }⟩
      localAddress := run_on_unchanged hstation (Channel.run_localAddress_ended hisShut hended)
      remoteAddress := run_on_unchanged hstation (Channel.run_remoteAddress_ended hended)
      noEntry := ⟨table, hsound.there, hentries⟩
      write := fun message => by
        rw [run_on hstation, Channel.run_write_shut hisShut message]
        exact congrArg (EStateM.Result.ok _) (congrArg (fun stations => { transport with
          host := (Channel.turnedAway message (transport.takeOut name station)).host
          stations := stations }) (Named.put_erase hstation))
      read := run_on_unchanged hstation (Channel.run_read_closed hshut)
      flush := run_on_unchanged hstation (Channel.run_flush_over hended hfree)
      close := run_on_unchanged hstation (Channel.run_close_closed hshut)
      readReady := fun listener => ⟨station, _, hstation, by
        rw [run_on hstation, Channel.run_readReady_over hshut hfree]
        simp only [putBack_withChannel]
        rfl⟩
      readReadyWith := fun listener handle => run_on_unchanged hstation
        (Channel.run_readReadyWith_over hshut hfree _ _)
      bind := fun address => run_on_refused hstation (Channel.run_bind_shut hisShut address)
      connect := fun remote local? => run_on_refused hstation
        (Channel.run_connect_shut hisShut remote local?)
      register := by
        unfold EventLoop.register
        rw [Act.bind_of_ok (run_station hstation), if_pos (by simp [hshut])]
        rfl }

/-- **Closing a secure channel makes it over**, whatever the system says to it. -/
theorem Secure.close (h : Secure loop name transport) :
    Over loop name ((on name Channel.close).after transport) := by
  obtain ⟨table, hsound⟩ := h.sound
  obtain ⟨station, hstation, hsocket, hended⟩ := h.station
  have hgoes : Act.Within (Goes loop True ∅) (on name Channel.close : TransportAct ω Unit) :=
    goes_on goes_close
  obtain ⟨table', hsound', -⟩ := hsound.moves (hgoes transport table hsound)
  have hafter := after_on hstation (Channel.close : StationAct ω Unit)
  have hlasting : Channel.Lasting (fun _ => ()) (transport.takeOut name station) _ :=
    Channel.lasting_close (transport.takeOut name station)
  have hshut : ((Channel.close : StationAct ω Unit).after
      (transport.takeOut name station)).endpoint.isShut = true := Channel.isShut_close hsocket
  refine Secure.over ⟨⟨table', hsound'⟩, ?_⟩ ?_
  · rw [hafter]
    exact ⟨_, get?_putBack .., hlasting.isSocket.trans hsocket, hlasting.ended hended⟩
  · rw [hafter]
    exact ⟨_, get?_putBack .., ChannelEndpoint.isOpen_of_isShut hshut⟩

end Transport

end UdpTransport
