import UdpTransport.EventLoop.Dispatch
import UdpTransport.Proofs.Calls
import UdpTransport.Proofs.Memory.Receiving
import UdpTransport.Proofs.Names
import UdpTransport.Proofs.Stations

/-!
# The memory of all channels

The memory of a transport is in the queues of its channels and in the rest of the world. To a
channel that is taken out, the queues of the others are the rest of the world, so taking it out and
putting it back moves nothing (`Transport.custody_takeOut`, `Transport.custody_putBack`), and what
keeps the books of one channel keeps those of all (`Transport.balances_on`). A listener that keeps
the books of the transport is a handler that keeps those of any channel
(`Transport.bookkeeping_react`). Removing a channel gives back what waits in it, and always succeeds
(`Transport.conserves_remove`, `Transport.run_remove`).
-/

namespace UdpTransport

/-! ## Sums over names -/

namespace Named

variable {α : Type} {name : String} {value : α} {named : Named α}

/-- The sum of what the values use. -/
def total (uses : α → Multiset AllocatorId) (named : Named α) : Multiset AllocatorId :=
  (named.values.map uses).sum

/-- What is under a name and what is under the others is all there is. -/
theorem total_erase (uses : α → Multiset AllocatorId) (h : named.get? name = some value) :
    named.total uses = uses value + (named.erase name).total uses := sum_erase uses h

/-- A value that is put under a name replaces what was there. -/
theorem total_put (uses : α → Multiset AllocatorId) (named : Named α) (name : String) (value : α) :
    (named.put name value).total uses = uses value + (named.erase name).total uses :=
  sum_put uses named name value

/-- A name without a value counts as one with a value that uses nothing. -/
theorem total_getD (uses : α → Multiset AllocatorId) {none : α} (hnone : uses none = 0)
    (named : Named α) (name : String) :
    named.total uses = uses ((named.get? name).getD none) + (named.erase name).total uses :=
  sum_getD uses hnone named name

end Named

/-! ## Taking out and putting back -/

/-- The allocators of the components that wait in the queues of channels. -/
def Station.uses (station : Station) : Multiset AllocatorId := queued station.channel.pending

/-- What is owned outside of one channel: what waits in the other queues, and what the rest of the
world owns. -/
def Elsewhere.owned {ω : Type} (owned : ω → Holding) (name : String)
    (elsewhere : Elsewhere ω) : Holding :=
  (owned elsewhere.outside).add ((elsewhere.others.erase name).total Station.uses)

/-- The endpoint of a channel can always be given up; what stands against it is logged. -/
theorem ChannelEndpoint.succeeds_drop :
    (Endpoint.drop : NativeAct ChannelEndpoint Unit).Succeeds := by
  rintro ⟨endpoint, native⟩
  cases endpoint with
  | memory endpoint => exact ⟨(), _, rfl⟩
  | socket socket =>
    obtain ⟨_, native', hrun⟩ := socket.succeeds_drop native
    have hcurrent : Socket.current.run (socket, native) = .ok socket (socket, native) := rfl
    have hlift : (liftM socket.drop : SocketAct Unit).run (socket, native) =
        .ok () (socket, native') := Act.focus_ok hrun
    have hdrop : (Endpoint.drop : SocketAct Unit).run (socket, native) =
        .ok () (socket, native') := (Act.bind_of_ok hcurrent).trans hlift
    refine ⟨(), (.socket socket, native'), ?_⟩
    show ChannelEndpoint.either Endpoint.drop Endpoint.drop (.socket socket, native) = _
    unfold ChannelEndpoint.either
    dsimp only
    rw [hdrop]

namespace Transport

variable {ω α : Type} {owned : ω → Holding} {name : String}
  {taken left : Multiset AllocatorId} {given : α → Multiset AllocatorId}

/-- The memory of a transport: all queues, and what the rest of the world owns. -/
def custody (owned : ω → Holding) (transport : Transport ω) : Custody :=
  ⟨transport.host.ledger, (owned transport.outside).add (transport.stations.total Station.uses)⟩

theorem custody_takeOut {transport : Transport ω} {station : Station}
    (h : transport.stations.get? name = some station) :
    Site.custody (Elsewhere.owned owned name) (transport.takeOut name station) =
      transport.custody owned := by
  show Custody.mk _ (((owned transport.outside).add
    (((transport.stations.erase name).erase name).total Station.uses)).add station.uses) = _
  rw [Named.erase_of_none (Named.get?_erase_self ..), Holding.add_add, ← Named.total_erase _ h]
  rfl

theorem custody_putBack (site : StationSite ω) (name : String) :
    (putBack site name).custody owned = Site.custody (Elsewhere.owned owned name) site := by
  show Custody.mk _ ((owned site.outside.outside).add
    ((site.outside.others.put name ⟨site.channel, site.endpoint⟩).total Station.uses)) = _
  rw [Named.total_put, ← Holding.add_add]
  rfl

/-- Channels may be exchanged for others in whose queues the same waits. -/
theorem custody_withStations {transport : Transport ω} {stations : Named Station}
    (h : stations.total Station.uses = transport.stations.total Station.uses) :
    custody owned { transport with stations := stations } = transport.custody owned := by
  unfold custody
  rw [h]

/-- What keeps the books of a channel that is there keeps those of the transport. -/
theorem triple_on {act : StationAct ω α}
    (h : Act.Balances (Site.custody (Elsewhere.owned owned name)) taken act given left)
    (rest : Multiset AllocatorId) :
    Act.Triple (fun transport => (transport.stations.get? name).isSome ∧
        (transport.custody owned).Balanced (taken + rest)) (on name act)
      (fun a transport => (transport.custody owned).Balanced (given a + rest))
      fun _ transport => (transport.custody owned).Balanced (left + rest) := by
  refine .pointwise ?_
  rintro transport ⟨hthere, hbalanced⟩
  obtain ⟨station, hstation⟩ := Option.isSome_iff_exists.mp hthere
  rw [← custody_takeOut hstation] at hbalanced
  have hrun := run_on hstation act
  cases hact : act.run (transport.takeOut name station) with
  | ok a site =>
    rw [hact] at hrun
    refine .of_ok hrun ?_
    rw [custody_putBack]
    exact (h rest).ok hbalanced hact
  | error fault site =>
    rw [hact] at hrun
    refine .of_error hrun ?_
    rw [custody_putBack]
    exact (h rest).error hbalanced hact

/-- Where the channel is missing, what was to be taken stays with the caller, as after a failure. -/
theorem balances_on {act : StationAct ω α}
    (h : Act.Balances (Site.custody (Elsewhere.owned owned name)) taken act given taken) :
    Act.Balances (custody owned) taken (on name act) given taken := by
  intro rest
  refine .pointwise fun transport hbalanced => ?_
  cases hstation : transport.stations.get? name with
  | none => exact .of_error (on_missing hstation act) hbalanced
  | some station =>
    have hthere : (transport.stations.get? name).isSome := Option.isSome_of_eq_some hstation
    exact (triple_on h rest).starting ⟨hthere, hbalanced⟩

theorem within_custody_on {act : StationAct ω α}
    (h : Act.Within (Act.Fixing (Site.custody (Elsewhere.owned owned name))) act) :
    Act.Within (Act.Fixing (custody owned)) (on name act) := by
  intro transport
  cases hstation : transport.stations.get? name with
  | none =>
    rw [after_on_missing hstation]
    rfl
  | some station =>
    rw [Act.Fixing, after_on hstation, custody_putBack, h, custody_takeOut hstation]

theorem returns_on {act : StationAct ω α} {a : α} (h : (on name act).Returns a) :
    act.Returns a := by
  obtain ⟨transport, transport', hrun⟩ := h
  cases hstation : transport.stations.get? name with
  | none =>
    have hmissing : (on name act).run transport = .error .noChannel transport :=
      on_missing hstation act
    rw [hmissing] at hrun
    cases hrun
  | some station =>
    rw [run_on hstation] at hrun
    cases hact : act.run (transport.takeOut name station) with
    | ok b site =>
      rw [hact] at hrun
      cases hrun
      exact ⟨_, site, hact⟩
    | error fault site =>
      rw [hact] at hrun
      cases hrun

/-- An operation that leaves the rest of the world alone does so at its place. -/
theorem within_outside_on {act : StationAct ω α}
    (h : Act.Within (Act.Fixing fun site => site.outside) act) :
    Act.Within (Act.Fixing fun transport : Transport ω => transport.outside) (on name act) := by
  intro transport
  cases hstation : transport.stations.get? name with
  | none =>
    rw [after_on_missing hstation]
    rfl
  | some station =>
    rw [Act.Fixing, after_on hstation]
    exact congrArg Elsewhere.outside (h (transport.takeOut name station))

/-! ## Listeners -/

/-- A listener takes over what comes with callbacks, and keeps the books. -/
def Bookkeeping (owned : ω → Holding) (listener : Listener ω) : Prop :=
  ∀ name callback,
    Act.Balances (custody owned) callback.uses (listener name callback) (fun _ => 0) 0

/-- A channel that its listener removed is left with an empty queue. -/
theorem custody_again (transport : Transport ω) (site : StationSite ω) :
    Site.custody (Elsewhere.owned owned name) (transport.takeOut name
      ((transport.stations.get? name).getD ⟨{ site.channel with pending := [] }, site.endpoint⟩)) =
      transport.custody owned := by
  cases hstation : transport.stations.get? name with
  | some station => exact custody_takeOut hstation
  | none =>
    show Custody.mk _ (((owned transport.outside).add
      (((transport.stations.erase name).erase name).total Station.uses)).add (queued [])) = _
    rw [Named.erase_of_none (Named.get?_erase_self ..), Named.erase_of_none hstation, queued_nil,
      Holding.add_zero]
    rfl

/-- The channel is back at its place while the listener runs. -/
theorem bookkeeping_react {listener : Listener ω} (h : Bookkeeping owned listener) (name : String) :
    Channel.Bookkeeping (Elsewhere.owned owned name) (react listener name) := by
  intro callback rest
  refine .pointwise fun site hbalanced => ?_
  rw [← custody_putBack] at hbalanced
  cases hrun : (listener name callback).run (putBack site name) with
  | ok a transport =>
    have hreact : (react listener name callback).run site = .ok a (transport.takeOut name
        ((transport.stations.get? name).getD
          ⟨{ site.channel with pending := [] }, site.endpoint⟩)) := by
      show react listener name callback site = _
      unfold react
      rw [show listener name callback (putBack site name) = _ from hrun]
    refine .of_ok hreact ?_
    rw [custody_again]
    exact (h name callback rest).ok hbalanced hrun
  | error fault transport =>
    have hreact : (react listener name callback).run site = .error fault (transport.takeOut name
        ((transport.stations.get? name).getD
          ⟨{ site.channel with pending := [] }, site.endpoint⟩)) := by
      show react listener name callback site = _
      unfold react
      rw [show listener name callback (putBack site name) = _ from hrun]
    refine .of_error hreact ?_
    rw [custody_again]
    exact (h name callback rest).error hbalanced hrun

/-! ## Removing a channel -/

theorem within_custody_station (name : String) :
    Act.Within (Act.Fixing (custody owned)) (station name : TransportAct ω Station) := by
  refine Act.within_bind Act.within_get fun transport => ?_
  cases transport.stations.get? name with
  | none => exact Act.within_throw _
  | some station => exact Act.within_pure station

/-- A channel that is removed has given back what waited in it. -/
theorem conserves_remove (name : String) :
    Act.Conserves (custody owned) (remove name : TransportAct ω Unit) := by
  intro rest
  refine .pointwise fun transport hbalanced => ?_
  refine .of_run (Act.bind_of_ok (EStateM.run_get transport)) ?_
  cases hstation : transport.stations.get? name with
  | none => exact .of_ok rfl hbalanced
  | some station =>
    have hdrop : Act.Conserves (custody owned) (on name Channel.drop : TransportAct ω Unit) :=
      balances_on Channel.conserves_drop
    have hempty := Channel.pending_drop (transport.takeOut name station)
    have hrun := run_on hstation (Channel.drop : StationAct ω Unit)
    cases hact : (Channel.drop : StationAct ω Unit).run (transport.takeOut name station) with
    | error fault site =>
      rw [hact] at hrun
      exact .of_error (Act.bind_of_error hrun) ((hdrop rest).error hbalanced hrun)
    | ok _ site =>
      rw [hact] at hrun
      rw [Act.after_of_ok hact] at hempty
      have hdropped := (hdrop rest).ok hbalanced hrun
      refine .of_ok (Act.bind_of_ok hrun) ?_
      -- Nothing waits in the channel any longer, so its place can go.
      have hsame : custody owned { putBack site name with
          stations := (putBack site name).stations.erase name } =
            (putBack site name).custody owned := by
        refine custody_withStations ?_
        rw [Named.total_erase Station.uses (get?_putBack site name)]
        show _ = queued site.channel.pending + _
        rw [hempty, queued_nil, zero_add]
      show (custody owned { putBack site name with
        stations := (putBack site name).stations.erase name }).Balanced (0 + rest)
      rw [hsame]
      exact hdropped

/-- Removing a channel succeeds, and leaves the other channels and the rest of the world alone. -/
theorem run_remove {transport : Transport ω} {inHand : Multiset AllocatorId}
    (h : (transport.custody owned).Balanced inHand) (name : String) :
    ∃ host, (remove name : TransportAct ω Unit).run transport =
      .ok () ⟨host, transport.stations.erase name, transport.outside⟩ := by
  unfold remove
  rw [Act.bind_of_ok (EStateM.run_get transport)]
  cases hstation : transport.stations.get? name with
  | none =>
    refine ⟨transport.host, ?_⟩
    rw [Named.erase_of_none hstation]
    rfl
  | some station =>
    have hdrop := Channel.succeeds_drop (ω := Elsewhere ω) ChannelEndpoint.succeeds_drop
    obtain ⟨_, site, hrun⟩ := hdrop (transport.takeOut name station)
    -- Dropping keeps the books whatever else is owned, so it cannot reach the other stations.
    have houtside : site.outside = ⟨transport.stations.erase name, transport.outside⟩ := by
      rw [← custody_takeOut hstation] at h
      have hkept := Channel.outside_after (fun _ => Channel.conserves_drop) h
      rwa [Act.after_of_ok hrun] at hkept
    have hon : (on name Channel.drop : TransportAct ω Unit).run transport =
        .ok () (putBack site name) := by
      rw [run_on hstation, hrun]
    refine ⟨site.host, (Act.bind_of_ok hon).trans ?_⟩
    have hstations : (putBack site name).stations.erase name = transport.stations.erase name := by
      unfold putBack
      rw [houtside, Named.erase_put, Named.erase_of_none (Named.get?_erase_self ..)]
    show EStateM.Result.ok () (Transport.mk site.host _ site.outside.outside) = _
    rw [hstations, houtside]

theorem within_custody_native (act : Act Native α) :
    Act.Within (Act.Fixing (custody owned)) (liftM act : TransportAct ω α) := by
  intro transport
  rw [Act.Fixing, after_lift_native]
  rfl

theorem balances_ledger {act : Act Ledger α}
    (h : Act.Balances Ledger.custody taken act given left) :
    Act.Balances (custody owned) taken (liftM act : TransportAct ω α) given left := by
  have hhost : Act.Balances (fun host : Host => host.ledger.custody) taken
      (liftM act : Act Host α) given left :=
    Act.Balances.focus h (fun _ => ⟨0, True⟩) (fun _ => rfl) fun _ _ => rfl
  exact Act.Balances.focus hhost
    (fun transport => (owned transport.outside).add (transport.stations.total Station.uses))
    (fun _ => rfl) fun _ _ => rfl

end Transport

/-! ## Event loops -/

namespace EventLoop

variable {ω : Type} {owned : ω → Holding} {listener : Listener ω}

theorem within_custody_attach (channel : String) (registration : Option Registration) :
    Act.Within (Act.Fixing (Transport.custody owned))
      (attach channel registration : TransportAct ω Unit) := by
  refine Act.within_bind Act.within_get fun transport => ?_
  split
  · exact Transport.within_custody_on (Channel.within_custody_setRegistration registration)
  · exact Act.within_pure ()

theorem within_custody_detachAll (entries : List InterestEntry) :
    Act.Within (Act.Fixing (Transport.custody owned))
      (detachAll entries : TransportAct ω Unit) := by
  induction entries with
  | nil => exact Act.within_pure ()
  | cons entry rest ih => exact Act.within_bind (within_custody_attach _ _) fun _ => ih

theorem within_custody_drop (loop : LoopId) :
    Act.Within (Act.Fixing (Transport.custody owned)) (drop loop : TransportAct ω Unit) := by
  refine Act.within_bind Act.within_get fun transport => ?_
  cases transport.host.native.loop? loop with
  | none => exact Act.within_pure ()
  | some table =>
    refine Act.within_bind (within_custody_detachAll _) fun _ => ?_
    exact Transport.within_custody_native _

theorem within_custody_register (loop : LoopId) (name : String) :
    Act.Within (Act.Fixing (Transport.custody owned))
      (register loop name : TransportAct ω Unit) := by
  refine Act.within_bind (Transport.within_custody_station name) fun station => ?_
  dsimp only
  split
  · exact Act.within_of_after fun _ => rfl
  · split
    · exact Act.within_of_after fun _ => rfl
    · refine Act.within_bind Act.within_get fun transport => ?_
      split
      · exact Act.within_pure ()
      · refine Act.within_bind (Transport.within_custody_native _) fun _ => ?_
        refine Act.within_bind (Act.within_capture (within_custody_attach _ _)) fun result => ?_
        cases result with
        | ok _ => exact Transport.within_custody_native _
        | error fault =>
          dsimp only
          split
          · refine Act.within_bind (within_custody_attach _ _) fun _ => ?_
            exact Act.within_bind (Transport.within_custody_native _) fun _ =>
              Act.within_throw fault
          · exact Act.within_throw fault

theorem within_custody_deregister (loop : LoopId) (name : String) :
    Act.Within (Act.Fixing (Transport.custody owned))
      (deregister loop name : TransportAct ω Unit) := by
  refine Act.within_bind Act.within_get fun transport => ?_
  split
  · exact Act.within_pure ()
  · refine Act.within_bind (within_custody_attach _ _) fun _ => ?_
    exact Transport.within_custody_native _

theorem within_custody_lookUp (loop : LoopId) (id : Nat) :
    Act.Within (Act.Fixing (Transport.custody owned)) <| entry? loop id :=
  Act.within_bind Act.within_get fun _ => Act.within_pure _

/-- To look up who is ready to write, and to flush, does to memory what the flush does. -/
theorem conserves_flushing {next : Option InterestEntry → TransportAct ω Unit} (loop : LoopId)
    (id events : Nat) (hnone : next none = pure ())
    (hsome : ∀ entry, next (some entry) = if events &&& Number.writable ≠ 0 then
      Transport.on entry.channel Channel.flush else pure ()) :
    Act.Conserves (Transport.custody owned) <| entry? loop id >>= next := by
  refine Act.Conserves.bind (.fixing (within_custody_lookUp loop id)) fun found => ?_
  cases found with
  | none =>
    rw [hnone]
    exact .pure ()
  | some entry =>
    rw [hsome]
    split
    · exact Transport.balances_on Channel.conserves_flush
    · exact .pure ()

/-- An event does to memory what a burst and a flush do. -/
theorem conserves_dispatch (h : Transport.Bookkeeping owned listener) (loop : LoopId)
    (id events : Nat) :
    Act.Conserves (Transport.custody owned) (dispatch listener loop id events) := by
  refine Act.Conserves.bind (.fixing (within_custody_lookUp loop id)) fun found => ?_
  cases found with
  | none => exact conserves_flushing loop id events rfl fun _ => rfl
  | some entry =>
    dsimp only
    split
    · refine Act.Conserves.bind (Transport.balances_on ?_) fun _ =>
        conserves_flushing loop id events rfl fun _ => rfl
      exact Channel.conserves_readReady (Transport.bookkeeping_react h entry.channel)
    · exact conserves_flushing loop id events rfl fun _ => rfl

theorem conserves_dispatchAt (h : Transport.Bookkeeping owned listener) (loop : LoopId)
    (place : Nat) :
    Act.Conserves (Transport.custody owned) (dispatchAt listener loop place) := by
  have hevent : Act.Within (Act.Fixing (Transport.custody owned))
      (event? loop place : TransportAct ω (Option (Nat × Nat))) :=
    Act.within_bind Act.within_get fun _ => Act.within_pure _
  refine Act.Conserves.bind (.fixing hevent) fun event? => ?_
  cases event? with
  | none => exact .pure ()
  | some event =>
    refine Act.Conserves.bind (.capture (conserves_dispatch h loop event.1 event.2))
      fun result => ?_
    cases result with
    | ok _ => exact .pure ()
    | error fault => exact .fixing (Transport.within_custody_native _)

theorem conserves_dispatchFrom (h : Transport.Bookkeeping owned listener) (loop : LoopId)
    (place count : Nat) :
    Act.Conserves (Transport.custody owned) (dispatchFrom listener loop place count) := by
  induction count generalizing place with
  | zero => exact .pure ()
  | succ count ih => exact Act.Conserves.bind (conserves_dispatchAt h loop place) fun _ => ih _

/-- **A round of an event loop keeps the books** if its listener does. -/
theorem conserves_runOnce (h : Transport.Bookkeeping owned listener) (loop : LoopId)
    (timeout : Int) :
    Act.Conserves (Transport.custody owned) (runOnce listener loop timeout) := by
  refine Act.Conserves.bind (.fixing Act.within_get) fun transport => ?_
  cases transport.host.native.loop? loop with
  | none => exact .pure 0
  | some table =>
    refine Act.Conserves.bind (.fixing (Transport.within_custody_native _)) fun answer => ?_
    cases answer with
    | value events =>
      refine Act.Conserves.bind (.fixing (Transport.within_custody_native _)) fun _ => ?_
      refine Act.Conserves.bind (conserves_dispatchFrom h loop 0 _) fun _ => ?_
      exact .pure _
    | failure code =>
      dsimp only
      split
      · exact .pure 0
      · exact .throw _

end EventLoop

end UdpTransport
