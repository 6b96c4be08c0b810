import UdpTransport.Proofs.Registry.Entering

/-!
# Programs that use an event loop

`Mannered` lists what a program may do with an event loop and its channels: to register and
deregister channels, to use, close and remove them, to make new ones, and to run the loop, with
listeners that do the same. Only one thing is forbidden: a channel must not be removed from inside
one of its own callbacks. Whatever a mannered program does goes by moves (`Mannered.goes`).
-/

namespace UdpTransport

namespace Transport

variable {ω α : Type} {loop : LoopId} {nested : Prop} {held : Set String} {name : String}
  {transport : Transport ω} {station : Station}

/-- Neither the name nor the descriptor of a new channel is in use. -/
def HasRoom (transport : Transport ω) (name : String) (station : Station) : Prop :=
  transport.stations.get? name = none ∧ ∀ entry ∈ transport.stations.entries,
    entry.2.bearing.descriptor = station.bearing.descriptor →
      entry.2.bearing.descriptor = Socket.noDescriptor

instance (transport : Transport ω) (name : String) (station : Station) :
    Decidable (transport.HasRoom name station) := inferInstanceAs (Decidable (_ ∧ _))

/-- A channel is made. The system gives out no descriptor that is in use, and names are unique. -/
def enroll (name : String) (station : Station) : TransportAct ω Unit := modify fun transport =>
  if transport.HasRoom name station then
    { transport with stations := transport.stations.put name station }
  else transport

theorem scene_put (transport : Transport ω) (name : String) (station : Station) :
    scene loop { transport with stations := transport.stations.put name station } =
      (transport.scene loop).withBearing name (some station.bearing) := by
  refine congrArg (transport.host.native.sight.scene loop) (funext fun other => ?_)
  by_cases hother : other = name
  · subst hother
    simp [bearings, scene, Sight.scene]
  · simp [bearings, scene, Sight.scene, Function.update_of_ne hother,
      Named.get?_put_of_ne _ hother]

theorem goes_enroll (hfree : station.channel.registration = none) :
    Act.Within (Goes loop nested held) (enroll name station : TransportAct ω Unit) := by
  refine Act.within_modify fun transport table hsound => ?_
  by_cases hroom : transport.HasRoom name station
  · rw [if_pos hroom, scene_put]
    refine .single (.made ?_ hfree fun other taken htaken => ?_)
    · show (transport.stations.get? name).map Station.bearing = none
      rw [hroom.1]
      rfl
    · obtain ⟨found, hfound, rfl⟩ : ∃ found, transport.stations.get? other = some found ∧
          found.bearing = taken := Option.map_eq_some_iff.mp htaken
      exact hroom.2 (other, found) (Named.mem_of_get? hfound)
  · rw [if_neg hroom]

end Transport

namespace EventLoop

open Transport (Goes scene)

variable {ω α : Type} {loop : LoopId} {nested : Prop} {held : Set String} {name : String}
  {transport : Transport ω} {table : Loop} {listener : Listener ω}

/-! ## Handing out events -/

/-- The two parts of handling an event. -/
inductive Part where
  | reading
  | flushing
  deriving DecidableEq, Repr

namespace Part

/-- The readiness that a part answers. -/
def mask : Part → Nat
  | reading => readableMask
  | flushing => Number.writable

/-- What a part has the channel do. -/
def work (listener : Listener ω) (name : String) : Part → StationAct ω Unit
  | reading => Channel.readReady (Transport.react listener name)
  | flushing => Channel.flush

end Part

/-- Handles one part of an event, if its entry is still there and it is ready for that. -/
def handle (listener : Listener ω) (loop : LoopId) (event : Nat × Nat) (part : Part) :
    TransportAct ω Unit := do
  match ← entry? loop event.1 with
  | some entry =>
    if event.2 &&& part.mask ≠ 0 then Transport.on entry.channel (part.work listener entry.channel)
  | none => pure ()

/-- The entry is looked up again for each part. -/
theorem dispatch_eq (listener : Listener ω) (loop : LoopId) (event : Nat × Nat) :
    dispatch listener loop event.1 event.2 =
      (handle listener loop event .reading >>= fun _ => handle listener loop event .flushing) := by
  unfold dispatch handle
  rw [bind_assoc]
  refine congrArg (fun next => entry? loop event.1 >>= next) (funext fun found => ?_)
  cases found with
  | none => rfl
  | some entry =>
    by_cases hready : event.2 &&& readableMask ≠ 0
    · simp only [hready, Part.mask, Part.work, ne_eq, not_false_eq_true, if_true]
      rfl
    · simp only [hready, Part.mask, Part.work, if_false]
      rfl

section Handing

variable {R : Transport ω → Transport ω → Prop} [IsPreorder (Transport ω) R]
  (hwork : ∀ (part : Part) name, Act.Within R (Transport.on name (part.work listener name)))

include hwork

theorem within_handle (event : Nat × Nat) (part : Part) :
    Act.Within R (handle listener loop event part) := by
  refine Act.within_bind (Act.within_of_after fun _ => rfl) fun found => ?_
  cases found with
  | none => exact Act.within_pure ()
  | some entry =>
    by_cases hready : event.2 &&& part.mask ≠ 0
    · simp only [if_pos hready]
      exact hwork part entry.channel
    · simp only [if_neg hready]
      exact Act.within_pure ()

variable (hlog : ∀ level tag text, Act.Within R
  (liftM (Native.writeLog level tag text) : TransportAct ω Unit))

include hlog

theorem within_dispatchAt (place : Nat) :
    Act.Within R (dispatchAt listener loop place) := by
  refine Act.within_bind (Act.within_of_after fun _ => rfl) fun event? => ?_
  cases event? with
  | none => exact Act.within_pure ()
  | some event =>
    have hdispatch : Act.Within R (dispatch listener loop event.1 event.2) := by
      rw [dispatch_eq]
      exact Act.within_bind (within_handle hwork event .reading) fun _ =>
        within_handle hwork event .flushing
    refine Act.within_bind (Act.within_capture hdispatch) fun result => ?_
    cases result with
    | ok _ => exact Act.within_pure ()
    | error fault => exact hlog _ _ _

/-- What holds along the work of the channels holds along handing out events. -/
theorem within_dispatchFrom (place count : Nat) :
    Act.Within R (dispatchFrom listener loop place count) := by
  induction count generalizing place with
  | zero => exact Act.within_pure ()
  | succ count ih =>
    exact Act.within_bind (within_dispatchAt hwork hlog place) fun _ => ih (place + 1)

end Handing

section Goes

variable (hlistener : ∀ channel callback,
  Act.Within (Goes loop nested (insert channel held)) (listener channel callback))

include hlistener

theorem goes_work (part : Part) (name : String) :
    Act.Within (Goes loop nested held) (Transport.on name (part.work listener name)) := by
  cases part with
  | reading =>
    -- While a burst is read its own channel is held.
    have hgoes := Transport.goes_on (Transport.goes_readReady (Set.mem_insert name held)
      (hlistener name))
    exact hgoes.mono fun _ _ => Proceeds.mono id (Set.subset_insert name held)
  | flushing => exact Transport.goes_on Transport.goes_flush

theorem goes_dispatchFrom (place count : Nat) :
    Act.Within (Goes loop nested held) (dispatchFrom listener loop place count) :=
  within_dispatchFrom (goes_work hlistener) Transport.goes_log place count

end Goes

/-! ## Running the loop -/

/-- What a wait leaves, before anything of it is written down. -/
def waited (table : Loop) (timeout : Int) (transport : Transport ω) : Transport ω :=
  transport.withNative (transport.host.native.called (.wait table.set table.maxEvents timeout)
    (fun events => events.length) (Kernel.wait table.maxEvents))

/-- What a wait leaves that reported events. -/
def informed (loop : LoopId) (table : Loop) (timeout : Int) (events : List (Nat × Nat))
    (transport : Transport ω) : Transport ω :=
  (waited table timeout transport).withNative
    ((waited table timeout transport).host.native.setLoop loop (table.report events))

theorem scene_waited (table : Loop) (timeout : Int) (transport : Transport ω) :
    scene loop (waited table timeout transport) = scene loop transport := by
  have hsame : Act.Within (Act.Fixing Native.sight)
      (Native.perform (.wait table.set table.maxEvents timeout)
        (fun events : List (Nat × Nat) => (events.length : Int))
        (Kernel.wait table.maxEvents)) := by
    refine Native.within_sight_perform (fun _ => rfl) (Kernel.changeInterest_answer ?_ ?_)
    · exact fun _ => rfl
    · exact fun _ => rfl
  have hsight := hsame transport.host.native
  rw [Act.Fixing, Act.after_of_ok (Native.run_perform ..)] at hsight
  exact congrArg (fun sight : Sight => sight.scene loop transport.bearings) hsight

theorem scene_informed (h : transport.host.native.loop? loop = some table) (timeout : Int)
    (events : List (Nat × Nat)) : scene loop (informed loop table timeout events transport) =
      (transport.scene loop).withTable (table.report events) := by
  have hlength : loop < transport.host.native.loops.length := by
    by_contra hbeyond
    have hnone : transport.host.native.loops[loop]? = none :=
      List.getElem?_eq_none (Nat.not_lt.mp hbeyond)
    simp [Native.loop?, hnone] at h
  have hscene : scene loop (informed loop table timeout events transport) =
      (scene loop (waited table timeout transport)).withTable (table.report events) := by
    have hset : ((transport.host.native.loops.set loop (some (table.report events)))[loop]?).join =
        some (table.report events) := by
      simp [List.getElem?_set_self hlength]
    exact congrArg (fun found => ({ scene loop (waited table timeout transport) with
      table := found } : Scene)) hset
  rw [hscene, scene_waited]

/-- What a wait reports is what the system answered. -/
theorem wait_run (table : Loop) (timeout : Int) {events : List (Nat × Nat)}
    (hanswer : (Kernel.wait table.maxEvents transport.host.native.kernel).1 = .value events) :
    (liftM (Native.perform (.wait table.set table.maxEvents timeout)
      (fun events : List (Nat × Nat) => (events.length : Int)) (Kernel.wait table.maxEvents)) :
        TransportAct ω (Answer (List (Nat × Nat)))).run transport =
      .ok (.value events) (waited table timeout transport) := by
  have hwait : (liftM (Native.perform (.wait table.set table.maxEvents timeout)
      (fun events : List (Nat × Nat) => (events.length : Int)) (Kernel.wait table.maxEvents)) :
        TransportAct ω (Answer (List (Nat × Nat)))).run transport = _ :=
    Transport.lift_native_ok (Native.run_perform ..)
  have hnonneg : ¬ ((events.length : Int) < 0) := by omega
  have hvalue : ∀ last, (Answer.value events).failIf
      (fun events => decide ((events.length : Int) < 0)) last = .value events := fun last => by
    simp [Answer.failIf, hnonneg]
  rw [hanswer, hvalue] at hwait
  exact hwait

/-- A round that is told of events hands them out. -/
theorem runOnce_run (h : transport.host.native.loop? loop = some table)
    (listener : Listener ω) (timeout : Int) {events : List (Nat × Nat)}
    (hanswer : (Kernel.wait table.maxEvents transport.host.native.kernel).1 = .value events) :
    (runOnce listener loop timeout).run transport =
      (dispatchFrom listener loop 0 events.length >>= fun _ => pure events.length :
        TransportAct ω Nat).run (informed loop table timeout events transport) := by
  unfold runOnce
  rw [Act.bind_of_ok (EStateM.run_get transport)]
  simp only [h]
  rw [Act.bind_of_ok (wait_run table timeout hanswer)]
  rfl

/-- A wait that fails changes nothing. -/
theorem after_runOnce_of_failure (h : transport.host.native.loop? loop = some table)
    (listener : Listener ω) (timeout : Int) {code : Int}
    (hanswer : (Kernel.wait table.maxEvents transport.host.native.kernel).1 = .failure code) :
    (runOnce listener loop timeout).after transport = waited table timeout transport := by
  have hwait : (liftM (Native.perform (.wait table.set table.maxEvents timeout)
      (fun events : List (Nat × Nat) => (events.length : Int)) (Kernel.wait table.maxEvents)) :
        TransportAct ω (Answer (List (Nat × Nat)))).run transport = _ :=
    Transport.lift_native_ok (Native.run_perform ..)
  rw [hanswer] at hwait
  unfold runOnce
  rw [Act.after_bind_of_ok (EStateM.run_get transport)]
  simp only [h]
  rw [Act.after_bind_of_ok hwait]
  show Act.after (if code = ErrorCode.interrupted then pure 0
    else throw (.native "epoll_wait" code) : TransportAct ω Nat) _ = _
  by_cases hinterrupted : code = ErrorCode.interrupted
  · rw [if_pos hinterrupted]
    rfl
  · rw [if_neg hinterrupted]
    rfl

theorem goes_runOnce (hnested : nested) (hlistener : ∀ channel callback,
    Act.Within (Goes loop nested (insert channel held)) (listener channel callback))
    (timeout : Int) : Act.Within (Goes loop nested held) (runOnce listener loop timeout) := by
  intro transport table hsound
  have htable : transport.host.native.loop? loop = some table := hsound.there
  cases hanswer : (Kernel.wait table.maxEvents transport.host.native.kernel).1 with
  | value events =>
    have hscene := scene_informed htable timeout events
    have hreported : Move loop nested held (transport.scene loop) _ :=
      .reported events hnested hsound.there
    rw [← hscene] at hreported
    obtain ⟨table', hsound', _⟩ := hsound.move hreported
    have hrest := Act.within_bind (goes_dispatchFrom hlistener 0 events.length) fun _ =>
      Act.within_pure (R := Goes loop nested held) events.length
    rw [Act.after_congr (runOnce_run htable listener timeout hanswer)]
    exact .head hreported (hrest _ table' hsound')
  | failure code =>
    rw [after_runOnce_of_failure htable listener timeout hanswer, scene_waited]

end EventLoop

/-! ## Mannered programs -/

/-- What a program may do to an event loop, while callbacks of the channels that are `held` run. It
may run the loop only if `nested`. -/
inductive Mannered {ω : Type} (loop : LoopId) (nested : Prop) :
    Set String → {α : Type} → TransportAct ω α → Prop where
  /-- It may do anything that neither the loop nor a registration sees. -/
  | aside {held : Set String} {α : Type} {act : TransportAct ω α}
      (h : Act.Within (Act.Fixing (Transport.scene loop)) act) : Mannered loop nested held act
  | enroll {held : Set String} (name : String) {station : Station}
      (hfree : station.channel.registration = none) :
      Mannered loop nested held (Transport.enroll name station)
  | register {held : Set String} (name : String) :
      Mannered loop nested held (EventLoop.register loop name)
  | deregister {held : Set String} (name : String) :
      Mannered loop nested held (EventLoop.deregister loop name)
  | read {held : Set String} (name : String) :
      Mannered loop nested held (Transport.on name Channel.read)
  | setAutoRead {held : Set String} (name : String) (on : Bool) :
      Mannered loop nested held (Transport.on name (Channel.setAutoRead on))
  | flush {held : Set String} (name : String) :
      Mannered loop nested held (Transport.on name Channel.flush)
  | close {held : Set String} (name : String) :
      Mannered loop nested held (Transport.on name Channel.close)
  | remove {held : Set String} {name : String} (hheld : name ∉ held) :
      Mannered loop nested held (Transport.remove name)
  | readReady {held : Set String} (name : String) {listener : Listener ω}
      (h : ∀ callback, Mannered loop nested (insert name held) (listener name callback)) :
      Mannered loop nested held
        (Transport.on name (Channel.readReady (Transport.react listener name)))
  | runOnce {held : Set String} (hnested : nested) {listener : Listener ω} (timeout : Int)
      (h : ∀ name callback, Mannered loop nested (insert name held) (listener name callback)) :
      Mannered loop nested held (EventLoop.runOnce listener loop timeout)
  | bind {held : Set String} {α β : Type} {act : TransportAct ω α} {next : α → TransportAct ω β}
      (first : Mannered loop nested held act) (later : ∀ a, Mannered loop nested held (next a)) :
      Mannered loop nested held (act >>= next)
  | capture {held : Set String} {α : Type} {act : TransportAct ω α}
      (h : Mannered loop nested held act) : Mannered loop nested held act.capture

namespace Mannered

variable {ω α : Type} {loop : LoopId} {nested : Prop} {held : Set String}

/-- To fail is allowed. -/
theorem throw (fault : Fault) :
    Mannered loop nested held (throw fault : TransportAct ω α) := .aside (Act.within_throw fault)

/-- A channel may do whatever leaves its registration and interest sets alone. -/
theorem of_outlook {act : StationAct ω α} (h : Act.Within (Act.Fixing Channel.outlook) act)
    (name : String) : Mannered loop nested held (Transport.on name act) := by
  refine .aside fun transport => ?_
  show Transport.scene loop _ = Transport.scene loop transport
  cases hstation : transport.stations.get? name with
  | none => rw [Transport.after_on_missing hstation]
  | some station =>
    rw [Transport.after_on hstation]
    exact (Transport.siteScene_of_outlook (h _)).trans (Transport.siteScene_takeOut hstation)

/-- A channel may be bound and connected, and messages may be queued. -/
theorem bindTo (name : String) (address : Address) :
    Mannered loop nested held (Transport.on name (Channel.bind address) : TransportAct ω Unit) :=
  of_outlook (Channel.outlook_bind address) name

theorem connect (name : String) (remote : Address) (local? : Option Address) :
    Mannered loop nested held
      (Transport.on name (Channel.connect remote local?) : TransportAct ω Unit) :=
  of_outlook (Channel.outlook_connect remote local?) name

theorem disconnect (name : String) :
    Mannered loop nested held (Transport.on name Channel.disconnect : TransportAct ω Unit) :=
  of_outlook Channel.outlook_disconnect name

theorem write (name : String) (message : Message) :
    Mannered loop nested held (Transport.on name (Channel.write message) : TransportAct ω Ticket) :=
  of_outlook (Channel.outlook_write message) name

/-- **Mannered programs go by moves.** -/
theorem goes {act : TransportAct ω α} (h : Mannered loop nested held act) :
    Act.Within (Transport.Goes loop nested held) act := by
  induction h with
  | aside h =>
    refine h.mono fun transport transport' hsame => ?_
    show Proceeds loop nested _ _ (transport'.scene loop)
    rw [show transport'.scene loop = transport.scene loop from hsame]
    exact refl_of _ _
  | enroll name hfree => exact Transport.goes_enroll hfree
  | register name => exact EventLoop.goes_register
  | deregister name => exact EventLoop.goes_deregister
  | read name => exact Transport.goes_on Transport.goes_read
  | setAutoRead name on => exact Transport.goes_on (Transport.goes_setAutoRead on)
  | flush name => exact Transport.goes_on Transport.goes_flush
  | close name => exact Transport.goes_on Transport.goes_close
  | remove hheld => exact EventLoop.goes_remove hheld
  | readReady name h ih =>
    have hgoes := Transport.goes_on (Transport.goes_readReady (Set.mem_insert name _) ih)
    exact hgoes.mono fun _ _ => Proceeds.mono id (Set.subset_insert name _)
  | runOnce hnested timeout h ih => exact EventLoop.goes_runOnce hnested ih timeout
  | bind first later ihfirst ihlater => exact Act.within_bind ihfirst ihlater
  | capture h ih => exact Act.within_capture ih

end Mannered

end UdpTransport
