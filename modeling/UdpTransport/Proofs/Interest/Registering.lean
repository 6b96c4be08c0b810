import UdpTransport.EventLoop.Dispatch
import UdpTransport.Proofs.Interest.Detached
import UdpTransport.Proofs.Stations

/-!
# Interest when a channel is registered

Attaching a channel asks for a burst if reading goes on by itself, and for nothing else. So right
after a registration the interest in reading says whether reading goes on by itself
(`run_register`), and what is owed from before, while nobody listened, is not told to the event
loop: neither a request to read (`register_forgets_read`) nor the messages that a flush left in the
queue (`register_forgets_write`).

`LoopOp` lists what the user of a channel does with it and with event loops. Along all of it, the
interest of a registered channel has a reason (`Poised`), so that to take the channel away from its
event loop and to register it again leaves its interest as it was, provided that no request to read
was outstanding and nothing was queued (`waits_runLoop`).
-/

namespace UdpTransport

/-! ## Computations that fail -/

/-- A computation that never succeeds. -/
def Act.Fails {σ α : Type} (act : Act σ α) : Prop := ∀ s, ∃ fault s', act.run s = .error fault s'

/-- To fail at the end is to fail. -/
theorem Act.fails_bind {σ α β : Type} (act : Act σ α) {next : α → Act σ β}
    (later : ∀ a, (next a).Fails) : (act >>= next).Fails := by
  intro s
  cases h : act.run s with
  | ok a middle =>
    rw [Act.bind_of_ok h]
    exact later a middle
  | error fault middle => exact ⟨fault, middle, Act.bind_of_error h⟩

/-! ## Attaching -/

namespace Channel

variable {ε ω : Type} [Endpoint ε] {registration : Registration}

/-- A channel that has just been attached: it waits to read if reading goes on by itself, and does
not wait to write. What was asked for or queued before is still there. -/
structure Joined (registration : Registration) (before after : Stance) : Prop where
  attached : after.registration = some registration
  autoRead : after.autoRead = before.autoRead
  suspended : after.suspended = before.suspended
  pending : after.pending = before.pending
  asked : before.readPending = true → after.readPending = true
  isOpen : after.isOpen = true
  live : after.board.Live registration
  reading : after.waits registration .reading = after.autoRead
  writing : after.waits registration .writing = false
  obliging : before.board.Obliging → after.board.Obliging

/-- Attaching succeeds unless the system refuses. -/
theorem setRegistration_cases (site : Site ε ω) (hopen : Endpoint.isOpen site.endpoint = true)
    (hlive : site.host.native.board.Live registration)
    (hfresh : ∀ readiness,
      site.host.native.board.waits registration site.channel.name readiness = false) :
    (∃ site', (setRegistration (some registration) : SiteAct ε ω Unit).run site = .ok () site' ∧
        Joined registration (stance site) (stance site')) ∨
      ¬ site.host.native.board.Obliging ∧ ∃ fault site',
        (setRegistration (some registration) : SiteAct ε ω Unit).run site = .error fault site' := by
  unfold setRegistration
  rw [Act.bind_of_ok (run_change ..), Act.bind_of_ok (run_current _)]
  -- Reading alone is asked for, and only with auto-read; writing is not asked for at all.
  cases hauto : site.channel.config.autoRead with
  | false =>
    left
    refine ⟨_, congrArg (EStateM.run · _) (if_neg (by simp [hauto])), ?_⟩
    exact ⟨rfl, rfl, rfl, rfl, id, hopen, hlive, (hfresh .reading).trans hauto.symm,
      hfresh .writing, id⟩
  | true =>
    have hreads : ((some registration).isSome && (site.withChannel
        { site.channel with registration := some registration }).channel.config.autoRead) = true :=
      hauto
    rw [hreads, if_pos rfl]
    rcases read_cases (site.withChannel
        { site.channel with registration := some registration }) rfl hopen hlive with
      ⟨native, hrun, htold⟩ | hrefused
    · left
      refine ⟨_, hrun, rfl, rfl, rfl, rfl, fun _ => rfl, hopen, htold.live, ?_, ?_, htold.obliging⟩
      · exact ((htold.waits .reading).trans (if_pos rfl)).trans hauto.symm
      · exact ((htold.waits .writing).trans (if_neg (by decide))).trans (hfresh .writing)
    · exact .inr hrefused

/-- A channel that has just been attached is in tune, but for requests made before. -/
theorem Joined.inTune {before after : Stance} (h : Joined registration before after)
    (hawake : before.suspended = false) (hobliging : before.board.Obliging) :
    InTune registration False True after where
  attached := h.attached
  isOpen := h.isOpen
  awake := h.suspended.trans hawake
  live := h.live
  obliging := h.obliging hobliging
  autoRead hauto := h.reading.trans hauto
  asked := False.elim
  settled _ hwaits := .inl (h.reading.symm.trans hwaits)
  writing hwaits := absurd (h.writing.symm.trans hwaits) Bool.false_ne_true

end Channel

/-! ## One channel among others -/

namespace Transport

variable {ω α : Type} {transport : Transport ω} {name : String} {station : Station}

/-- What the interest of a channel is judged by, at its place. -/
def stance (transport : Transport ω) (name : String) (station : Station) : Stance :=
  Channel.stance (transport.takeOut name station)

end Transport

namespace EventLoop

variable {ω : Type} {loop : LoopId} {name : String} {transport : Transport ω} {station : Station}
  {table : Loop}

/-- Enters a channel under the next number of an event loop, once the system has agreed. -/
def enter (loop : LoopId) (table : Loop) (name : String) (fd : Int) : Act Native Unit := do
  modify fun native => native.setLoop loop { table with nextId := table.nextId + 1 }
  let answer ← Native.attemptStatus
    (.changeInterest table.set .add fd (some (0, table.nextId))) Kernel.changeInterest
  let _ ← Native.orFail "epoll_ctl" answer
  modify fun native =>
    native.setLoop loop { table.insert name fd with nextId := table.nextId + 1 }

theorem enter_cases {native : Native} (htable : native.loop? loop = some table) (name : String)
    (fd : Int) :
    (∃ native', (enter loop table name fd).run native = .ok () native' ∧
        native'.board.Live (.entry loop table.nextId) ∧
        (∀ channel readiness,
          native'.board.waits (.entry loop table.nextId) channel readiness = false) ∧
        (native.board.Obliging → native'.board.Obliging)) ∨
      ¬ native.board.Obliging ∧
        ∃ fault native', (enter loop table name fd).run native = .error fault native' := by
  have hnumber : (modify fun native =>
      native.setLoop loop { table with nextId := table.nextId + 1 } : Act Native Unit).run native =
        .ok () (native.setLoop loop { table with nextId := table.nextId + 1 }) := rfl
  obtain ⟨called, hboard, hcall⟩ := Native.run_changeInterest
    (.changeInterest table.set .add fd (some (0, table.nextId)))
    (native.setLoop loop { table with nextId := table.nextId + 1 })
  unfold enter
  rw [Act.bind_of_ok hnumber]
  -- The number of the entry is used up whether or not the system agrees.
  rcases hcall with ⟨number, hcall⟩ | ⟨hrefused, code, hcall⟩
  · left
    refine ⟨called.setLoop loop { table.insert name fd with nextId := table.nextId + 1 }, ?_, ?_⟩
    · rw [Act.bind_of_ok hcall]
      rfl
    have hlength : loop < native.loops.length := by
      by_contra hbeyond
      rw [Native.loop?, List.getElem?_eq_none (Nat.not_lt.mp hbeyond)] at htable
      cases htable
    have hloops : called.loops = native.loops.set loop
        (some { table with nextId := table.nextId + 1 }) := congrArg Board.loops hboard
    have hentry : (called.setLoop loop
        { table.insert name fd with nextId := table.nextId + 1 }).board.entry? loop table.nextId =
          some ⟨table.nextId, name, fd, 0⟩ := by
      show (((called.loops.set loop _)[loop]?).join.bind _) = _
      rw [hloops, List.set_set, List.getElem?_set_self hlength]
      exact Loop.find?_insert_self table name fd
    refine ⟨?_, fun channel readiness => ?_, fun hobliging => ?_⟩
    · show (Board.entry? _ loop table.nextId).isSome
      rw [hentry]
      rfl
    · show (Board.entry? _ loop table.nextId).any _ = false
      rw [hentry]
      simp
    · exact hobliging.tail (congrArg Board.answers hboard)
  · right
    refine ⟨hrefused, .native "epoll_ctl" code, called, ?_⟩
    rw [Act.bind_of_ok hcall]
    rfl

/-- Attaches a channel to its entry, which is taken back if that fails. -/
def settleIn (loop : LoopId) (key : Nat) (name : String) (fd : Int) : TransportAct ω Unit := do
  match ← (attach name (some (.entry loop key))).capture with
  | .ok _ => (Native.writeLog .debug Registration.loopTag s!"registered fd {fd}" : Act Native Unit)
  | .error fault =>
    if fault.isSocketFault then
      attach name none
      (Registration.removeEntry loop key : Act Native Unit)
    throw fault

/-- A registration that nothing stands against enters the channel and attaches it. -/
theorem run_register_enter (hstation : transport.stations.get? name = some station)
    (hopen : Endpoint.isOpen station.endpoint = true)
    (hfree : station.channel.registration = none)
    (htable : transport.host.native.loop? loop = some table) :
    (register loop name).run transport =
      (liftM (enter loop table name (Endpoint.descriptor station.endpoint)) >>= fun _ =>
        settleIn loop table.nextId name (Endpoint.descriptor station.endpoint) :
          TransportAct ω Unit).run transport := by
  unfold register
  rw [Act.bind_of_ok (Transport.run_station hstation), if_neg (by simp [hopen]),
    if_neg (by simp [Channel.isRegistered, hfree]), Act.bind_of_ok (EStateM.run_get transport)]
  simp only [htable]
  rfl

theorem run_attach (hstation : transport.stations.get? name = some station)
    (registration : Option Registration) :
    (attach name registration : TransportAct ω Unit).run transport =
      (Transport.on name (Channel.setRegistration registration)).run transport := by
  unfold attach
  rw [Act.bind_of_ok (EStateM.run_get transport), hstation]
  rfl

theorem settleIn_cases {key : Nat} (hstation : transport.stations.get? name = some station)
    (hopen : Endpoint.isOpen station.endpoint = true)
    (hlive : transport.host.native.board.Live (.entry loop key))
    (hfresh : ∀ readiness, transport.host.native.board.waits (.entry loop key)
      station.channel.name readiness = false) (fd : Int) :
    (∃ transport' station', (settleIn loop key name fd).run transport = .ok () transport' ∧
        transport'.stations.get? name = some station' ∧
        Channel.Joined (.entry loop key) (transport.stance name station)
          (transport'.stance name station')) ∨
      ¬ transport.host.native.board.Obliging ∧ ∃ fault transport',
        (settleIn loop key name fd).run transport = .error fault transport' := by
  have hattach := (run_attach hstation (some (.entry loop key))).trans
    (Transport.run_on hstation (Channel.setRegistration (some (.entry loop key))))
  unfold settleIn
  rw [Act.bind_of_ok (Act.run_capture _ transport)]
  rcases Channel.setRegistration_cases (transport.takeOut name station) hopen hlive hfresh with
    ⟨site, hrun, hjoined⟩ | ⟨hrefused, fault, site, hrun⟩
  · left
    rw [hrun] at hattach
    rw [Act.result_of_ok hattach, Act.after_of_ok hattach]
    obtain ⟨_, native, hlog⟩ := Native.succeeds_writeLog .debug Registration.loopTag
      s!"registered fd {fd}" (Transport.putBack site name).host.native
    have hboard : native.board = site.host.native.board := by
      have hwithin := Native.within_writeLog .debug Registration.loopTag
        s!"registered fd {fd}" (Transport.putBack site name).host.native
      rw [Act.after_of_ok hlog] at hwithin
      exact hwithin
    refine ⟨(Transport.putBack site name).withNative native, ⟨site.channel, site.endpoint⟩,
      Transport.lift_native_ok hlog, Transport.get?_putBack site name, ?_⟩
    have hstance : ((Transport.putBack site name).withNative native).stance name
        ⟨site.channel, site.endpoint⟩ = Channel.stance site :=
      congrArg (fun board => { Channel.stance site with board := board }) hboard
    rw [hstance]
    exact hjoined
  · right
    rw [hrun] at hattach
    rw [Act.result_of_error hattach]
    refine ⟨hrefused, ?_⟩
    -- Whatever is undone now, the fault is handed on.
    by_cases hsocket : fault.isSocketFault = true
    · simp only [hsocket, if_true]
      exact Act.fails_bind _ (fun _ => Act.fails_bind _ fun _ state => ⟨fault, state, rfl⟩) _
    · simp only [hsocket]
      exact ⟨fault, _, rfl⟩

/-- **A registration attaches**, unless the system refuses it. -/
theorem run_register (hstation : transport.stations.get? name = some station)
    (hopen : Endpoint.isOpen station.endpoint = true)
    (hfree : station.channel.registration = none)
    (htable : transport.host.native.loop? loop = some table) :
    (∃ transport' station', (register loop name).run transport = .ok () transport' ∧
        transport'.stations.get? name = some station' ∧
        Channel.Joined (.entry loop table.nextId) (transport.stance name station)
          (transport'.stance name station')) ∨
      ¬ transport.host.native.board.Obliging ∧ ∃ fault transport',
        (register loop name).run transport = .error fault transport' := by
  rw [run_register_enter hstation hopen hfree htable]
  rcases enter_cases htable name (Endpoint.descriptor station.endpoint) with
    ⟨entered, henter, hlive, hfresh, hobliging⟩ | ⟨hrefused, fault, native, henter⟩
  · rw [Act.bind_of_ok (Transport.lift_native_ok henter)]
    have hentered : (transport.withNative entered).stations.get? name = some station := hstation
    rcases settleIn_cases hentered hopen hlive (hfresh station.channel.name)
        (Endpoint.descriptor station.endpoint) with
      ⟨transport', station', hrun, hthere, hjoined⟩ | ⟨hrefused, hfails⟩
    · exact .inl ⟨transport', station', hrun, hthere,
        { hjoined with obliging := fun h => hjoined.obliging (hobliging h) }⟩
    · exact .inr ⟨fun h => hrefused (hobliging h), hfails⟩
  · exact .inr ⟨hrefused, fault, _, Act.bind_of_error (Transport.lift_native_error henter)⟩

/-- A registration is refused at once, or the channel is there, open and free. -/
theorem register_cases (loop : LoopId) (name : String) (transport : Transport ω) :
    (∃ fault, (register loop name).run transport = .error fault transport) ∨
      ∃ station, transport.stations.get? name = some station ∧
        Endpoint.isOpen station.endpoint = true ∧ station.channel.registration = none := by
  -- Three rules stand before anything is asked of the system.
  cases hstation : transport.stations.get? name with
  | none =>
    have hfails : (Transport.station name : TransportAct ω Station).run transport =
        .error .noChannel transport := by
      unfold Transport.station
      rw [Act.bind_of_ok (EStateM.run_get transport)]
      simp only [hstation]
      rfl
    exact .inl ⟨.noChannel, Act.bind_of_error hfails⟩
  | some station =>
    cases hopen : Endpoint.isOpen station.endpoint with
    | false =>
      refine .inl ⟨.violation .registerClosed, ?_⟩
      unfold register
      rw [Act.bind_of_ok (Transport.run_station hstation), if_pos (by simp [hopen])]
      rfl
    | true =>
      cases hfree : station.channel.registration with
      | some registration =>
        refine .inl ⟨.violation .registerTwice, ?_⟩
        unfold register
        rw [Act.bind_of_ok (Transport.run_station hstation), if_neg (by simp [hopen]),
          if_pos (by simp [Channel.isRegistered, hfree])]
        rfl
      | none => exact .inr ⟨station, rfl, hopen, hfree⟩

/-- Only a channel that is there, open and free is ever registered. -/
theorem free_of_register {transport' : Transport ω}
    (h : (register loop name).run transport = .ok () transport') :
    ∃ station, transport.stations.get? name = some station ∧
      Endpoint.isOpen station.endpoint = true ∧ station.channel.registration = none := by
  refine (register_cases loop name transport).resolve_left ?_
  rintro ⟨fault, hrefused⟩
  rw [hrefused] at h
  cases h

/-- What a registration that succeeds has attached. -/
theorem joined_of_register {transport' : Transport ω}
    (hloop : (transport.host.native.loop? loop).isSome)
    (h : (register loop name).run transport = .ok () transport') :
    ∃ station station' key, transport.stations.get? name = some station ∧
      station.channel.registration = none ∧
      transport'.stations.get? name = some station' ∧
      Channel.Joined (.entry loop key) (transport.stance name station)
        (transport'.stance name station') := by
  obtain ⟨station, hstation, hopen, hfree⟩ := free_of_register h
  obtain ⟨table, htable⟩ := Option.isSome_iff_exists.mp hloop
  rcases run_register hstation hopen hfree htable with
    ⟨reached, station', hrun, hthere, hjoined⟩ | ⟨_, fault, reached, hrun⟩
  · rw [hrun] at h
    cases h
    exact ⟨station, station', table.nextId, hstation, hfree, hthere, hjoined⟩
  · rw [hrun] at h
    cases h

/-! ## Taking a channel away -/

/-- Taking an entry out uses up an answer of the system, whatever it is, and changes one event
loop. -/
theorem after_removeEntry (loop : LoopId) (key : Nat) (native : Native) :
    (Registration.removeEntry loop key).after native = native ∨
      ∃ (called : Native) (table : Loop), called.board = native.board.asked ∧
        (Registration.removeEntry loop key).after native = called.setLoop loop table := by
  unfold Registration.removeEntry
  rw [Act.after_bind_of_ok (EStateM.run_get native)]
  cases htable : native.loop? loop with
  | none => exact .inl rfl
  | some table =>
    dsimp only
    cases hentry : table.find? key with
    | none => exact .inl rfl
    | some watched =>
      right
      obtain ⟨called, hboard, hcall⟩ := Native.run_changeInterest
        (.changeInterest table.set .delete watched.descriptor none) native
      -- The entry is erased even if the system refuses. A refusal is worth a line unless the
      -- descriptor is gone already.
      rcases hcall with ⟨number, hcall⟩ | ⟨_, code, hcall⟩
      · refine ⟨called, table.erase key, hboard, ?_⟩
        dsimp only
        rw [Act.after_bind_of_ok hcall]
        rfl
      · dsimp only
        rw [Act.after_bind_of_ok hcall]
        dsimp only
        by_cases hgone : code = ErrorCode.badDescriptor ∨ code = ErrorCode.noEntry
        · rw [if_pos hgone]
          exact ⟨called, table.erase key, hboard, rfl⟩
        · rw [if_neg hgone]
          obtain ⟨_, logged, hlog⟩ := Native.succeeds_writeLog .warn Registration.loopTag
            ("epoll_ctl(EPOLL_CTL_DEL) failed: " ++ systemText code) called
          have hsame := Native.within_writeLog .warn Registration.loopTag
            ("epoll_ctl(EPOLL_CTL_DEL) failed: " ++ systemText code) called
          rw [Act.after_of_ok hlog] at hsame
          refine ⟨logged, table.erase key, Eq.trans hsame hboard, ?_⟩
          rw [Act.after_bind_of_ok hlog]
          rfl

theorem obliging_removeEntry {key : Nat} {native : Native} (h : native.board.Obliging) :
    ((Registration.removeEntry loop key).after native).board.Obliging := by
  rcases after_removeEntry loop key native with hsame | ⟨called, table, hboard, hafter⟩
  · rw [hsame]
    exact h
  · rw [hafter]
    exact h.tail (congrArg Board.answers hboard)

/-- The event loops that are there are still there. -/
theorem isSome_loop?_removeEntry {other : LoopId} {key : Nat} {native : Native}
    (h : (native.loop? other).isSome) :
    (((Registration.removeEntry loop key).after native).loop? other).isSome := by
  rcases after_removeEntry loop key native with hsame | ⟨called, table, hboard, hafter⟩
  · rw [hsame]
    exact h
  · have hloops : called.loops = native.loops := congrArg Board.loops hboard
    rw [hafter]
    show ((called.loops.set loop (some table))[other]?).join.isSome
    rw [hloops, List.getElem?_set]
    by_cases hother : loop = other
    · subst hother
      by_cases hlength : loop < native.loops.length
      · simp [hlength]
      · rw [Native.loop?, List.getElem?_eq_none (Nat.not_lt.mp hlength)] at h
        cases h
    · rw [if_neg hother]
      exact h

/-- Taking a channel away leaves it as it is, or leaves it without registration. -/
theorem after_deregister (loop : LoopId)
    (hstation : transport.stations.get? name = some station) :
    (deregister loop name).after transport = transport ∨
      ∃ key, (deregister loop name).after transport =
        (Transport.putBack ((transport.takeOut name station).withChannel
          { station.channel with registration := none }) name).withNative
            ((Registration.removeEntry loop key).after transport.host.native) := by
  unfold deregister
  rw [Act.after_bind_of_ok (EStateM.run_get transport)]
  cases hentry : (transport.host.native.loop? loop).bind (·.findChannel? name) with
  | none => exact .inl rfl
  | some entry =>
    right
    refine ⟨entry.id, ?_⟩
    have hdetach : (Channel.setRegistration none : StationAct ω Unit).run
        (transport.takeOut name station) = .ok () ((transport.takeOut name station).withChannel
          { station.channel with registration := none }) := rfl
    have hattach := (run_attach hstation none).trans
      (Transport.run_on hstation (Channel.setRegistration none))
    rw [hdetach] at hattach
    dsimp only
    rw [Act.after_bind_of_ok hattach, Transport.after_lift_native]
    rfl

end EventLoop

/-! ## Runs with event loops -/

/-- A channel that is attached to nothing, in a system that refuses no change. -/
structure Idle (stance : Stance) : Prop where
  detached : stance.registration = none
  isOpen : stance.isOpen = true
  awake : stance.suspended = false
  obliging : stance.board.Obliging

/-- A channel that is detached, or registered with an event loop and in tune with it but for
requests to read. -/
inductive Poised (stance : Stance) : Prop where
  | idle (h : Idle stance)
  | registered (loop : LoopId) (key : Nat) (h : InTune (.entry loop key) False True stance)

namespace EventLoop

variable {ω : Type} {name : String} {transport : Transport ω} {station : Station}

/-- What the user of a channel does with it and with event loops. -/
inductive LoopOp (ω : Type) where
  | channel (op : Channel.InterestOp ChannelEndpoint (Elsewhere ω))
  | attach (loop : LoopId)
  | detach (loop : LoopId)

namespace LoopOp

/-- Performs an operation on the channel of a name. -/
def run (name : String) : LoopOp ω → TransportAct ω Unit
  | channel op => Transport.on name op.run
  | attach loop => register loop name
  | detach loop => deregister loop name

/-- The handler of a burst keeps to what is permitted. -/
def Mannered : LoopOp ω → Prop
  | channel op => op.Mannered
  | _ => True

end LoopOp

/-- Performs operations one after the other; what one fails with stops none of the others. -/
def runLoop (name : String) : List (LoopOp ω) → Transport ω → Transport ω
  | [], transport => transport
  | op :: ops, transport => runLoop name ops ((op.run name).after transport)

theorem poised_channel {op : Channel.InterestOp ChannelEndpoint (Elsewhere ω)}
    (hmannered : op.Mannered) (hstation : transport.stations.get? name = some station)
    (h : Poised (transport.stance name station)) :
    ∃ station', ((Transport.on name op.run).after transport).stations.get? name = some station' ∧
      Poised (((Transport.on name op.run).after transport).stance name station') := by
  rw [Transport.after_on hstation]
  refine ⟨_, Transport.get?_putBack _ name, ?_⟩
  cases h with
  | idle h =>
    have hbare := Channel.InterestOp.adrift hmannered (transport.takeOut name station) h.detached
    simp only [Channel.bare, Prod.mk.injEq] at hbare
    obtain ⟨hregistration, hsuspended, hopen, hboard⟩ := hbare
    exact .idle
      { detached := hregistration.trans h.detached
        isOpen := hopen.trans h.isOpen
        awake := hsuspended.trans h.awake
        obliging := by
          intro answer hmem
          exact h.obliging answer (congrArg Board.answers hboard ▸ hmem) }
  | registered loop key h =>
    exact .registered loop key
      (Channel.InterestOp.tuned hmannered (transport.takeOut name station) h)

theorem poised_register (loop : LoopId) (hstation : transport.stations.get? name = some station)
    (h : Poised (transport.stance name station)) :
    ∃ station', ((register loop name).after transport).stations.get? name = some station' ∧
      Poised (((register loop name).after transport).stance name station') := by
  cases h with
  | idle h =>
    cases htable : transport.host.native.loop? loop with
    | none =>
      have hnothing : (register loop name).after transport = transport := by
        unfold register
        rw [Act.after_bind_of_ok (Transport.run_station hstation),
          if_neg (by simp [show Endpoint.isOpen station.endpoint = true from h.isOpen]),
          if_neg (by simp [Channel.isRegistered,
            show station.channel.registration = none from h.detached]),
          Act.after_bind_of_ok (EStateM.run_get transport)]
        simp only [htable]
        rfl
      rw [hnothing]
      exact ⟨station, hstation, .idle h⟩
    | some table =>
      rcases run_register hstation h.isOpen h.detached htable with
        ⟨reached, station', hrun, hthere, hjoined⟩ | ⟨hrefused, _⟩
      · rw [Act.after_of_ok hrun]
        exact ⟨station', hthere, .registered loop table.nextId
          (hjoined.inTune h.awake h.obliging)⟩
      · exact absurd h.obliging hrefused
  | registered other key h =>
    -- A channel is registered once only.
    have hrefused : (register loop name).after transport = transport := by
      unfold register
      rw [Act.after_bind_of_ok (Transport.run_station hstation),
        if_neg (by simp [show Endpoint.isOpen station.endpoint = true from h.isOpen]),
        if_pos (by simp [Channel.isRegistered,
          show station.channel.registration = _ from h.attached])]
      rfl
    rw [hrefused]
    exact ⟨station, hstation, .registered other key h⟩

theorem poised_deregister (loop : LoopId) (hstation : transport.stations.get? name = some station)
    (h : Poised (transport.stance name station)) :
    ∃ station', ((deregister loop name).after transport).stations.get? name = some station' ∧
      Poised (((deregister loop name).after transport).stance name station') := by
  rcases after_deregister loop hstation with hsame | ⟨key, hafter⟩
  · rw [hsame]
    exact ⟨station, hstation, h⟩
  · rw [hafter]
    refine ⟨_, Transport.get?_putBack _ name, .idle ?_⟩
    cases h with
    | idle h =>
      exact ⟨rfl, h.isOpen, h.awake, obliging_removeEntry h.obliging⟩
    | registered other key h =>
      exact ⟨rfl, h.isOpen, h.awake, obliging_removeEntry h.obliging⟩

/-- Along any run the channel stays where it is, and poised. -/
theorem poised_runLoop {ops : List (LoopOp ω)} (hmannered : ∀ op ∈ ops, op.Mannered)
    (hstation : transport.stations.get? name = some station)
    (h : Poised (transport.stance name station)) :
    ∃ station', (runLoop name ops transport).stations.get? name = some station' ∧
      Poised ((runLoop name ops transport).stance name station') := by
  induction ops generalizing transport station with
  | nil => exact ⟨station, hstation, h⟩
  | cons op ops ih =>
    have hrest : ∀ other ∈ ops, other.Mannered := fun other hmem =>
      hmannered other (List.mem_cons_of_mem _ hmem)
    have hop : ∃ station', ((op.run name).after transport).stations.get? name = some station' ∧
        Poised (((op.run name).after transport).stance name station') := by
      cases op with
      | channel op =>
        have hthis : op.Mannered := hmannered (.channel op) List.mem_cons_self
        exact poised_channel hthis hstation h
      | attach loop => exact poised_register loop hstation h
      | detach loop => exact poised_deregister loop hstation h
    obtain ⟨station', hthere, hpoised⟩ := hop
    exact ih hrest hthere hpoised

/-! ## What a registration finds -/

/-- A channel that is in tune, without a request to read outstanding and with nothing queued, waits
to read exactly if it does so by itself, and does not wait to write. -/
theorem waits_of_inTune {registration : Registration} {stance : Stance}
    (h : InTune registration False True stance)
    (hasked : stance.autoRead = true ∨ stance.readPending = false) (hqueue : stance.pending = []) :
    stance.waits registration .reading = stance.autoRead ∧
      stance.waits registration .writing = false := by
  constructor
  · cases hwaits : stance.waits registration .reading with
    | true =>
      rcases h.settled trivial hwaits with hauto | hpending
      · exact hauto.symm
      · rcases hasked with hauto | hnone
        · exact hauto.symm
        · exact absurd (hnone.symm.trans hpending) Bool.false_ne_true
    | false =>
      cases hauto : stance.autoRead with
      | true => exact absurd (hwaits.symm.trans (h.autoRead hauto)) Bool.false_ne_true
      | false => rfl
  · cases hwaits : stance.waits registration .writing with
    | true => exact absurd hqueue (h.writing hwaits)
    | false => rfl

/-- Taking a channel away and registering it again leaves its interest as it was, provided that no
request to read is outstanding and nothing is queued. -/
theorem waits_reregistered {before loop : LoopId} {key : Nat} {transport' : Transport ω}
    (hstation : transport.stations.get? name = some station)
    (htuned : InTune (.entry before key) False True (transport.stance name station))
    (hasked : station.channel.config.autoRead = true ∨ station.channel.readPending = false)
    (hqueue : station.channel.pending = [])
    (hloop : (transport.host.native.loop? loop).isSome)
    (h : (deregister before name >>= fun _ => register loop name).run transport =
      .ok () transport') :
    ∃ station' key', transport'.stations.get? name = some station' ∧
      station'.channel.registration = some (.entry loop key') ∧
      ∀ readiness, (transport'.stance name station').waits (.entry loop key') readiness =
        (transport.stance name station).waits (.entry before key) readiness := by
  obtain ⟨_, middle, hderegister, hregister⟩ := Act.bind_ok_iff.mp h
  have hafter := after_deregister before hstation
  rw [Act.after_of_ok hderegister] at hafter
  obtain ⟨free, hfree, _, hdetached⟩ := free_of_register hregister
  rcases hafter with hsame | ⟨entry, hmiddle⟩
  · -- A channel that is still registered could not have been registered again.
    rw [hsame, hstation] at hfree
    cases hfree
    exact absurd (hdetached.symm.trans htuned.attached) (by simp)
  · have hthere : (middle.host.native.loop? loop).isSome := by
      rw [hmiddle]
      exact isSome_loop?_removeEntry hloop
    obtain ⟨taken, station', key', htaken, _, hstation', hjoined⟩ :=
      joined_of_register hthere hregister
    have hput : middle.stations.get? name =
        some ⟨{ station.channel with registration := none }, station.endpoint⟩ := by
      rw [hmiddle]
      exact Transport.get?_putBack _ name
    rw [hput] at htaken
    cases htaken
    obtain ⟨hreading, hwriting⟩ := waits_of_inTune htuned hasked hqueue
    refine ⟨station', key', hstation', hjoined.attached, fun readiness => ?_⟩
    cases readiness with
    | reading => exact (hjoined.reading.trans hjoined.autoRead).trans hreading.symm
    | writing => exact hjoined.writing.trans hwriting.symm

/-- **What a registration brings back.** Whatever was done with a channel and with event loops
before, a registration that succeeds leaves the channel waiting to read exactly if it reads by
itself, and never waiting to write, though a request to read may be outstanding and messages may be
queued from before. So to take the channel away from its event loop and to register it again leaves
its interest as it was, provided that it reads by itself or no request to read is outstanding, and
that nothing is queued. -/
theorem waits_runLoop {ops : List (LoopOp ω)} (hmannered : ∀ op ∈ ops, op.Mannered)
    (hstation : transport.stations.get? name = some station)
    (hpoised : Poised (transport.stance name station)) {loop : LoopId}
    (hloop : ((runLoop name ops transport).host.native.loop? loop).isSome) :
    let reached := runLoop name ops transport
    (∀ transport', (register loop name).run reached = .ok () transport' →
      ∃ there station' key, reached.stations.get? name = some there ∧
        transport'.stations.get? name = some station' ∧
        station'.channel.registration = some (.entry loop key) ∧
        station'.channel.pending = there.channel.pending ∧
        (there.channel.readPending = true → station'.channel.readPending = true) ∧
        ((transport'.stance name station').waits (.entry loop key) .reading = true ↔
          station'.channel.config.autoRead = true) ∧
        (transport'.stance name station').waits (.entry loop key) .writing = false) ∧
      ∀ there before key, reached.stations.get? name = some there →
        there.channel.registration = some (.entry before key) →
        (there.channel.config.autoRead = true ∨ there.channel.readPending = false) →
        there.channel.pending = [] →
        ∀ transport', (deregister before name >>= fun _ => register loop name).run reached =
            .ok () transport' →
          ∃ station' key', transport'.stations.get? name = some station' ∧
            station'.channel.registration = some (.entry loop key') ∧
            ∀ readiness, (transport'.stance name station').waits (.entry loop key') readiness =
              (reached.stance name there).waits (.entry before key) readiness := by
  intro reached
  constructor
  · intro transport' h
    obtain ⟨there, station', key, hthere, -, hstation', hjoined⟩ := joined_of_register hloop h
    refine ⟨there, station', key, hthere, hstation', hjoined.attached, hjoined.pending,
      hjoined.asked, ?_, hjoined.writing⟩
    rw [hjoined.reading]
    rfl
  · intro there before key hthere hregistered hasked hqueue transport' h
    obtain ⟨station', hstation', hreached⟩ := poised_runLoop hmannered hstation hpoised
    have hsame : some station' = some there := hstation'.symm.trans hthere
    cases hsame
    -- A channel with a registration cannot be idle, so it was registered and in tune.
    cases hreached with
    | idle hidle => exact absurd (hidle.detached.symm.trans hregistered) (by simp)
    | registered other number htuned =>
      have hentry : some (Registration.entry other number) = some (.entry before key) :=
        htuned.attached.symm.trans hregistered
      cases hentry
      exact waits_reregistered hthere htuned hasked hqueue hloop h

/-- A detached channel in memory beside an event loop. -/
def besideLoop (autoRead : Bool) : Transport Unit where
  host := { native := { loops := [some { set := 3, maxEvents := 1 }] } }
  stations := Named.empty.put "a"
    ⟨{ name := "a", config := { allocator := 0, policy := 0, autoRead := autoRead } },
      .memory { channel := "a" }⟩
  outside := ()

/-- A channel that reads by itself is registered, asked for a burst, taken away and registered
again. -/
theorem waits_runLoop_registered_twice :
    let reached := runLoop "a" [.attach 0, .channel .read] (besideLoop true)
    let registered := (deregister 0 "a" >>= fun _ => register 0 "a").after reached
    ∃ station station' key, reached.stations.get? "a" = some station ∧
      registered.stations.get? "a" = some station' ∧
      station'.channel.registration = some (.entry 0 key) ∧
      ∀ readiness, (registered.stance "a" station').waits (.entry 0 key) readiness =
        (reached.stance "a" station).waits (.entry 0 1) readiness := by
  intro reached registered
  let there : Station :=
    ⟨{ name := "a", config := { allocator := 0, policy := 0 }
       registration := some (.entry 0 1), readPending := true }, .memory { channel := "a" }⟩
  have hidle : Poised ((besideLoop true).stance "a"
      ⟨{ name := "a", config := { allocator := 0, policy := 0 } },
        .memory { channel := "a" }⟩) := by
    refine .idle ⟨rfl, rfl, rfl, ?_⟩
    intro answer hmem
    cases hmem
  have hops : ∀ op ∈ ([.attach 0, .channel .read] : List (LoopOp Unit)), op.Mannered := by
    intro op hmem
    rcases List.mem_cons.mp hmem with rfl | hmem
    · trivial
    · rw [List.mem_singleton.mp hmem]
      trivial
  have hloop : (reached.host.native.loop? 0).isSome := by decide +kernel
  have hthere : reached.stations.get? "a" = some there := by decide +kernel
  have hagain : (deregister 0 "a" >>= fun _ => register 0 "a").result reached = .ok () := by
    decide +kernel
  obtain ⟨station', key, hstation', hregistered, hwaits⟩ :=
    (waits_runLoop hops (by decide +kernel) hidle hloop).2 there 0 1 hthere rfl (.inl rfl) rfl
      registered (Act.run_of_result hagain)
  exact ⟨there, station', key, hthere, hstation', hregistered, hwaits⟩

/-- A request to read that is made while nobody listens is still outstanding after the registration,
but the channel does not wait to read. -/
theorem register_forgets_read :
    let reached := runLoop "a" [.channel .read] (besideLoop false)
    let registered := (register 0 "a").after reached
    (register 0 "a").result reached = .ok () ∧
      ∃ station, registered.stations.get? "a" = some station ∧
        station.channel.registration = some (.entry 0 1) ∧
        ¬ ((registered.stance "a" station).waits (.entry 0 1) .reading = true ↔
          station.channel.config.autoRead = true ∨ station.channel.readPending = true) := by
  intro reached registered
  let there : Station :=
    ⟨{ name := "a", config := { allocator := 0, policy := 0, autoRead := false }
       registration := some (.entry 0 1), readPending := true }, .memory { channel := "a" }⟩
  exact ⟨by decide +kernel, there, by decide +kernel, rfl, by decide +kernel⟩

/-- A message that a flush leaves in the queue while nobody listens is still there after the
registration, but the channel does not wait to write. -/
theorem register_forgets_write :
    let message : Message :=
      .buffer (.ofComponents [{ Component.borrow 0 [1, 2] with kind := .direct }])
    let refusing : Transport Unit :=
      { besideLoop false with
        stations := Named.empty.put "a"
          ⟨{ name := "a", config := { allocator := 0, policy := 0, autoRead := false } },
            .memory { channel := "a", accept := 0 }⟩ }
    let reached := runLoop "a" [.channel (.writeAndFlush message)] refusing
    let registered := (register 0 "a").after reached
    (register 0 "a").result reached = .ok () ∧
      ∃ station, registered.stations.get? "a" = some station ∧
        station.channel.registration = some (.entry 0 1) ∧
        station.channel.pending.isEmpty = false ∧
        (registered.stance "a" station).waits (.entry 0 1) .writing = false := by
  intro message refusing reached registered
  exact ⟨by decide +kernel, (registered.stations.get? "a").get (by decide +kernel),
    (Option.some_get _).symm, by decide +kernel, by decide +kernel, by decide +kernel⟩

end EventLoop

end UdpTransport
