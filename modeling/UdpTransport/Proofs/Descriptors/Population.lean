import UdpTransport.Proofs.Descriptors.Sockets
import UdpTransport.Proofs.Memory.Bench
import UdpTransport.Proofs.Names
import UdpTransport.Scenario.Sockets

/-!
# Every descriptor has one owner

Sockets are moved onto each other, bound, connected, disconnected, closed and destroyed, in any
order and under any names, and each system call on the way may fail. What they hold together is the
sum of what each of them holds (`heldIn`), and each step spends it (`World.manages_performSocket`):
a socket that is moved away leaves nothing behind, and one that is replaced is closed first.

**The main result is `World.orderly_handleAll`.** If the sockets hold different descriptors at
first, then after any steps they still do, each of their descriptors is either held by one of them
or was closed once, and no call was about a descriptor that was closed before.
-/

namespace UdpTransport.Scenario

/-- What happens to a socket between being made and being gone. -/
def SocketStep.OfLife : SocketStep → Prop
  | .drop | .moveNew _ | .move _ | .bind _ | .connect _ | .disconnect | .close => True
  | _ => False

/-! ## What sockets hold together -/

/-- The descriptors that sockets hold. -/
def heldIn (sockets : Named Socket) : Multiset Int := sockets.sum Socket.held

/-- Every one of the sockets is sound. -/
def AllSound (sockets : Named Socket) : Prop :=
  ∀ ⦃name socket⦄, sockets.get? name = some socket → socket.Sound

section Sockets

variable {sockets : Named Socket} {name : String} {socket : Socket}

theorem heldIn_erase (h : sockets.get? name = some socket) :
    heldIn sockets = socket.held + heldIn (sockets.erase name) := Named.sum_erase _ h

theorem heldIn_put (sockets : Named Socket) (name : String) (socket : Socket) :
    heldIn (sockets.put name socket) = socket.held + heldIn (sockets.erase name) :=
  Named.sum_put _ sockets name socket

/-- To take a descriptor out of a socket takes it out of the sum. -/
theorem heldIn_vacate (h : sockets.get? name = some socket) :
    heldIn sockets = socket.held + heldIn (sockets.put name socket.vacated) := by
  rw [heldIn_put, heldIn_erase h, Socket.held_vacated, zero_add]

theorem AllSound.put (h : AllSound sockets) (hsocket : socket.Sound) :
    AllSound (sockets.put name socket) := by
  intro other found hfound
  by_cases same : other = name
  · subst same
    rw [Named.get?_put_self] at hfound
    cases hfound
    exact hsocket
  · rw [Named.get?_put_of_ne _ same] at hfound
    exact h hfound

theorem AllSound.erase (h : AllSound sockets) (name : String) : AllSound (sockets.erase name) := by
  intro other found hfound
  by_cases same : other = name
  · subst same
    rw [Named.get?_erase_self] at hfound
    cases hfound
  · rw [Named.get?_erase_of_ne _ same] at hfound
    exact h hfound

/-- Sockets under different names hold different descriptors, if none is held twice. -/
theorem fd_ne_of_nodup (hdistinct : (heldIn sockets).Nodup) {other : String} {twin : Socket}
    (hname : name ≠ other) (hsocket : sockets.get? name = some socket)
    (htwin : sockets.get? other = some twin) (hopen : socket.isOpen = true)
    (hopen' : twin.isOpen = true) : socket.fd ≠ twin.fd := by
  have htwin' : (sockets.erase name).get? other = some twin := by
    rw [Named.get?_erase_of_ne _ (Ne.symm hname), htwin]
  rw [heldIn_erase hsocket, heldIn_erase htwin', Socket.held_of_open hopen,
    Socket.held_of_open hopen'] at hdistinct
  obtain ⟨_, _, hapart⟩ := Multiset.nodup_add.mp hdistinct
  intro hsame
  refine Multiset.disjoint_left.mp hapart (Multiset.mem_singleton_self _) ?_
  exact Multiset.mem_add.mpr (.inl (Multiset.mem_singleton.mpr hsame))

end Sockets

namespace World

variable {α : Type}

/-- Sound sockets stay sound, and what they hold together is spent. -/
def Manages (world world' : World) : Prop :=
  AllSound world.outside.sockets →
    AllSound world'.outside.sockets ∧
      Native.Passes (heldIn world.outside.sockets) (heldIn world'.outside.sockets)
        world.host.native world'.host.native

instance : IsPreorder World Manages where
  refl world := fun hsound => ⟨hsound, refl_of Native.Aside world.host.native _⟩
  trans _ _ _ first later := fun hsound =>
    let ⟨hmiddle, hpasses⟩ := first hsound
    let ⟨hend, hpasses'⟩ := later hmiddle
    ⟨hend, hpasses.trans hpasses'⟩

/-! ## Steps -/

theorem within_manages_find (name : String) :
    Act.Within Manages (find Bench.sockets name) :=
  Act.within_of_after (after_find Bench.sockets name)

/-- The world with other sockets, after something happened on the native side. -/
def withSockets (world : World) (sockets : Named Socket) (native : Native) : World :=
  { world with
    host := { world.host with native := native }
    outside := { world.outside with sockets := sockets } }

/-- A socket that something was done to is put back. -/
theorem after_bind_setSocket {run : Act Native (Except Fault α × Socket)} {world : World}
    {name : String} {socket : Socket} {native : Native} {r : Except Fault α}
    (h : run.run world.host.native = .ok (r, socket) native) :
    Act.after (do
      let given ← (liftM run : WorldAct (Except Fault α × Socket))
      setSocket name given.2
      Act.ofExcept given.1) world =
        world.withSockets (world.outside.sockets.put name socket) native := by
  rw [Act.after_bind_of_ok (Transport.lift_native_ok h)]
  cases r <;> rfl

/-- An operation on a socket changes that socket and the native side. -/
theorem after_onSocket {world : World} {name : String} {socket : Socket} (act : SocketAct α)
    (h : world.outside.sockets.get? name = some socket) :
    (onSocket name act).after world =
      world.withSockets
        (world.outside.sockets.put name (act.after (socket, world.host.native)).1)
        (act.after (socket, world.host.native)).2 := by
  unfold onSocket
  rw [Act.after_bind_of_ok (run_find_some h)]
  refine after_bind_setSocket (r := act.result (socket, world.host.native)) ?_
  simp only [EStateM.run, Act.result, Act.after]
  cases act (socket, world.host.native) <;> rfl

/-- An operation on a socket spends what that socket holds. -/
theorem within_manages_onSocket {act : SocketAct α} (h : Act.Within Socket.Handles act)
    (name : String) : Act.Within Manages (onSocket name act) := by
  intro world hsound
  cases hfound : world.outside.sockets.get? name with
  | none =>
    have hrun : (onSocket name act).run world = .error (.noObject name) world :=
      Act.bind_of_error (run_find_none hfound)
    rw [Act.after_of_error hrun]
    exact refl_of Manages world hsound
  | some socket =>
    obtain ⟨hsound', hpasses⟩ := h (socket, world.host.native) (hsound hfound)
    rw [after_onSocket act hfound]
    refine ⟨hsound.put hsound', ?_⟩
    show Native.Passes _ (heldIn (world.outside.sockets.put name _)) _ _
    rw [heldIn_erase hfound, heldIn_put]
    exact hpasses.frame _

theorem within_manages_plainly {act : SocketAct Unit} (h : Act.Within Socket.Handles act)
    (name : String) : Act.Within Manages (plainly name act) :=
  Act.within_bind (within_manages_onSocket h name) fun _ => Act.within_pure _

/-- A socket is moved away from its name, if there is one. -/
theorem run_takeSocket {world : World} {name : String} {socket : Socket}
    (h : world.outside.sockets.get? name = some socket) :
    (takeSocket name).run world = .ok socket
      (world.withSockets (world.outside.sockets.put name socket.vacated) world.host.native) := by
  unfold takeSocket
  rw [Act.bind_of_ok (run_find_some h)]
  rfl

theorem after_storeSocket (name : String) (socket : Socket) (world : World) :
    (storeSocket name socket).after world =
      world.withSockets (world.outside.sockets.put name socket)
        (match world.outside.sockets.get? name with
          | some before => before.drop.after world.host.native
          | none => world.host.native) := by
  have hbench : bench.run world = .ok world.outside world := rfl
  have hput : (setSocket name socket).run world =
      .ok () (world.withSockets (world.outside.sockets.put name socket) world.host.native) := rfl
  unfold storeSocket
  rw [Act.after_bind_of_ok hbench, Act.after_bind_of_ok hput]
  cases world.outside.sockets.get? name with
  | none => rfl
  | some before => exact Transport.after_lift_native before.drop _

/-- A socket that is stored is closed after that which it replaces. -/
theorem passes_storeSocket (name : String) (socket : Socket) (world : World) :
    Native.Passes (socket.held + heldIn world.outside.sockets)
      (heldIn ((storeSocket name socket).after world).outside.sockets) world.host.native
      ((storeSocket name socket).after world).host.native := by
  rw [after_storeSocket]
  show Native.Passes _ (heldIn (world.outside.sockets.put name socket)) _ _
  rw [heldIn_put]
  cases hbefore : world.outside.sockets.get? name with
  | none =>
    rw [Named.erase_of_none hbefore]
    exact refl_of Native.Aside world.host.native _
  | some before =>
    have hpasses := (Native.passes_drop before world.host.native).frame
      (socket.held + heldIn (world.outside.sockets.erase name))
    rw [zero_add, add_left_comm, ← heldIn_erase hbefore] at hpasses
    exact hpasses

/-- **A socket moved to a new place** leaves nothing behind, also if that is its own. -/
theorem within_manages_moveNew (name source : String) :
    Act.Within Manages (takeSocket source >>= storeSocket name) := by
  intro world hsound
  cases hfound : world.outside.sockets.get? source with
  | none =>
    have hrun : (takeSocket source >>= storeSocket name).run world =
      .error (.noObject source) world :=
      Act.bind_of_error (Act.bind_of_error (run_find_none hfound))
    rw [Act.after_of_error hrun]
    exact refl_of Manages world hsound
  | some socket =>
    rw [Act.after_bind_of_ok (run_takeSocket hfound)]
    constructor
    · rw [after_storeSocket]
      exact (hsound.put socket.sound_vacated).put (hsound hfound)
    · rw [heldIn_vacate hfound]
      exact passes_storeSocket name socket _

/-- **A socket moved onto another one** closes that one first. -/
theorem manages_move {world : World} {name source : String} {socket before : Socket}
    (hname : name ≠ source) (hsource : world.outside.sockets.get? source = some socket)
    (hbefore : world.outside.sockets.get? name = some before) :
    Manages world (world.withSockets
      ((world.outside.sockets.put source socket.vacated).put name socket)
      (before.vacate.after world.host.native)) := by
  intro hsound
  refine ⟨(hsound.put socket.sound_vacated).put (hsound hsource), ?_⟩
  have hbefore' : (world.outside.sockets.put source socket.vacated).get? name = some before := by
    rw [Named.get?_put_of_ne _ hname, hbefore]
  have hpasses := (Native.passes_vacate before world.host.native).frame (socket.held +
    heldIn ((world.outside.sockets.put source socket.vacated).erase name))
  rw [zero_add, add_left_comm, ← heldIn_erase hbefore', ← heldIn_vacate hsource,
    ← heldIn_put] at hpasses
  exact hpasses

theorem within_manages_socketReply (name : String) {step : SocketStep} (h : step.OfLife) :
    Act.Within Manages (socketReply name step) := by
  cases step with
  | moveNew source =>
    show Act.Within Manages
      (takeSocket source >>= fun moved => storeSocket name moved >>= fun _ => _)
    rw [← bind_assoc]
    exact Act.within_bind (within_manages_moveNew name source) fun _ => Act.within_pure _
  | move source =>
    intro world
    cases hsource : world.outside.sockets.get? source with
    | none =>
      have hrun : (socketReply name (.move source)).run world = .error (.noObject source) world :=
        Act.bind_of_error (run_find_none hsource)
      rw [Act.after_of_error hrun]
      exact refl_of Manages world
    | some socket =>
      show Manages world (Act.after (find Bench.sockets source >>= fun _ => _) world)
      rw [Act.after_bind_of_ok (run_find_some hsource)]
      cases hbefore : world.outside.sockets.get? name with
      | none =>
        rw [Act.after_of_error (Act.bind_of_error (run_find_none hbefore))]
        exact refl_of Manages world
      | some before =>
        rw [Act.after_bind_of_ok (run_find_some hbefore)]
        -- A move onto itself does nothing. Any other closes what the name held before it takes the
        -- socket.
        by_cases hname : name = source
        · rw [if_neg (not_not.mpr hname)]
          exact refl_of Manages world
        · have hvacate : before.vacate.run world.host.native =
              .ok () (before.vacate.after world.host.native) := by
            obtain ⟨_, native, hrun⟩ := before.succeeds_vacate world.host.native
            rw [Act.after_of_ok hrun, hrun]
          have htake : (takeSocket source).run
              (world.withNative (before.vacate.after world.host.native)) = .ok socket _ :=
            run_takeSocket hsource
          rw [if_pos hname, Act.after_bind_of_ok (Transport.lift_native_ok hvacate),
            Act.after_bind_of_ok htake]
          exact manages_move hname hsource hbefore
  | bind address =>
    refine Act.within_bind (within_manages_find name) fun _ => ?_
    exact Act.within_bind (Act.within_ofExcept _) fun _ =>
      within_manages_plainly (Socket.handles_bind _) name
  | connect address =>
    refine Act.within_bind (within_manages_find name) fun _ => ?_
    exact Act.within_bind (Act.within_ofExcept _) fun _ =>
      within_manages_plainly (Socket.handles_connect _) name
  | disconnect => exact within_manages_plainly Socket.handles_disconnect name
  | close => exact within_manages_plainly Socket.handles_close name
  | drop => exact Act.within_pure _
  | _ => cases h

/-- What is left when the socket of a name is gone. -/
theorem after_performDrop (name : String) (world : World) :
    (performSocket name .drop).after world =
      world.withSockets (world.outside.sockets.erase name)
        (match world.outside.sockets.get? name with
          | some socket => socket.drop.after world.host.native
          | none => world.host.native) := by
  have hbench : bench.run world = .ok world.outside world := rfl
  have herase : (arrange fun bench =>
    { bench with sockets := bench.sockets.erase name }).run world =
      .ok () (world.withSockets (world.outside.sockets.erase name) world.host.native) := rfl
  refine (Act.after_bind_of_ok hbench).trans ((Act.after_bind_of_ok herase).trans ?_)
  cases world.outside.sockets.get? name with
  | none => rfl
  | some socket =>
    obtain ⟨_, native, hdrop⟩ := socket.succeeds_drop world.host.native
    have hlift : (liftM socket.drop : WorldAct Unit).run
        (world.withSockets (world.outside.sockets.erase name) world.host.native) =
        .ok () (world.withSockets (world.outside.sockets.erase name) native) :=
      Transport.lift_native_ok hdrop
    dsimp only
    rw [Act.after_bind_of_ok hlift, Act.after_of_ok hdrop]
    rfl

/-- A socket that is gone has closed its descriptor. -/
theorem manages_drop (name : String) :
    Act.Within Manages (performSocket name .drop) := by
  intro world hsound
  rw [after_performDrop]
  refine ⟨hsound.erase name, ?_⟩
  show Native.Passes _ (heldIn (world.outside.sockets.erase name)) _ _
  cases hfound : world.outside.sockets.get? name with
  | none =>
    rw [Named.erase_of_none hfound]
    exact refl_of Native.Aside world.host.native _
  | some socket =>
    rw [heldIn_erase hfound]
    have hpasses := (Native.passes_drop socket world.host.native).frame
      (heldIn (world.outside.sockets.erase name))
    rwa [zero_add] at hpasses

/-- **Each step spends what the sockets hold together**, failed or not. -/
theorem manages_performSocket (name : String) {step : SocketStep} (h : step.OfLife) :
    Act.Within Manages (performSocket name step) := by
  have hreply : Act.Within Manages (do
      let reply ← socketReply name step
      let socket ← find Bench.sockets name
      pure { reply with socket := some socket }) := by
    refine Act.within_bind (within_manages_socketReply name h) fun reply => ?_
    exact Act.within_bind (within_manages_find name) fun _ => Act.within_pure _
  cases step with
  | drop => exact manages_drop name
  | moveNew _ | move _ | bind _ | connect _ | disconnect | close => exact hreply
  | _ => cases h

/-! ## Runs -/

/-- Performs steps on sockets of some names, one after the other, also if some of them fail. -/
def handleAll (steps : List (String × SocketStep)) (world : World) : World :=
  steps.foldl (fun world step => (performSocket step.1 step.2).after world) world

theorem manages_handleAll {steps : List (String × SocketStep)} (h : ∀ step ∈ steps, step.2.OfLife)
    (world : World) : Manages world (handleAll steps world) := by
  induction steps generalizing world with
  | nil => exact refl_of Manages world
  | cons step rest ih =>
    obtain ⟨hstep, hrest⟩ := List.forall_mem_cons.mp h
    exact trans_of Manages (manages_performSocket step.1 hstep world) (ih hrest _)

/-- What can be said of the descriptors of sockets after something happened to these sockets. -/
structure Orderly (world reached : World) (events : List Event) : Prop where
  /-- These are the events of the meantime. -/
  happened : reached.host.native.journal.toList = world.host.native.journal.toList ++ events
  /-- Who is connected is bound, and who is bound is open. -/
  sound : AllSound reached.outside.sockets
  /-- Open sockets have descriptors of their own. -/
  apart : ∀ {name other socket twin}, name ≠ other →
    reached.outside.sockets.get? name = some socket →
    reached.outside.sockets.get? other = some twin →
    socket.isOpen = true → twin.isOpen = true → socket.fd ≠ twin.fd
  /-- No descriptor is closed twice. -/
  once : (closings events).Nodup
  /-- What was held is held still or was closed, and nothing else is held or was closed. -/
  accounted : ∀ fd, fd ∈ heldIn world.outside.sockets ↔
    fd ∈ heldIn reached.outside.sockets ∨ fd ∈ closings events
  /-- What is held was not closed. -/
  unclosed : ∀ fd ∈ heldIn reached.outside.sockets, fd ∉ closings events
  /-- Once there are no sockets any more, each of their descriptors was closed exactly once. -/
  ended : reached.outside.sockets.values = [] →
    ∀ fd ∈ heldIn world.outside.sockets, (closings events).count fd = 1
  /-- No call is about a descriptor that was closed before. -/
  quiet : events.Pairwise fun earlier later =>
    ∀ fd, earlier.closed? = some fd → fd ∉ later.descriptors

/-- **Every descriptor is closed at most once, and exactly once by the time that all sockets are
gone.** Sound sockets with different descriptors are moved, bound, connected, disconnected, closed
and destroyed in any order, and any system call may fail. -/
theorem orderly_handleAll (world : World) {steps : List (String × SocketStep)}
    (hsteps : ∀ step ∈ steps, step.2.OfLife) (hsound : AllSound world.outside.sockets)
    (hdistinct : (heldIn world.outside.sockets).Nodup) :
    ∃ events, Orderly world (handleAll steps world) events := by
  obtain ⟨hsound', events, hevents, hspends⟩ := manages_handleAll hsteps world hsound
  obtain ⟨hleft, honce, hunclosed⟩ := hspends.distinct hdistinct
  -- What was held is held still or was closed, counted with multiplicity.
  have haccounted : ∀ fd, fd ∈ heldIn world.outside.sockets ↔
      fd ∈ heldIn (handleAll steps world).outside.sockets ∨ fd ∈ closings events := by
    intro fd
    rw [hspends.balance, Multiset.mem_add, Multiset.mem_coe]
  refine ⟨events, ?_⟩
  constructor
  case happened => exact hevents
  case sound => exact hsound'
  case apart => exact fun hname hsocket htwin => fd_ne_of_nodup hleft hname hsocket htwin
  case once => exact honce
  case accounted => exact haccounted
  case unclosed => exact hunclosed
  case ended =>
    intro hnone fd hfd
    have hempty : heldIn (handleAll steps world).outside.sockets = 0 := by
      unfold heldIn Named.sum
      rw [hnone]
      rfl
    rw [haccounted, hempty] at hfd
    exact List.count_eq_one_of_mem honce (hfd.resolve_left (Multiset.notMem_zero fd))
  case quiet => exact hspends.quiet hdistinct

/-- Two sockets are moved onto each other and onto themselves, the first descriptor is not closed
without an error, and in the end both are gone. -/
theorem orderly_two_sockets :
    let world : World :=
      { host := { native := { kernel := { script := { close := [some (.failure 5)] } } } }
        outside :=
          { sockets := (Named.empty.put "a" ⟨3, 2, 0, false, false⟩).put "b"
              ⟨4, 2, 0, false, false⟩ } }
    let steps : List (String × SocketStep) :=
      [("a", .bind (.loopback 7 2)), ("b", .move "a"), ("b", .move "b"), ("c", .moveNew "b"),
        ("c", .disconnect), ("a", .close), ("a", .drop), ("b", .drop), ("c", .drop)]
    (handleAll steps world).outside.sockets.values = [] ∧
      closings (handleAll steps world).host.native.journal.toList = [4, 3] ∧
      ∃ events, Orderly world (handleAll steps world) events := by
  intro world steps
  refine ⟨by decide +kernel, by decide +kernel, orderly_handleAll world ?_ ?_ ?_⟩
  · simp [steps, SocketStep.OfLife]
  · have hnone : AllSound Named.empty := nofun
    exact (hnone.put (Socket.sound_fresh 3 2)).put (Socket.sound_fresh 4 2)
  · decide

end World

end UdpTransport.Scenario
