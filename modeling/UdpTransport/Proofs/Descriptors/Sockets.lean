import UdpTransport.Proofs.Descriptors.Trace
import UdpTransport.Proofs.Lifecycle.Refusal
import UdpTransport.Proofs.Transfers

/-!
# What a socket does with its descriptor

A socket holds the descriptor that it has, and none once it is closed (`Socket.held`). Between being
made and being closed its operations only use that descriptor: they are within `Socket.Works`, which
follows from the system calls that they make. Closing uses the descriptor up, whether or not the
system agrees (`Native.passes_drop`, `Socket.handles_close`).

Together, **each operation spends what the socket holds** (`Socket.Handles`), and a socket that was
connected only if bound, and bound only if open, still is (`Socket.Sound`).
-/

namespace UdpTransport

namespace SystemCall

/-- The call is about one descriptor and does not close it. -/
def Minds (fd : Int) (call : SystemCall) : Prop := call.descriptors = [fd] ∧ call ≠ .close fd

/-- A call that minds its descriptor closes nothing. -/
theorem Minds.stays {fd : Int} {call : SystemCall} (h : call.Minds fd) (answer : Answer Int) :
    (Event.call call answer).closed? = none := by
  obtain ⟨habout, hother⟩ := h
  cases call with
  | close other =>
    cases List.singleton_inj.mp habout
    exact absurd rfl hother
  | _ => rfl

end SystemCall

namespace Native

/-- Descriptors are spent on the way from one native side to a later one. -/
def Passes (held left : Multiset Int) (native native' : Native) : Prop :=
  ∃ events, native'.journal.toList = native.journal.toList ++ events ∧ Spends held events left

/-- What is left after the first stretch of a trace is what the second one spends. -/
theorem Passes.trans {held middle left : Multiset Int} {native native' native'' : Native}
    (first : Passes held middle native native') (later : Passes middle left native' native'') :
    Passes held left native native'' := by
  obtain ⟨events, hevents, hfirst⟩ := first
  obtain ⟨others, hothers, hlater⟩ := later
  exact ⟨events ++ others, by rw [hothers, hevents, List.append_assoc], hfirst.append hlater⟩

/-- Descriptors that nobody touches can be held besides. -/
theorem Passes.frame {held left : Multiset Int} {native native' : Native}
    (h : Passes held left native native') (rest : Multiset Int) :
    Passes (held + rest) (left + rest) native native' :=
  let ⟨events, hevents, hspends⟩ := h
  ⟨events, hevents, hspends.frame rest⟩

/-- One descriptor is used, and nothing is closed. -/
def Uses (fd : Int) (native native' : Native) : Prop :=
  ∃ events, native'.journal.toList = native.journal.toList ++ events ∧
    ∀ event ∈ events, event.closed? = none ∧ ∀ used ∈ event.descriptors, used = fd

instance (fd : Int) : IsPreorder Native (Uses fd) where
  refl native := ⟨[], (List.append_nil _).symm, nofun⟩
  trans := by
    rintro native _ _ ⟨events, hevents, hfirst⟩ ⟨others, hothers, hlater⟩
    refine ⟨events ++ others, by rw [hothers, hevents, List.append_assoc], fun event hevent => ?_⟩
    exact (List.mem_append.mp hevent).elim (hfirst event) (hlater event)

/-- To use a descriptor is to have it left. -/
theorem Uses.passes {fd : Int} {native native' : Native} (h : Uses fd native native') :
    Passes {fd} {fd} native native' := by
  obtain ⟨events, hevents, huses⟩ := h
  refine ⟨events, hevents, .of_uses fun event hevent =>
    ⟨(huses event hevent).1, fun used hused => ?_⟩⟩
  exact Multiset.mem_singleton.mpr ((huses event hevent).2 used hused)

/-- Whatever descriptors there are, none is used. -/
def Aside (native native' : Native) : Prop := ∀ held, Passes held held native native'

instance : IsPreorder Native Aside where
  refl _ held := ⟨[], (List.append_nil _).symm, .nil held⟩
  trans _ _ _ first later held := (first held).trans (later held)

section Steps

variable {α : Type} {fd : Int}

/-- One system call uses the descriptor that it is about, whatever the answer is. -/
theorem within_uses_issue {call : SystemCall} (h : call.Minds fd) (result : α → Int)
    (run : Kernel → Answer α × Kernel) : Act.Within (Uses fd) (issue call result run) := by
  intro native
  refine ⟨[.call call _], Array.toList_push, List.forall_mem_singleton.mpr ⟨h.stays _, ?_⟩⟩
  intro used hused
  exact List.mem_singleton.mp (h.1 ▸ hused)

/-- The same of a call that is made again after an interruption. -/
theorem within_uses_perform {call : SystemCall} (h : call.Minds fd) (result : α → Int)
    (run : Kernel → Answer α × Kernel) : Act.Within (Uses fd) (perform call result run) :=
  Act.within_bind (within_uses_issue h result run) fun _ =>
    Act.within_bind Act.within_get fun _ => Act.within_pure _

/-- And of one whose answer says itself whether it failed. -/
theorem within_uses_attempt {call : SystemCall} (h : call.Minds fd) (failed : Int → Bool)
    (run : Kernel → Answer Int × Kernel) : Act.Within (Uses fd) (attempt failed call run) :=
  Act.within_bind (within_uses_issue h id run) fun _ =>
    Act.within_bind Act.within_get fun _ => Act.within_pure _

/-- A line in the log uses none. -/
theorem within_uses_writeLog (level : Log.Level) (tag text : String) :
    Act.Within (Uses fd) (writeLog level tag text) := by
  refine within_writeLog_of (fun level tag text native => ?_) (fun native _ => ?_) level tag text
  · exact ⟨[.log level tag text], Array.toList_push, List.forall_mem_singleton.mpr ⟨rfl, nofun⟩⟩
  · exact refl_of (Uses fd) native

/-- It goes by whatever descriptors there are. -/
theorem within_aside_writeLog (level : Log.Level) (tag text : String) :
    Act.Within Aside (writeLog level tag text) := by
  refine within_writeLog_of (fun level tag text native => ?_) (fun native _ => ?_) level tag text
  · exact fun held => ⟨[.log level tag text], Array.toList_push, .use nofun rfl (.nil held)⟩
  · exact refl_of Aside native

/-- A descriptor that is closed is out of hand, whatever the system answers. -/
theorem passes_close (fd : Int) (held : Multiset Int) (native : Native) :
    Passes (fd ::ₘ held) held native (native.called (.close fd) id Kernel.close) :=
  ⟨[.call (.close fd) _], Array.toList_push, .close rfl (.nil held)⟩

end Steps

end Native

namespace Socket

/-- The descriptors that a socket holds. -/
def held (socket : Socket) : Multiset Int := if socket.isOpen then {socket.fd} else 0

/-- A socket is connected only if it is bound, and bound only if it is open. -/
structure Sound (socket : Socket) : Prop where
  bound_of_connected : socket.connected = true → socket.bound = true
  open_of_bound : socket.bound = true → socket.isOpen = true

/-- An open socket holds its descriptor. -/
theorem held_of_open {socket : Socket} (h : socket.isOpen = true) : socket.held = {socket.fd} :=
  if_pos h

/-- A closed one holds nothing. -/
theorem held_of_closed {socket : Socket} (h : socket.isOpen = false) : socket.held = 0 := by
  simp [held, h]

/-- A socket that was moved away from holds nothing. -/
@[simp] theorem held_vacated (socket : Socket) : socket.vacated.held = 0 := rfl

/-- Being neither bound nor connected, it is sound. -/
theorem sound_vacated (socket : Socket) : socket.vacated.Sound := ⟨nofun, nofun⟩

/-- So is a new socket. -/
theorem sound_fresh (fd : Int) (family : Nat) : Sound ⟨fd, family, 0, false, false⟩ :=
  ⟨nofun, nofun⟩

/-- A socket is open exactly if its number is that of a descriptor. -/
theorem isOpen_iff {socket : Socket} : socket.isOpen = true ↔ socket.fd ≠ noDescriptor := by
  simp [isOpen]

/-! ## Work on a descriptor -/

/-- If the socket holds a descriptor, it still holds that one afterwards and did nothing but use it;
and it is as sound as before. -/
def Works (fd : Int) (s s' : Socket × Native) : Prop :=
  fd ≠ noDescriptor → s.1.fd = fd →
    s'.1.fd = fd ∧ (s.1.Sound → s'.1.Sound) ∧ Native.Uses fd s.2 s'.2

instance (fd : Int) : IsPreorder (Socket × Native) (Works fd) where
  refl s := fun _ hfd => ⟨hfd, id, refl_of (Native.Uses fd) s.2⟩
  trans _ _ _ first later := fun hvalid hfd =>
    let ⟨hfirst, hsound, huses⟩ := first hvalid hfd
    let ⟨hlater, hsound', huses'⟩ := later hvalid hfirst
    ⟨hlater, hsound' ∘ hsound, trans_of (Native.Uses fd) huses huses'⟩

section Works

variable {α β : Type} {fd : Int}

/-- What uses a descriptor and knows no socket works on it. -/
theorem within_works_lift {act : Act Native α} (h : Act.Within (Native.Uses fd) act) :
    Act.Within (Works fd) (liftM act : SocketAct α) := by
  intro s _ hfd
  rw [Channel.after_lift_plain]
  exact ⟨hfd, id, h s.2⟩

/-- What is known about a socket while it is open may change. -/
theorem within_works_change {f : Socket → Socket} (hfd : ∀ socket, (f socket).fd = socket.fd)
    (hsound : ∀ socket, socket.isOpen = true → socket.Sound → (f socket).Sound) :
    Act.Within (Works fd) (change f) := by
  intro s hvalid hheld
  have hopen : s.1.isOpen = true := isOpen_iff.mpr (hheld ▸ hvalid)
  exact ⟨(hfd s.1).trans hheld, hsound s.1 hopen, refl_of (Native.Uses fd) s.2⟩

/-- The socket that an operation works on has the descriptor in question. -/
theorem within_works_current {next : Socket → SocketAct α}
    (h : ∀ socket, socket.fd = fd → Act.Within (Works fd) (next socket)) :
    Act.Within (Works fd) (current >>= next) := by
  intro s hvalid hfd
  rw [Act.after_bind_of_ok (run_current s)]
  exact h s.1 hfd s hvalid hfd

/-- A check without a system call works on any descriptor. -/
theorem within_works_except (value : Except Fault α) :
    Act.Within (Works fd) (liftM value : SocketAct α) := Act.within_ofExcept value

end Works

/-! ## Options -/

/-- What a relation has to allow so that options can be asked for and changed within it, on the
descriptors that the socket at work may have. -/
structure Tolerates (R : Socket × Native → Socket × Native → Prop) (allowed : Int → Prop) :
    Prop where
  current : ∀ {α : Type} {next : Socket → SocketAct α},
    (∀ socket, allowed socket.fd → Act.Within R (next socket)) → Act.Within R (current >>= next)
  setOption : ∀ {fd}, allowed fd → ∀ level name value, Act.Within R
    (liftM (Native.attemptStatus (.setOption fd level name value)
      (Kernel.setOption fd level name value)) : SocketAct (Answer Int))
  getOption : ∀ {fd}, allowed fd → ∀ level name room, Act.Within R
    (liftM (Native.perform (.getOption fd level name) (fun _ => 0)
      (Kernel.getOption fd level name room)) : SocketAct (Answer Bytes))

/-- To make a fault of an answer changes nothing. -/
theorem after_orFail {α : Type} (name : String) (answer : Answer α) (s : Socket × Native) :
    (liftM (Native.orFail name answer) : SocketAct α).after s = s := by
  rw [Channel.after_lift_plain]
  cases answer <;> rfl

/-- To work on a descriptor is to be allowed its options. -/
theorem tolerates_works (fd : Int) : Tolerates (Works fd) (· = fd) where
  current := within_works_current
  setOption := by
    rintro _ rfl level name value
    exact within_works_lift (Native.within_uses_attempt (by exact ⟨rfl, nofun⟩) _ _)
  getOption := by
    rintro _ rfl level name room
    exact within_works_lift (Native.within_uses_perform (by exact ⟨rfl, nofun⟩) _ _)

namespace Tolerates

variable {α : Type} {R : Socket × Native → Socket × Native → Prop} [IsPreorder _ R]
  {allowed : Int → Prop}

/-- What first makes sure that its socket is open goes on with an allowed descriptor. -/
theorem within_requireOpen (h : Tolerates R allowed) {rule : Violation}
    {next : Socket → SocketAct α}
    (hnext : ∀ socket, allowed socket.fd → Act.Within R (next socket)) :
    Act.Within R (requireOpen rule >>= next) := by
  unfold requireOpen
  rw [bind_assoc]
  refine h.current fun socket hfd => ?_
  split
  · rw [pure_bind]
    exact hnext socket hfd
  · exact Act.within_of_after fun _ => rfl

/-- One option is set by one call on the socket at work. -/
theorem within_setOption (h : Tolerates R allowed) (level name value : Int) :
    Act.Within R (Socket.setOption level name value) := by
  refine h.within_requireOpen fun socket hfd => ?_
  refine Act.within_bind (h.setOption hfd _ _ _) fun answer => ?_
  exact Act.within_bind (Act.within_of_after (after_orFail _ answer)) fun _ => Act.within_pure _

/-- And it is read by one. -/
theorem within_getOption (h : Tolerates R allowed) (level name : Int) :
    Act.Within R (Socket.getOption level name) := by
  refine Act.within_bind (h.within_requireOpen fun socket hfd => ?_) fun _ => Act.within_pure _
  exact Act.within_bind (h.getOption hfd _ _ _) fun answer =>
    Act.within_of_after (after_orFail _ answer)

/-- The family is asked for only where the socket does not know it. -/
theorem within_systemFamily (h : Tolerates R allowed) : Act.Within R systemFamily :=
  h.within_requireOpen fun _ _ => h.within_getOption _ _

/-- Options that belong to one family ask for it first. -/
theorem within_setVersion6Only (h : Tolerates R allowed) (on : Bool) :
    Act.Within R (setVersion6Only on) := by
  refine Act.within_bind h.within_systemFamily fun family => ?_
  split
  · exact Act.within_throw _
  · exact h.within_setOption _ _ _

/-- So does reading them. -/
theorem within_getVersion6Only (h : Tolerates R allowed) : Act.Within R getVersion6Only := by
  refine Act.within_bind h.within_systemFamily fun family => ?_
  split
  · exact Act.within_throw _
  · exact Act.within_bind (h.within_getOption _ _) fun _ => Act.within_pure _

theorem within_setReceiveBufferSize (h : Tolerates R allowed) (size : Nat) :
    Act.Within R (setReceiveBufferSize size) :=
  Act.within_bind (Act.within_ofExcept _) fun _ => h.within_setOption _ _ _

theorem within_setSendBufferSize (h : Tolerates R allowed) (size : Nat) :
    Act.Within R (setSendBufferSize size) :=
  Act.within_bind (Act.within_ofExcept _) fun _ => h.within_setOption _ _ _

/-- Packet information is an option of its own in each family. -/
theorem within_setPacketInfo (h : Tolerates R allowed) (on : Bool) :
    Act.Within R (setPacketInfo on) := by
  refine Act.within_bind h.within_systemFamily fun family => ?_
  split
  · refine Act.within_bind (h.within_setOption _ _ _) fun _ => h.current fun socket hfd => ?_
    refine Act.within_bind (h.setOption hfd _ _ _) fun answer => ?_
    cases answer with
    | value _ => exact Act.within_pure _
    | failure code =>
      refine Act.within_bind h.within_getVersion6Only fun version6Only => ?_
      split
      · exact Act.within_pure _
      · exact Act.within_throw _
  · exact h.within_setOption _ _ _

end Tolerates

/-- The flags are read and written back on the same descriptor. -/
theorem within_works_setNonBlocking {fd : Int} (on : Bool) :
    Act.Within (Works fd) (setNonBlocking on) := by
  refine (tolerates_works fd).within_requireOpen fun socket hfd => ?_
  subst hfd
  have hflags : Act.Within (Works socket.fd) (readFlags socket.fd) := by
    refine Act.within_bind (within_works_lift
      (Native.within_uses_attempt (by exact ⟨rfl, nofun⟩) _ _)) fun answer => ?_
    exact Act.within_bind (Act.within_of_after (after_orFail _ answer)) fun _ => Act.within_pure _
  refine Act.within_bind hflags fun flags => ?_
  refine Act.within_bind (within_works_lift
    (Native.within_uses_attempt (by exact ⟨rfl, nofun⟩) _ _)) fun answer => ?_
  exact Act.within_bind (Act.within_of_after (after_orFail _ answer)) fun _ => Act.within_pure _

/-! ## Addresses -/

section Addresses

variable {fd : Int}

/-- To ask for the local address is one call. -/
theorem within_works_localAddress : Act.Within (Works fd) localAddress := by
  refine within_works_current fun socket hfd => ?_
  subst hfd
  split
  · refine Act.within_bind
      (within_works_lift (Native.within_uses_perform (by exact ⟨rfl, nofun⟩) _ _))
      fun answer => ?_
    exact Act.within_bind (within_works_lift (Native.within_orFail _ answer)) fun _ =>
      within_works_except _
  · exact Act.within_pure _

/-- The port is looked up after a bind or a connect, on the same descriptor. -/
theorem within_works_notePort : Act.Within (Works fd) notePort :=
  Act.within_bind within_works_localAddress fun _ =>
    within_works_change (fun _ => rfl) fun _ _ hsound => ⟨hsound.1, hsound.2⟩

/-- To bind leaves the socket with its descriptor, bound or not. -/
theorem within_works_bind (address : Address) : Act.Within (Works fd) (bind address) := by
  refine (tolerates_works fd).within_requireOpen fun socket hfd => ?_
  subst hfd
  split
  · exact Act.within_of_after fun _ => rfl
  refine Act.within_bind (within_works_except _) fun raw => ?_
  refine Act.within_bind
    (within_works_lift (Native.within_uses_attempt (by exact ⟨rfl, nofun⟩) _ _))
    fun answer => Act.within_bind (within_works_lift (Native.within_orFail _ answer)) fun _ => ?_
  refine Act.within_bind (within_works_change (fun _ => rfl) fun _ hopen _ =>
    ⟨fun _ => rfl, fun _ => hopen⟩) fun _ => Act.within_bind within_works_notePort fun _ => ?_
  exact Act.within_bind within_works_localAddress fun _ =>
    within_works_lift (Native.within_uses_writeLog _ _ _)

/-- A socket that becomes connected is bound as well, so it stays sound. -/
theorem within_works_connect (address : Address) : Act.Within (Works fd) (connect address) := by
  refine (tolerates_works fd).within_requireOpen fun socket hfd => ?_
  subst hfd
  refine Act.within_bind (within_works_except _) fun raw => ?_
  refine Act.within_bind (within_works_lift
    (within_persist _ (Native.within_uses_attempt (by exact ⟨rfl, nofun⟩) _ _))) fun answer => ?_
  refine Act.within_bind (within_works_lift (Native.within_orFail _ answer)) fun _ => ?_
  exact Act.within_bind (within_works_change (fun _ => rfl) fun _ hopen _ =>
    ⟨fun _ => rfl, fun _ => hopen⟩) fun _ => within_works_notePort

/-- A socket that is no longer connected may still be bound. -/
theorem within_works_disconnect : Act.Within (Works fd) disconnect := by
  refine within_works_current fun socket hfd => ?_
  subst hfd
  have hforget : Act.Within (Works socket.fd)
      (change fun socket => { socket with connected := false }) :=
    within_works_change (fun _ => rfl) fun _ _ hsound => ⟨fun h => (nomatch h), hsound.2⟩
  split
  · refine Act.within_bind
      (within_works_lift (Native.within_uses_attempt (by exact ⟨rfl, nofun⟩) _ _))
      fun answer => ?_
    cases answer with
    | value _ => exact hforget
    | failure code =>
      dsimp only
      split
      · exact hforget
      · exact Act.within_of_after fun _ => rfl
  · exact Act.within_pure _

end Addresses

/-! ## Operations as a whole -/

/-- A sound socket stays sound and spends what it holds. -/
def Handles (s s' : Socket × Native) : Prop :=
  s.1.Sound → s'.1.Sound ∧ Native.Passes s.1.held s'.1.held s.2 s'.2

/-- To do nothing spends nothing. -/
theorem handles_refl (s : Socket × Native) : Handles s s := fun hsound =>
  ⟨hsound, refl_of Native.Aside s.2 _⟩

/-- What works on any descriptor, and does nothing where there is none, spends what it should. -/
theorem handles_of_works {α : Type} {act : SocketAct α} (h : ∀ fd, Act.Within (Works fd) act)
    (hclosed : ∀ s, s.1.Sound → s.1.isOpen = false → act.after s = s) :
    Act.Within Handles act := by
  intro s hsound
  cases hopen : s.1.isOpen with
  | false =>
    rw [hclosed s hsound hopen]
    exact handles_refl s hsound
  | true =>
    obtain ⟨hfd, hstays, huses⟩ := h s.1.fd s (isOpen_iff.mp hopen) rfl
    have hopen' : (act.after s).1.isOpen = true := isOpen_iff.mpr (hfd ▸ isOpen_iff.mp hopen)
    rw [held_of_open hopen, held_of_open hopen', hfd]
    exact ⟨hstays hsound, huses.passes⟩

/-- An open socket passes the check and is given to what follows. -/
theorem run_requireOpen {rule : Violation} {s : Socket × Native} (h : s.1.isOpen = true) :
    (requireOpen rule).run s = .ok s.1 s := by
  show EStateM.run (if s.1.isOpen = true then pure s.1 else Act.violate rule) s = _
  rw [if_pos h]
  rfl

/-- At a closed socket nothing follows the check. -/
theorem after_requireOpen_closed {α : Type} {rule : Violation} {next : Socket → SocketAct α}
    {s : Socket × Native} (h : s.1.isOpen = false) : (requireOpen rule >>= next).after s = s := by
  have hrun : (requireOpen rule).run s = .error (.violation rule) s := by
    show EStateM.run (if s.1.isOpen = true then pure s.1 else Act.violate rule) s = _
    rw [h]
    rfl
  exact Act.after_of_error (Act.bind_of_error hrun)

/-- Binding spends what the socket holds, which is what it still holds. -/
theorem handles_bind (address : Address) : Act.Within Handles (bind address) :=
  handles_of_works (fun _ => within_works_bind address) fun _ _ => after_requireOpen_closed

/-- Connecting likewise. -/
theorem handles_connect (address : Address) : Act.Within Handles (connect address) :=
  handles_of_works (fun _ => within_works_connect address) fun _ _ => after_requireOpen_closed

/-- Disconnecting as well, although it does not insist on an open socket. -/
theorem handles_disconnect : Act.Within Handles disconnect := by
  refine handles_of_works (fun _ => within_works_disconnect) fun s hsound hclosed => ?_
  have hfree : s.1.connected = false := by
    by_contra hconnected
    have hopen := hsound.open_of_bound (hsound.bound_of_connected (by simpa using hconnected))
    rw [hclosed] at hopen
    cases hopen
  unfold disconnect
  rw [Act.after_bind_of_ok (run_current s), hfree]
  rfl

/-- The socket is as it was, and no descriptor was used. -/
def Beside (s s' : Socket × Native) : Prop := s'.1 = s.1 ∧ Native.Aside s.2 s'.2

instance : IsPreorder (Socket × Native) Beside where
  refl s := ⟨rfl, refl_of Native.Aside s.2⟩
  trans _ _ _ first later := ⟨later.1.trans first.1, trans_of Native.Aside first.2 later.2⟩

/-- What goes by all descriptors goes by the socket. -/
theorem within_beside_lift {α : Type} {act : Act Native α} (h : Act.Within Native.Aside act) :
    Act.Within Beside (liftM act : SocketAct α) := by
  intro s
  rw [Channel.after_lift_plain]
  exact ⟨rfl, h s.2⟩

/-- A socket that is closed has given its descriptor up before the system is asked. -/
theorem handles_close : Act.Within Handles close := by
  intro s hsound
  unfold close
  rw [Act.after_bind_of_ok (run_current s)]
  cases hopen : s.1.isOpen with
  | false => exact handles_refl s hsound
  | true =>
    have hvacate : (change vacated).run s = .ok () (s.1.vacated, s.2) := rfl
    have hclose : (liftM (Native.close s.1.fd) : SocketAct (Answer Int)).run
      (s.1.vacated, s.2) = _ :=
      run_lift (Native.run_attempt ..)
    rw [if_pos rfl, Act.after_bind_of_ok hvacate, Act.after_bind_of_ok hclose]
    -- Whether or not the call failed, what follows concerns no descriptor.
    generalize Answer.failIf _ _ _ = answer
    have hrest : Act.Within Beside (do
        let _ ← (liftM (Native.orFail "close" answer) : SocketAct Int)
        (liftM (Native.writeLog .debug logTag s!"closed fd {s.1.fd}") : SocketAct Unit)) :=
      Act.within_bind (within_beside_lift (Native.within_orFail _ answer)) fun _ =>
        within_beside_lift (Native.within_aside_writeLog _ _ _)
    obtain ⟨hsocket, haside⟩ := hrest (s.1.vacated, s.2.called (.close s.1.fd) id Kernel.close)
    rw [hsocket, held_of_open hopen]
    exact ⟨sound_vacated s.1, (Native.passes_close s.1.fd 0 s.2).trans (haside 0)⟩

end Socket

namespace Native

/-- A socket that is given up passes its descriptor to the system. -/
theorem passes_vacate (socket : Socket) (native : Native) :
    Passes socket.held 0 native (socket.vacate.after native) := by
  unfold Socket.vacate
  cases hopen : socket.isOpen with
  | false =>
    rw [Socket.held_of_closed hopen]
    exact refl_of Aside native 0
  | true =>
    rw [Socket.held_of_open hopen]
    exact passes_close socket.fd 0 native

/-- A socket that goes out of use closes its descriptor, if it has one. -/
theorem passes_drop (socket : Socket) (native : Native) :
    Passes socket.held 0 native (socket.drop.after native) := by
  unfold Socket.drop
  cases hopen : socket.isOpen with
  | false =>
    rw [Socket.held_of_closed hopen]
    exact refl_of Aside native 0
  | true =>
    have hclose : (close socket.fd).run native = _ := run_attempt ..
    rw [Socket.held_of_open hopen, if_pos rfl, Act.after_bind_of_ok hclose]
    refine (passes_close socket.fd 0 native).trans ?_
    generalize Answer.failIf _ _ _ = answer
    cases answer with
    | value _ => exact refl_of Aside _ 0
    | failure code => exact within_aside_writeLog _ _ _ _ 0

end Native

end UdpTransport
