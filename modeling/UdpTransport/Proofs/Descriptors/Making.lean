import UdpTransport.Proofs.Descriptors.Sockets

/-!
# What becomes of a descriptor while a socket is made

Once the system has handed out a descriptor, the options asked for are applied to it one after the
other. `configure_eq` writes that as a list of steps, so that one can speak of the first step that
fails (`FailsFirst`) and look at each step by itself: what it does to the descriptor, what it can
fail with (`Raises`), and whether calls on the descriptor wait (`NonBlocking`).

**The main result is `create_outcome`.** A socket that is made is open, does not wait and was not
closed. If the system or a rule of sockets stands against an option, the descriptor is closed
exactly once. A buffer size out of range is a fault of another kind, and after that one the
descriptor is left open and nobody knows of it any more.
-/

namespace UdpTransport.Socket

/-! ## Steps in turn -/

/-- Takes steps one after the other. -/
def inTurn : List (SocketAct Unit) → SocketAct Unit
  | [] => pure ()
  | step :: rest => do
    step
    inTurn rest

/-- The first of the steps that fails does so with this fault. -/
def FailsFirst (steps : List (SocketAct Unit)) (fault : Fault) (s : Socket × Native) : Prop :=
  ∃ before step later middle reached, steps = before ++ step :: later ∧
    (inTurn before).run s = .ok () middle ∧ step.run middle = .error fault reached

/-- Steps can be taken in two stretches. -/
theorem inTurn_append (first second : List (SocketAct Unit)) :
    inTurn (first ++ second) = (do inTurn first; inTurn second) := by
  induction first with
  | nil => exact (pure_bind () fun _ => inTurn second).symm
  | cons step rest ih =>
    show (step >>= fun _ => inTurn (rest ++ second)) =
      (step >>= fun _ => inTurn rest) >>= fun _ => inTurn second
    rw [ih, bind_assoc]

/-- Steps fail with what the first of them fails with. -/
theorem failsFirst_of_run {steps : List (SocketAct Unit)} {fault : Fault} {s s' : Socket × Native}
    (h : (inTurn steps).run s = .error fault s') : FailsFirst steps fault s := by
  induction steps generalizing s with
  | nil => cases h
  | cons step rest ih =>
    rcases Act.bind_error_iff.mp h with hstep | ⟨⟨⟩, middle, hstep, hrest⟩
    · exact ⟨[], step, rest, s, s', rfl, rfl, hstep⟩
    · obtain ⟨before, failing, later, between, reached, rfl, hbefore, hfails⟩ := ih hrest
      exact ⟨step :: before, failing, later, between, reached, rfl,
        (Act.bind_of_ok hstep).trans hbefore, hfails⟩

/-- The options asked for, one step for each, for a socket of some family. -/
def refinements (options : SocketOptions) (family : Nat) : List (SocketAct Unit) :=
  List.flatten
    [if family = Family.ipv6 then [setVersion6Only options.version6Only] else [],
      if options.reuseAddress then [setReuseAddress true] else [],
      if options.reusePort then [setReusePort true] else [],
      if options.broadcast then [setBroadcast true] else [],
      options.receiveBufferSize.toList.map fun size => setReceiveBufferSize (word64 size),
      options.sendBufferSize.toList.map fun size => setSendBufferSize (word64 size),
      if options.packetInfo then [setPacketInfo true] else []]

/-- What is done to a new socket, step by step. -/
def settings (options : SocketOptions) : List (SocketAct Unit) :=
  setNonBlocking true :: refinements options options.family.toNat

theorem inTurn_nil : inTurn [] = pure () := rfl

theorem inTurn_one (step : SocketAct Unit) : inTurn [step] = step := bind_pure step

/-- A step that is taken or not. -/
theorem inTurn_ite (c : Prop) [Decidable c] (step : SocketAct Unit) :
    inTurn (if c then [step] else []) = if c then step else pure () := by
  split
  · exact inTurn_one step
  · rfl

/-- A step that is taken or not comes before the rest in either case. -/
theorem ite_bind (c : Prop) [Decidable c] (step next : SocketAct Unit) :
    ((if c then step else pure ()) >>= fun _ => next) =
      if c then step >>= fun _ => next else next := by
  split
  · rfl
  · exact pure_bind () fun _ => next

/-- To configure is to take the steps of the options in turn, for the family that the socket has. -/
theorem configure_eq (options : SocketOptions) :
    configure options = (do
      setNonBlocking true
      let socket ← current
      inTurn (refinements options socket.family)) := by
  unfold configure refinements
  cases options.receiveBufferSize <;> cases options.sendBufferSize <;>
    simp only [List.flatten_cons, List.flatten_nil, List.append_nil, Option.toList, List.map_nil,
      List.map_cons, inTurn_append, inTurn_nil, inTurn_one, inTurn_ite, ite_bind, pure_bind]

/-- What all options do, the refinements of a new socket do. -/
theorem forall_refinements {P : SocketAct Unit → Prop} (hversion : ∀ on, P (setVersion6Only on))
    (hswitch : ∀ level name, P (setSwitch level name true))
    (hreceive : ∀ size, P (setReceiveBufferSize size)) (hsend : ∀ size, P (setSendBufferSize size))
    (hpacket : P (setPacketInfo true)) (options : SocketOptions) (family : Nat) :
    ∀ step ∈ refinements options family, P step := by
  intro step hstep
  obtain ⟨group, hgroup, hmem⟩ := List.mem_flatten.mp hstep
  have hif {c : Prop} [Decidable c] {wanted : SocketAct Unit} (hwanted : P wanted)
      (h : step ∈ if c then [wanted] else []) : P step := by
    split at h
    · exact List.mem_singleton.mp h ▸ hwanted
    · cases h
  simp only [List.mem_cons, List.not_mem_nil, or_false] at hgroup
  rcases hgroup with rfl | rfl | rfl | rfl | rfl | rfl | rfl
  · exact hif (hversion _) hmem
  · exact hif (hswitch _ _) hmem
  · exact hif (hswitch _ _) hmem
  · exact hif (hswitch _ _) hmem
  · obtain ⟨size, _, rfl⟩ := List.mem_map.mp hmem
    exact hreceive _
  · obtain ⟨size, _, rfl⟩ := List.mem_map.mp hmem
    exact hsend _
  · exact hif hpacket hmem

/-- What each step holds, all of them hold. -/
theorem within_inTurn {R : Socket × Native → Socket × Native → Prop} [IsPreorder _ R]
    {steps : List (SocketAct Unit)} (h : ∀ step ∈ steps, Act.Within R step) :
    Act.Within R (inTurn steps) := by
  induction steps with
  | nil => exact Act.within_pure ()
  | cons step rest ih =>
    obtain ⟨hstep, hrest⟩ := List.forall_mem_cons.mp h
    exact Act.within_bind hstep fun _ => ih hrest

/-- Whatever tolerates options tolerates those that are asked for. -/
theorem Tolerates.within_refinements {R : Socket × Native → Socket × Native → Prop} [IsPreorder _ R]
    {allowed : Int → Prop} (h : Tolerates R allowed) (options : SocketOptions) (family : Nat) :
    Act.Within R (inTurn (refinements options family)) :=
  within_inTurn (forall_refinements h.within_setVersion6Only (fun _ _ => h.within_setOption _ _ _)
    h.within_setReceiveBufferSize h.within_setSendBufferSize (h.within_setPacketInfo true) options
    family)

/-! ## The socket that is configured -/

/-- Whether calls wait is a matter of the descriptor. -/
theorem within_socket_setNonBlocking (on : Bool) :
    Act.Within (Act.Fixing Prod.fst) (setNonBlocking on) := by
  have hlift {α : Type} (act : Act Native α) :
      Act.Within (Act.Fixing Prod.fst) (liftM act : SocketAct α) := by
    intro s
    rw [Act.Fixing, Channel.after_lift_plain]
  refine Act.within_bind (Act.within_of_after (after_requireOpen _)) fun socket =>
    Act.within_bind ?_ fun flags => ?_
  · exact Act.within_bind (hlift _) fun _ => Act.within_bind (hlift _) fun _ => Act.within_pure _
  · exact Act.within_bind (hlift _) fun _ => Act.within_bind (hlift _) fun _ => Act.within_pure _

/-- For a new socket the family is that of the options. -/
theorem run_configure {options : SocketOptions} {s : Socket × Native}
    (h : s.1.family = options.family.toNat) :
    (configure options).run s = (inTurn (settings options)).run s := by
  rw [configure_eq]
  show _ = (setNonBlocking true >>= fun _ =>
    inTurn (refinements options options.family.toNat)).run s
  cases hrun : (setNonBlocking true).run s with
  | error fault s' => rw [Act.bind_of_error hrun, Act.bind_of_error hrun]
  | ok _ s' =>
    have hsocket : s'.1 = s.1 := Act.after_of_ok hrun ▸ within_socket_setNonBlocking true s
    rw [Act.bind_of_ok hrun, Act.bind_of_ok hrun, Act.bind_of_ok (run_current s'), hsocket, h]

/-- To configure is to work on the descriptor. -/
theorem within_works_configure {fd : Int} (options : SocketOptions) :
    Act.Within (Works fd) (configure options) := by
  rw [configure_eq]
  refine Act.within_bind (within_works_setNonBlocking true) fun _ =>
    within_works_current fun _ _ => ?_
  exact (tolerates_works fd).within_refinements options _

/-! ## What a configuration fails with -/

/-- A fault of the system or of sockets, or a buffer size out of range. -/
def Expected (fault : Fault) : Prop :=
  fault.isSocketFault = true ∨ ∃ setting size, fault = .violation (.outside setting size)

/-- Whatever a computation fails with is expected. -/
def Raises {σ α : Type} (act : Act σ α) : Prop :=
  ∀ ⦃s fault s'⦄, act.run s = .error fault s' → Expected fault

section Raises

variable {σ α β : Type}

/-- A sequence fails with what one of its steps fails with. -/
theorem raises_bind {act : Act σ α} {next : α → Act σ β} (first : Raises act)
    (later : ∀ a, Raises (next a)) : Raises (act >>= next) := by
  intro s fault s' h
  rcases Act.bind_error_iff.mp h with hact | ⟨a, middle, _, hnext⟩
  · exact first hact
  · exact later a hnext

theorem raises_pure (a : α) : Raises (pure a : Act σ α) := nofun

/-- A fault that is thrown has to be one of those expected. -/
theorem raises_throw {fault : Fault} (h : Expected fault) : Raises (throw fault : Act σ α) := by
  intro s fault' s' hrun
  cases hrun
  exact h

/-- A system call gives an answer. -/
theorem raises_call {call : Act Native (Answer α)} (h : call.Succeeds) :
    Raises (liftM call : SocketAct (Answer α)) := by
  intro s fault s' hrun
  obtain ⟨answer, native, hcall⟩ := h s.2
  have hlift : (liftM call : SocketAct (Answer α)).run s = .ok answer (s.1, native) :=
    run_lift hcall
  rw [hlift] at hrun
  cases hrun

/-- A fault made of an answer is one of the system. -/
theorem raises_orFail (name : String) (answer : Answer α) :
    Raises (liftM (Native.orFail name answer) : SocketAct α) := by
  intro s fault s' hrun
  cases answer with
  | value a => cases hrun
  | failure code =>
    cases hrun
    exact .inl rfl

theorem raises_current : Raises current := by
  intro s fault s' hrun
  cases hrun

/-- A socket that is not open refuses with the rule at hand. -/
theorem raises_requireOpen {rule : Violation} (h : Expected (.violation rule)) :
    Raises (requireOpen rule) := by
  refine raises_bind raises_current fun socket => ?_
  split
  · exact raises_pure socket
  · exact raises_throw h

/-- An option can be refused by the system, or for want of a socket. -/
theorem raises_setOption (level name value : Int) : Raises (setOption level name value) := by
  refine raises_bind (raises_requireOpen (.inl rfl)) fun socket => ?_
  refine raises_bind (raises_call fun native => ⟨_, _, Native.run_attempt ..⟩) fun answer => ?_
  exact raises_bind (raises_orFail _ answer) fun _ => raises_pure _

/-- So can asking for one. -/
theorem raises_getOption (level name : Int) : Raises (getOption level name) := by
  refine raises_bind (raises_bind (raises_requireOpen (.inl rfl)) fun socket => ?_)
    fun _ => raises_pure _
  exact raises_bind (raises_call fun native => ⟨_, _, Native.run_perform ..⟩) fun answer =>
    raises_orFail _ answer

theorem raises_systemFamily : Raises systemFamily :=
  raises_bind (raises_requireOpen (.inl rfl)) fun _ => raises_getOption _ _

/-- One that belongs to a family can be refused for the wrong family. -/
theorem raises_setVersion6Only (on : Bool) : Raises (setVersion6Only on) := by
  refine raises_bind raises_systemFamily fun family => ?_
  split
  · exact raises_throw (.inl rfl)
  · exact raises_setOption _ _ _

/-- A size out of range is no fault of sockets. -/
theorem raises_checkedSize (setting : Setting) (size : Nat) :
    Raises (liftM (checkedSize setting size) : SocketAct Int) := by
  unfold checkedSize
  split
  · exact raises_pure _
  · exact raises_throw (.inr ⟨setting, size, rfl⟩)

theorem raises_setReceiveBufferSize (size : Nat) : Raises (setReceiveBufferSize size) :=
  raises_bind (raises_checkedSize _ _) fun _ => raises_setOption _ _ _

theorem raises_setSendBufferSize (size : Nat) : Raises (setSendBufferSize size) :=
  raises_bind (raises_checkedSize _ _) fun _ => raises_setOption _ _ _

theorem raises_setPacketInfo (on : Bool) : Raises (setPacketInfo on) := by
  refine raises_bind raises_systemFamily fun family => ?_
  split
  · refine raises_bind (raises_setOption _ _ _) fun _ => ?_
    refine raises_bind raises_current fun socket => ?_
    refine raises_bind (raises_call fun native => ⟨_, _, Native.run_attempt ..⟩) fun answer => ?_
    cases answer with
    | value _ => exact raises_pure _
    | failure code =>
      have hquery : Raises getVersion6Only := by
        refine raises_bind raises_systemFamily fun family => ?_
        split
        · exact raises_throw (.inl rfl)
        · exact raises_bind (raises_getOption _ _) fun _ => raises_pure _
      refine raises_bind hquery fun version6Only => ?_
      split
      · exact raises_pure _
      · exact raises_throw (.inl rfl)
  · exact raises_setOption _ _ _

theorem raises_setNonBlocking (on : Bool) : Raises (setNonBlocking on) := by
  refine raises_bind (raises_requireOpen (.inl rfl)) fun socket => raises_bind ?_ fun flags => ?_
  · refine raises_bind (raises_call fun native => ⟨_, _, Native.run_attempt ..⟩) fun answer => ?_
    exact raises_bind (raises_orFail _ answer) fun _ => raises_pure _
  · refine raises_bind (raises_call fun native => ⟨_, _, Native.run_attempt ..⟩) fun answer => ?_
    exact raises_bind (raises_orFail _ answer) fun _ => raises_pure _

/-- Steps taken in turn fail with what one of them fails with. -/
theorem raises_inTurn {steps : List (SocketAct Unit)} (h : ∀ step ∈ steps, Raises step) :
    Raises (inTurn steps) := by
  induction steps with
  | nil => exact raises_pure ()
  | cons step rest ih =>
    obtain ⟨hstep, hrest⟩ := List.forall_mem_cons.mp h
    exact raises_bind hstep fun _ => ih hrest

/-- **A configuration fails only as one expects.** -/
theorem raises_configure (options : SocketOptions) : Raises (configure options) := by
  rw [configure_eq]
  refine raises_bind (raises_setNonBlocking true) fun _ =>
    raises_bind raises_current fun socket => raises_inTurn ?_
  exact forall_refinements raises_setVersion6Only (fun _ _ => raises_setOption _ _ _)
    raises_setReceiveBufferSize raises_setSendBufferSize (raises_setPacketInfo true) options _

end Raises

/-! ## Calls that do not wait -/

/-- Whether calls on a descriptor return at once, as the system knows it. -/
def NonBlocking (fd : Int) (native : Native) : Prop :=
  (native.kernel.file fd).flags.toNat &&& Number.nonBlocking ≠ 0

/-- Options have nothing to do with whether calls wait. -/
theorem tolerates_nonBlocking (fd : Int) :
    Tolerates (Act.Fixing fun s => (s.2.kernel.file fd).flags) fun _ => True where
  current h := Act.within_bind (Act.within_of_after fun _ => rfl) fun socket => h socket trivial
  setOption := by
    intro other _ level name value s
    rw [Act.Fixing, Channel.after_lift_plain]
    refine Kernel.within_storing (R := Act.Fixing fun kernel => (kernel.file fd).flags)
      (fun _ => rfl) (fun kernel => ?_) s.2.kernel
    by_cases same : fd = other
    · subst same
      rw [Act.Fixing, Kernel.file_store]
    · rw [Act.Fixing, Kernel.file_store_of_ne _ same]
  getOption := by
    intro other _ level name room s
    rw [Act.Fixing, Channel.after_lift_plain]
    show ((Kernel.getOption other level name room s.2.kernel).2.file fd).flags = _
    refine Kernel.within_answer (R := Act.Fixing fun kernel => (kernel.file fd).flags) ?_ ?_
      s.2.kernel
    · exact fun _ => rfl
    · exact fun _ => rfl

/-- To read the flags of a descriptor is one call, whatever comes of it. -/
theorem after_readFlags (fd : Int) (s : Socket × Native) :
    (readFlags fd).after s = (s.1, s.2.called (.getFlags fd) id (Kernel.getFlags fd)) := by
  have hcall : (liftM (Native.attemptStatus (.getFlags fd) (Kernel.getFlags fd)) :
      SocketAct (Answer Int)).run s =
        .ok _ (s.1, s.2.called (.getFlags fd) id (Kernel.getFlags fd)) :=
    run_lift (Native.run_attempt ..)
  unfold readFlags
  rw [Act.after_bind_of_ok hcall, Act.after_bind_pure, after_orFail]

/-- Reading flags leaves the numbers laid down as they should be. -/
theorem worded_getFlags {kernel : Kernel} (h : Kernel.Worded kernel.script.flags) (fd : Int) :
    Kernel.Worded (Kernel.getFlags fd kernel).2.script.flags := by
  unfold Kernel.getFlags
  refine Kernel.within_answer (R := Act.Keeping fun kernel => Kernel.Worded kernel.script.flags)
    ?_ ?_ kernel h
  · exact fun _ hplan => hplan.tail
  · exact fun _ => id

/-- A number of flags with the one for calls that do not wait. -/
theorem nonBlocking_switched (flags : Nat) :
    (flags - (flags &&& Number.nonBlocking) + Number.nonBlocking) &&& Number.nonBlocking ≠ 0 := by
  have hand (n : Nat) : n &&& Number.nonBlocking = n / 2048 % 2 * 2048 := Number.and_two_pow n 11
  rw [hand, hand]
  simp only [Number.nonBlocking]
  omega

/-- Flags that the system agrees to are those of the descriptor. -/
theorem flags_of_granted {fd flags granted : Int} {s s' : Socket × Native}
    (hworded : Kernel.Worded s.2.kernel.script.flags)
    (h : (liftM (Native.attemptStatus (.setFlags fd flags) (Kernel.setFlags fd flags)) :
      SocketAct (Answer Int)).run s = .ok (.value granted) s') :
    (s'.2.kernel.file fd).flags = flags := by
  have hcall : (liftM (Native.attemptStatus (.setFlags fd flags) (Kernel.setFlags fd flags)) :
      SocketAct (Answer Int)).run s =
        .ok _ (s.1, s.2.called (.setFlags fd flags) id (Kernel.setFlags fd flags)) :=
    run_lift (Native.run_attempt ..)
  rw [hcall] at h
  injection h with hanswer hafter
  obtain ⟨kernel', hkernel⟩ := Kernel.storing_granted hworded hanswer
  subst hafter
  show ((Kernel.setFlags fd flags s.2.kernel).2.file fd).flags = flags
  rw [show (Kernel.setFlags fd flags s.2.kernel).2 = _ from hkernel, Kernel.file_store]

/-- Where the system agrees, calls do not wait. -/
theorem nonBlocking_of_run {s s' : Socket × Native}
    (hworded : Kernel.Worded s.2.kernel.script.flags) (hopen : s.1.isOpen = true)
    (h : (setNonBlocking true).run s = .ok () s') : NonBlocking s.1.fd s'.2 := by
  unfold setNonBlocking at h
  rw [Act.bind_of_ok (run_requireOpen hopen)] at h
  obtain ⟨flags, read, hread, h⟩ := Act.bind_ok_iff.mp h
  have hread' : read = (s.1, s.2.called (.getFlags s.1.fd) id (Kernel.getFlags s.1.fd)) := by
    rw [← Act.after_of_ok hread, after_readFlags]
  subst hread'
  obtain ⟨answer, set, hset, h⟩ := Act.bind_ok_iff.mp h
  obtain ⟨granted, _, hgranted, h⟩ := Act.bind_ok_iff.mp h
  cases h
  have hstored : s' = set := by rw [← Act.after_of_ok hgranted, after_orFail]
  subst hstored
  cases answer with
  | failure code => cases hgranted
  | value number =>
    have hflags := flags_of_granted (worded_getFlags hworded s.1.fd) hset
    unfold NonBlocking
    rw [hflags]
    exact nonBlocking_switched flags

/-- A socket that could be configured returns from its calls at once. -/
theorem nonBlocking_configure {options : SocketOptions} {s s' : Socket × Native}
    (hworded : Kernel.Worded s.2.kernel.script.flags) (hopen : s.1.isOpen = true)
    (h : (configure options).run s = .ok () s') : NonBlocking s.1.fd s'.2 := by
  rw [configure_eq] at h
  obtain ⟨⟨⟩, middle, hfirst, h⟩ := Act.bind_ok_iff.mp h
  obtain ⟨socket, _, hcurrent, hrest⟩ := Act.bind_ok_iff.mp h
  cases hcurrent
  have hkept : (s'.2.kernel.file s.1.fd).flags = (middle.2.kernel.file s.1.fd).flags :=
    Act.after_of_ok hrest ▸
      (tolerates_nonBlocking s.1.fd).within_refinements options middle.1.family middle
  unfold NonBlocking
  rw [hkept]
  exact nonBlocking_of_run hworded hopen hfirst

/-! ## Making -/

section Making

variable {options : SocketOptions} {native middle : Native} {fd : Int}

/-- The socket that options are applied to. -/
def fresh (options : SocketOptions) (fd : Int) : Socket :=
  ⟨fd, options.family.toNat, 0, false, false⟩

/-- Work on a socket that is kept nowhere gives the socket back. -/
theorem withSocket_ok {α : Type} {act : SocketAct α} {socket : Socket} {a : α}
    {s : Socket × Native} (h : act.run (socket, native) = .ok a s) :
    (withSocket socket act).run native = .ok (a, s.1) s.2 := by
  simp only [withSocket, EStateM.run] at h ⊢
  rw [h]

/-- If it fails, only the native side of it is left. -/
theorem withSocket_error {α : Type} {act : SocketAct α} {socket : Socket} {fault : Fault}
    {s : Socket × Native} (h : act.run (socket, native) = .error fault s) :
    (withSocket socket act).run native = .error fault s.2 := by
  simp only [withSocket, EStateM.run] at h ⊢
  rw [h]

/-- What the system hands out as a descriptor is one. -/
theorem ne_of_attempted {call : SystemCall} {run : Kernel → Answer Int × Kernel}
    (h : (Native.attemptSocket call run).run native = .ok (.value fd) middle) :
    fd ≠ noDescriptor := by
  have hcall : (Native.attemptSocket call run).run native = _ := Native.run_attempt ..
  rw [hcall] at h
  injection h with hanswer
  generalize (run native.kernel).1 = answer at hanswer
  cases answer with
  | failure code => cases hanswer
  | value n =>
    rintro rfl
    by_cases hnone : Number.narrow n = -1 <;> simp [Answer.map, Answer.failIf, hnone] at hanswer

/-- Once there is a descriptor, options are applied and what comes of it is looked at. -/
theorem run_create (hfamily : options.family = Family.ipv4 ∨ options.family = Family.ipv6)
    (hsocket : (Native.attemptSocket (.socket options.family Number.datagramType Number.udp)
      (Kernel.socket options.family)).run native = .ok (.value fd) middle) :
    (create options).run native = (do
      match ← (withSocket (fresh options fd) (configure options)).capture with
      | .ok (_, socket) =>
        Native.writeLog .debug logTag (s!"created fd {fd}" ++
          if socket.family = Family.ipv6 then " (AF_INET6)" else " (AF_INET)")
        pure socket
      | .error fault =>
        if fault.isSocketFault then
          let _ ← Native.close fd
        throw fault : Act Native Socket).run middle := by
  unfold create
  rw [if_neg (not_not.mpr hfamily), Act.bind_of_ok hsocket]
  rfl

/-- A socket that could be configured is logged. -/
theorem run_create_ok {s : Socket × Native}
    (hfamily : options.family = Family.ipv4 ∨ options.family = Family.ipv6)
    (hsocket : (Native.attemptSocket (.socket options.family Number.datagramType Number.udp)
      (Kernel.socket options.family)).run native = .ok (.value fd) middle)
    (hrun : (configure options).run (fresh options fd, middle) = .ok () s) :
    ∃ native', (create options).run native = .ok s.1 native' ∧ s.2.Aside native' ∧
      native'.kernel = s.2.kernel := by
  have hwith := withSocket_ok hrun
  rw [run_create hfamily hsocket, Act.bind_of_ok (Act.run_capture ..), Act.result_of_ok hwith,
    Act.after_of_ok hwith]
  dsimp only
  obtain ⟨native', hlog, hkernel⟩ := Native.run_writeLog .debug logTag
    (s!"created fd {fd}" ++ if s.1.family = Family.ipv6 then " (AF_INET6)" else " (AF_INET)") s.2
  refine ⟨native', Act.bind_of_ok hlog, ?_, hkernel⟩
  rw [← Act.after_of_ok hlog]
  exact Native.within_aside_writeLog _ _ _ s.2

/-- A socket that could not be configured is closed, if that was for a fault of sockets. -/
theorem run_create_error {fault : Fault} {s : Socket × Native}
    (hfamily : options.family = Family.ipv4 ∨ options.family = Family.ipv6)
    (hsocket : (Native.attemptSocket (.socket options.family Number.datagramType Number.udp)
      (Kernel.socket options.family)).run native = .ok (.value fd) middle)
    (hrun : (configure options).run (fresh options fd, middle) = .error fault s) :
    (create options).run native = .error fault
      (if fault.isSocketFault then s.2.called (.close fd) id Kernel.close else s.2) := by
  have hwith := withSocket_error hrun
  rw [run_create hfamily hsocket, Act.bind_of_ok (Act.run_capture ..), Act.result_of_error hwith,
    Act.after_of_error hwith]
  dsimp only
  by_cases hsort : fault.isSocketFault = true
  · rw [if_pos hsort, if_pos hsort]
    rfl
  · rw [if_neg hsort, if_neg hsort]
    rfl

/-- **Making a socket, once there is a descriptor for it.** If it succeeds, the socket has that
descriptor, calls on it do not wait, and it was not closed. If it fails, it does so with what the
first failing step fails with; then the descriptor was closed exactly once, unless it was a buffer
size out of range, which leaves it open. -/
theorem create_outcome (hfamily : options.family = Family.ipv4 ∨ options.family = Family.ipv6)
    (hsocket : (Native.attemptSocket (.socket options.family Number.datagramType Number.udp)
      (Kernel.socket options.family)).run native = .ok (.value fd) middle)
    (hworded : Kernel.Worded middle.kernel.script.flags) :
    ∃ events, ((create options).after native).journal.toList = middle.journal.toList ++ events ∧
      match (create options).result native with
      | .ok socket => socket.fd = fd ∧ socket.isOpen = true ∧
          NonBlocking fd ((create options).after native) ∧ closings events = []
      | .error fault => FailsFirst (settings options) fault (fresh options fd, middle) ∧
          if fault.isSocketFault then closings events = [fd]
          else closings events = [] ∧
            ∃ setting size, fault = .violation (.outside setting size) := by
  have hvalid := ne_of_attempted hsocket
  have hopen : (fresh options fd).isOpen = true := isOpen_iff.mpr hvalid
  obtain ⟨hfd, _, events, hevents, huses⟩ :=
    within_works_configure options (fresh options fd, middle) hvalid rfl
  have hkept : closings events = [] := closings_eq_nil fun event hevent => (huses event hevent).1
  cases hrun : (configure options).run (fresh options fd, middle) with
  | ok _ s =>
    rw [Act.after_of_ok hrun] at hfd hevents
    obtain ⟨native', hcreate, haside, hkernel⟩ := run_create_ok hfamily hsocket hrun
    rw [Act.after_of_ok hcreate, Act.result_of_ok hcreate]
    -- What is logged about the new socket closes nothing either.
    obtain ⟨logged, hlogged, hspends⟩ := haside 0
    have hnone : closings logged = [] :=
      (Multiset.coe_eq_zero _).mp ((zero_add _).symm.trans hspends.balance.symm)
    refine ⟨events ++ logged, by rw [hlogged, hevents, List.append_assoc], hfd, ?_, ?_, ?_⟩
    · exact isOpen_iff.mpr (hfd.symm ▸ hvalid)
    · have hquick := nonBlocking_configure hworded hopen hrun
      unfold NonBlocking at hquick ⊢
      rw [hkernel]
      exact hquick
    · rw [closings_append, hkept, hnone]
      rfl
  | error fault s =>
    have hmade := run_create_error hfamily hsocket hrun
    rw [Act.after_of_error hrun] at hevents
    rw [Act.after_of_error hmade, Act.result_of_error hmade]
    have hfirst : FailsFirst (settings options) fault (fresh options fd, middle) :=
      failsFirst_of_run ((run_configure rfl).symm.trans hrun)
    by_cases hsort : fault.isSocketFault = true
    · rw [if_pos hsort]
      obtain ⟨closing, hclosing, hspends⟩ := Native.passes_close fd 0 s.2
      have hclosed : closings closing = [fd] :=
        Multiset.coe_eq_singleton.mp ((zero_add _).symm.trans hspends.balance.symm)
      refine ⟨events ++ closing, by rw [hclosing, hevents, List.append_assoc], hfirst, ?_⟩
      rw [if_pos hsort, closings_append, hkept, hclosed]
      rfl
    · rw [if_neg hsort]
      refine ⟨events, hevents, hfirst, ?_⟩
      rw [if_neg hsort]
      exact ⟨hkept, (raises_configure options hrun).resolve_left hsort⟩

/-- A receive buffer of no size is refused, and the descriptor stays open. -/
theorem create_outcome_leak :
    (create { receiveBufferSize := some 0 }).result {} =
        .error (.violation (.outside .receiveBufferSize 0)) ∧
      ∃ events, ((create { receiveBufferSize := some 0 }).after {}).journal.toList =
          [.call (.socket 2 2 17) (.value 3)] ++ events ∧ closings events = [] := by
  have hfails : (create { receiveBufferSize := some 0 }).result {} =
      .error (.violation (.outside .receiveBufferSize 0)) := by decide +kernel
  have hfamily :
      (SocketOptions.mk 2 false false false false true (some 0) none).family = Family.ipv4 ∨
        (SocketOptions.mk 2 false false false false true (some 0) none).family = Family.ipv6 :=
    .inl rfl
  have hsocket : (Native.attemptSocket (.socket 2 Number.datagramType Number.udp)
      (Kernel.socket 2)).run {} = .ok (.value 3) _ := rfl
  obtain ⟨events, hevents, houtcome⟩ := create_outcome hfamily hsocket nofun
  rw [hfails] at houtcome
  exact ⟨hfails, events, hevents, houtcome.2.1⟩

end Making

end UdpTransport.Socket
