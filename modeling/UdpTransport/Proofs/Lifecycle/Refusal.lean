import UdpTransport.Proofs.Calls
import UdpTransport.Proofs.Triples

/-!
# Refused calls

To bind, to connect and to disconnect is a chain of system calls with flags set in between. Where a
call of the chain is refused, it has stored nothing (`Kernel.storing_refused`), so a socket that
asks for its addresses later is told what it would have been told before (`Kernel.naming`).

`Socket.triple_bind`, `triple_connect` and `triple_disconnect` say for each operation what is left
of it. Failures of the query for the local address come last in the chain, after the system has
agreed, and are told apart by `Fault.isNaming`.
-/

namespace UdpTransport

/-- Whether a fault is one of a query for a local address. -/
def Fault.isNaming : Fault → Bool
  | .native call _ => call = "getsockname"
  | .violation (.addressLength _) => true
  | _ => false

namespace Kernel

/-- What is told about addresses: what is kept about sockets, and the answers to queries. -/
def naming (kernel : Kernel) : List (Int × SocketFile) × Plan Bytes × Plan Bytes :=
  (kernel.files, kernel.script.socketName, kernel.script.peerName)

/-- What a socket is told about its peer, and the answers to attempts to connect. -/
def peering (fd : Int) (kernel : Kernel) : Option Bytes × Plan Bytes × Plan Int :=
  ((kernel.file fd).peer, kernel.script.peerName, kernel.script.connect)

/-- The numbers of a plan have 32 bits. -/
def Worded (plan : Plan Int) : Prop := ∀ n, some (.value n) ∈ plan → Number.narrow n = n

theorem Worded.tail {plan : Plan Int} (h : Worded plan) : Worded plan.tail :=
  fun n hmem => h n (List.mem_of_mem_tail hmem)

@[simp] theorem file_store (kernel : Kernel) (fd : Int) (file : SocketFile) :
    (kernel.store fd file).file fd = file := by
  simp [Kernel.store, Kernel.file]

theorem file_store_of_ne (kernel : Kernel) {fd other : Int} (h : fd ≠ other) (file : SocketFile) :
    (kernel.store other file).file fd = kernel.file fd := by
  have hkept (files : List (Int × SocketFile)) :
      (files.filter (·.1 != other)).lookup fd = files.lookup fd := by
    induction files with
    | nil => rfl
    | cons entry rest ih =>
      obtain ⟨key, kept⟩ := entry
      by_cases same : key = other
      · have hskip : (fd == key) = false := beq_eq_false_iff_ne.mpr (same ▸ h)
        rw [List.filter_cons_of_neg (by simp [same]), List.lookup_cons, hskip, ih]
      · rw [List.filter_cons_of_pos (by simpa using same), List.lookup_cons, List.lookup_cons, ih]
  have hskip : (fd == other) = false := beq_eq_false_iff_ne.mpr h
  unfold Kernel.store Kernel.file
  rw [List.lookup_cons, hskip, hkept]

@[simp] theorem script_store (kernel : Kernel) (fd : Int) (file : SocketFile) :
    (kernel.store fd file).script = kernel.script := rfl

/-- A number that is answered has 32 bits, if those laid down have. -/
theorem narrow_of_answer {plan : Script → Plan Int} {drop : Script → Script} {kernel : Kernel}
    (hworded : Worded (plan kernel.script)) {n : Int}
    (h : (answer plan drop id (fun kernel => (.value 0, kernel)) kernel).1 = .value n) :
    Number.narrow n = n := by
  rcases answer_value h with rfl | hmem
  · decide
  · exact hworded n hmem

/-- A call that stores something has stored it where its caller takes the answer for a success. -/
theorem storing_granted {plan : Script → Plan Int} {drop : Script → Script}
    {effect : Kernel → Kernel} {kernel : Kernel} (hworded : Worded (plan kernel.script))
    {last granted : Int}
    (h : ((storing plan drop effect kernel).1.map Number.narrow).failIf (fun number => number < 0)
      last = .value granted) :
    ∃ kernel', (storing plan drop effect kernel).2 = effect kernel' := by
  have hword : ∀ n, (answer plan drop id (fun kernel => (.value 0, kernel)) kernel).1 = .value n →
      Number.narrow n = n := fun _ => narrow_of_answer hworded
  unfold storing at h ⊢
  generalize answer plan drop id _ kernel = outcome at h hword ⊢
  obtain ⟨answer, kernel'⟩ := outcome
  cases answer with
  | failure code => cases h
  | value n =>
    dsimp only [Answer.map, Answer.failIf] at h ⊢
    rw [hword n rfl] at h
    by_cases hbelow : n < 0
    · simp [hbelow] at h
    · exact ⟨kernel', if_neg hbelow⟩

/-- A call that stores something stores nothing where its caller takes the answer for a failure. -/
theorem storing_refused {R : Kernel → Kernel → Prop} [IsPreorder Kernel R]
    {plan : Script → Plan Int} {drop : Script → Script} {effect : Kernel → Kernel} {kernel : Kernel}
    (hdrop : ∀ kernel, R kernel { kernel with script := drop kernel.script })
    (hworded : Worded (plan kernel.script)) {last code : Int}
    (h : ((storing plan drop effect kernel).1.map Number.narrow).failIf (fun number => number = -1)
      last = .failure code) :
    R kernel (storing plan drop effect kernel).2 := by
  have hanswer : R kernel (answer plan drop id (fun kernel => (.value 0, kernel)) kernel).2 :=
    within_answer hdrop (fun kernel => refl_of R kernel) kernel
  have hword : ∀ n, (answer plan drop id (fun kernel => (.value 0, kernel)) kernel).1 = .value n →
      Number.narrow n = n := fun _ => narrow_of_answer hworded
  unfold storing at h ⊢
  generalize answer plan drop id _ kernel = outcome at h hanswer hword ⊢
  obtain ⟨answer, kernel'⟩ := outcome
  cases answer with
  | failure own => exact hanswer
  | value n =>
    simp only [Answer.map, Answer.failIf, hword n rfl, decide_eq_true_eq] at h
    by_cases hminus : n = -1
    · subst hminus
      exact hanswer
    · rw [if_neg hminus] at h
      cases h

/-- A kernel after a call that stored nothing: nothing else is told about addresses, and what is
laid down for the next attempts still has 32 bits. -/
def Spares (kernel kernel' : Kernel) : Prop :=
  Worded kernel.script.connect →
    Worded kernel'.script.connect ∧ kernel'.naming = kernel.naming

instance : IsPreorder Kernel Spares where
  refl _ := fun hworded => ⟨hworded, rfl⟩
  trans _ _ _ first later := fun hworded =>
    ⟨(later (first hworded).1).1, (later (first hworded).1).2.trans (first hworded).2⟩

end Kernel

namespace Native

/-- Where a call is refused, the kernels before and after are related. -/
def Refusing {α : Type} (R : Kernel → Kernel → Prop) (call : Act Native (Answer α)) : Prop :=
  ∀ {native code native'}, call.run native = .ok (.failure code) native' →
    R native.kernel native'.kernel

end Native

namespace Socket

variable {α : Type} {socket : Socket} {native : Native} {post : α → Socket × Native → Prop}
  {raised : Fault → Socket × Native → Prop}

theorem run_lift {act : Act Native α} {a : α} {native' : Native}
    (h : act.run native = .ok a native') :
    (liftM act : SocketAct α).run (socket, native) = .ok a (socket, native') :=
  Act.focus_ok h

theorem run_lift_inv {act : Act Native α} {s s' : Socket × Native} {a : α}
    (h : (liftM act : SocketAct α).run s = .ok a s') :
    act.run s.2 = .ok a s'.2 ∧ s'.1 = s.1 := by
  cases hact : act.run s.2 with
  | ok b native' =>
    rw [show (liftM act : SocketAct α).run s = .ok b (s.1, native') from Act.focus_ok hact] at h
    cases h
    exact ⟨rfl, rfl⟩
  | error fault native' =>
    rw [show (liftM act : SocketAct α).run s = .error fault (s.1, native') from
      Act.focus_error hact] at h
    cases h

theorem triple_current (s : Socket × Native) :
    Act.Triple (· = s) current (fun socket s' => s' = s ∧ socket = s.1) raised :=
  .of_ok rfl ⟨rfl, rfl⟩

theorem triple_requireOpen {rule : Violation} {s : Socket × Native}
    (hclosed : raised (.violation rule) s) :
    Act.Triple (· = s) (requireOpen rule)
      (fun socket s' => s' = s ∧ socket = s.1 ∧ s.1.isOpen = true) raised := by
  refine .bind (triple_current s) fun socket => .pointwise ?_
  rintro s ⟨rfl, rfl⟩
  split
  · rename_i hopen
    exact .pure fun _ hs => ⟨hs, rfl, hopen⟩
  · exact .throw fun _ hs => hs ▸ hclosed

/-- What a failed call leaves is as the call left it. -/
theorem triple_orFail {name : String} {answer : Answer α} {pre : Socket × Native → Prop}
    (hvalue : ∀ a, answer = .value a → ∀ s, pre s → post a s)
    (hfailure : ∀ code, answer = .failure code → ∀ s, pre s → raised (.native name code) s) :
    Act.Triple pre (liftM (Native.orFail name answer) : SocketAct α) post raised := by
  cases answer with
  | value a =>
    refine .pointwise fun s hs => ?_
    exact .of_ok (run_lift rfl) (hvalue a rfl s hs)
  | failure code =>
    refine .focus fun s hs => ?_
    exact .throw fun _ hpart => by
      subst hpart
      exact hfailure code rfl s hs

theorem triple_toNative {address : Address} {s : Socket × Native} {family : Nat}
    (hforeign : raised (.violation (.foreignFamily address.toText)) s) :
    Act.Triple (· = s) (liftM (address.toNative family) : SocketAct Bytes) (fun _ s' => s' = s)
      raised := by
  refine .ofExcept (fun _ _ _ hs => hs) fun fault hfault s' hs => ?_
  unfold Address.toNative at hfault
  split at hfault
  · cases hfault
  · split at hfault <;> cases hfault
    exact hs ▸ hforeign

/-- To ask for the local address changes neither the socket nor what it is told about its peer, and
fails as a query. -/
theorem triple_localAddress (s : Socket × Native) (fd : Int)
    (hnaming : ∀ fault s', fault.isNaming = true → raised fault s') :
    Act.Triple (· = s) localAddress
      (fun _ s' => s'.1 = s.1 ∧ s'.2.kernel.peering fd = s.2.kernel.peering fd) raised := by
  refine .bind (triple_current s) fun socket => .pointwise ?_
  rintro s ⟨rfl, rfl⟩
  split
  · have hquery : (Kernel.socketName s.1.fd s.2.kernel).2.peering fd = s.2.kernel.peering fd := by
      unfold Kernel.socketName
      refine Kernel.within_answer (R := Act.Fixing (Kernel.peering fd)) ?_ ?_ s.2.kernel
      · exact fun _ => rfl
      · exact fun _ => rfl
    have hasked : Act.Triple (· = s)
        (liftM (Native.perform (.socketName s.1.fd) (fun _ => 0)
          (Kernel.socketName s.1.fd)) : SocketAct (Answer Bytes))
        (fun _ s' => s'.1 = s.1 ∧ s'.2.kernel.peering fd = s.2.kernel.peering fd) raised :=
      .of_ok (run_lift (Native.run_query _ s.2 _)) ⟨rfl, hquery⟩
    refine .bind hasked fun answer =>
      .via (fun _ s' => s'.1 = s.1 ∧ s'.2.kernel.peering fd = s.2.kernel.peering fd) ?_
        fun bytes => ?_
    · exact triple_orFail (fun _ _ _ hs => hs) fun _ _ _ _ => hnaming _ _ rfl
    -- What cannot be read as an address is reported as a failure to name.
    refine .ofExcept (fun _ _ _ hs => hs) fun fault hfault s' _ => hnaming fault s' ?_
    simp only [Address.ofNative, Address.ofRaw] at hfault
    split at hfault
    · cases hfault
    · split at hfault
      · split at hfault <;> cases hfault
        rfl
      · cases hfault
        rfl
  · exact .pure fun _ hs => hs ▸ ⟨rfl, rfl⟩

/-- The socket notes a port, and what it is told about its peer stays. -/
theorem triple_notePort (s : Socket × Native) (fd : Int)
    (hnaming : ∀ fault s', fault.isNaming = true → raised fault s') :
    Act.Triple (· = s) notePort
      (fun _ s' => (∃ port, s'.1 = { s.1 with localPort := port }) ∧
        s'.2.kernel.peering fd = s.2.kernel.peering fd) raised := by
  refine .bind (triple_localAddress s fd hnaming) fun address => .modify ?_
  rintro _ ⟨hsocket, hpeering⟩
  exact ⟨⟨address.port, by rw [hsocket]⟩, hpeering⟩

/-! ## Binding, connecting and disconnecting -/

/-- A socket whose system was asked for something: it is as it was, and where the system refused,
nothing else is told about addresses, provided that the plan behind it is `worded`. -/
structure Asked (worded : Prop) (s : Socket × Native) (answer : Answer Int) (s' : Socket × Native) :
    Prop where
  socket : s'.1 = s.1
  refused : ∀ code, answer = .failure code → worded → s'.2.kernel.naming = s.2.kernel.naming

/-- What a failed step of the chain leaves: the socket as it was, and nothing else told about
addresses. -/
structure Untouched (worded : Prop) (s s' : Socket × Native) : Prop where
  socket : s'.1 = s.1
  naming : worded → s'.2.kernel.naming = s.2.kernel.naming

/-- What binding leaves: the socket is bound, and nothing else is told about its peer. -/
structure Bound (s s' : Socket × Native) : Prop where
  isOpen : s.1.isOpen = true
  unbound : s.1.bound = false
  socket : ∃ port, s'.1 = { s.1 with bound := true, localPort := port }
  peering : s'.2.kernel.peering s.1.fd = s.2.kernel.peering s.1.fd

/-- What a failure before the system has agreed leaves, and for which rule it can be. -/
structure Failed (rejected worded : Prop) (s : Socket × Native) (fault : Fault)
    (s' : Socket × Native) : Prop where
  rejected : fault = .violation .alreadyBound → rejected
  untouched : fault.isNaming = false → Untouched worded s s'

section Failed

variable {rejected worded : Prop} {s : Socket × Native}

theorem failed_naming (fault : Fault) (s' : Socket × Native) (h : fault.isNaming = true) :
    Failed rejected worded s fault s' := by
  constructor
  · rintro rfl
    cases h
  · intro hother
    rw [h] at hother
    cases hother

/-- A check that fails before anything was done. -/
theorem failed_early {fault : Fault} (h : fault = .violation .alreadyBound → rejected) :
    Failed rejected worded s fault s :=
  ⟨h, fun _ => ⟨rfl, fun _ => rfl⟩⟩

theorem Asked.failed {code : Int} {s' : Socket × Native} (h : Asked worded s (.failure code) s')
    (name : String) : Failed rejected worded s (.native name code) s' :=
  ⟨nofun, fun _ => ⟨h.socket, h.refused code rfl⟩⟩

end Failed

theorem triple_askBind (raw : Bytes) (s : Socket × Native) :
    Act.Triple (· = s)
      (liftM (Native.attemptSocket (.bind s.1.fd raw) (Kernel.bind s.1.fd raw)) :
        SocketAct (Answer Int))
      (fun answer s' => Asked (Kernel.Worded s.2.kernel.script.bind) s answer s' ∧
        s'.2.kernel.peering s.1.fd = s.2.kernel.peering s.1.fd) raised := by
  have hpeering : (Kernel.bind s.1.fd raw s.2.kernel).2.peering s.1.fd =
      s.2.kernel.peering s.1.fd := by
    unfold Kernel.bind
    refine Kernel.within_storing (R := Act.Fixing (Kernel.peering s.1.fd)) ?_ ?_ s.2.kernel
    · exact fun _ => rfl
    · intro kernel
      simp [Act.Fixing, Kernel.peering]
  refine .of_ok (run_lift (Native.run_attempt _ s.2 _ _)) ⟨⟨rfl, ?_⟩, hpeering⟩
  intro code hrefused hworded
  exact Kernel.storing_refused (R := Act.Fixing Kernel.naming) (fun _ => rfl) hworded hrefused

/-- A refused attempt to connect, or to disconnect, spares what is told about addresses. -/
theorem refusing_connect (fd : Int) (raw : Bytes) :
    Native.Refusing Kernel.Spares
      (Native.attemptSocket (.connect fd raw) (Kernel.connect fd raw)) := by
  intro native code native' hrun hworded
  have hcall : (Native.attemptSocket (.connect fd raw) (Kernel.connect fd raw)).run native = _ :=
    Native.run_attempt (.connect fd raw) native (fun number => number = -1) (Kernel.connect fd raw)
  rw [hcall] at hrun
  injection hrun with hrefused hafter
  subst hafter
  refine Kernel.storing_refused (R := Kernel.Spares) (fun kernel => ?_) hworded hrefused hworded
  exact fun hplan => ⟨hplan.tail, rfl⟩

theorem succeeds_connect (fd : Int) (raw : Bytes) :
    (Native.attemptSocket (.connect fd raw) (Kernel.connect fd raw)).Succeeds := fun native =>
  ⟨_, _, Native.run_attempt _ native _ _⟩

/-- However often the system is asked, a refusal is a refusal. -/
theorem triple_askConnect {call : Act Native (Answer Int)} (hsucceeds : call.Succeeds)
    (hrefusing : Native.Refusing Kernel.Spares call) (s : Socket × Native) :
    Act.Triple (· = s) (liftM call : SocketAct (Answer Int))
      (Asked (Kernel.Worded s.2.kernel.script.connect) s) raised := by
  obtain ⟨answer, native', hrun⟩ := hsucceeds s.2
  refine .of_ok (run_lift hrun) ⟨rfl, fun code hrefused hworded => ?_⟩
  subst hrefused
  exact (hrefusing hrun hworded).2

/-- **Binding.** Where it fails before the system has agreed, nothing is left of it. -/
theorem triple_bind (address : Address) (s : Socket × Native) :
    Act.Triple (· = s) (bind address) (fun _ => Bound s)
      (Failed (s.1.isOpen = true ∧ s.1.bound = true) (Kernel.Worded s.2.kernel.script.bind) s) := by
  unfold bind
  refine .bind (triple_requireOpen (failed_early nofun)) fun socket => .pointwise ?_
  rintro s ⟨rfl, rfl, hopen⟩
  by_cases hbound : s.1.bound = true
  · rw [if_pos hbound]
    refine .throw_bind fun _ hs => ?_
    subst hs
    exact failed_early fun _ => ⟨hopen, hbound⟩
  rw [if_neg hbound]
  refine .bind (triple_toNative (failed_early nofun)) fun raw => .bind (triple_askBind raw s)
    fun answer => ?_
  -- From here on the chain goes on only if the system agreed.
  refine .via (fun _ s' => s'.1 = s.1 ∧ s'.2.kernel.peering s.1.fd = s.2.kernel.peering s.1.fd) ?_
    fun _ => ?_
  · refine triple_orFail (fun _ _ s' hs => ⟨hs.1.socket, hs.2⟩) fun code hanswer s' hs => ?_
    subst hanswer
    exact hs.1.failed "bind"
  refine .via (fun _ s' => s'.1 = { s.1 with bound := true } ∧
    s'.2.kernel.peering s.1.fd = s.2.kernel.peering s.1.fd) (.modify ?_) fun _ => ?_
  · rintro s' ⟨hsocket, hpeering⟩
    exact ⟨by rw [hsocket], hpeering⟩
  refine .via (fun _ => Bound s) (.pointwise ?_) fun _ => ?_
  · rintro s' ⟨hsocket, hpeering⟩
    refine (triple_notePort s' s.1.fd failed_naming).weaken (fun _ => id) ?_ fun _ _ => id
    rintro _ s'' ⟨⟨port, hport⟩, hstill⟩
    exact ⟨hopen, by simpa using hbound, ⟨port, by rw [hport, hsocket]⟩, hstill.trans hpeering⟩
  refine .via (fun _ => Bound s) (.pointwise ?_) fun bound => .pointwise ?_
  · intro s' hs'
    refine (triple_localAddress s' s.1.fd failed_naming).weaken (fun _ => id) ?_ fun _ _ => id
    rintro _ s'' ⟨hsocket, hstill⟩
    exact ⟨hopen, hs'.unbound, hsocket ▸ hs'.socket, hstill.trans hs'.peering⟩
  · intro s' hs'
    obtain ⟨native', hlog, hkernel⟩ := Native.run_writeLog .debug logTag _ s'.2
    refine .of_ok (run_lift hlog) ?_
    exact ⟨hopen, hs'.unbound, hs'.socket, by rw [hkernel]; exact hs'.peering⟩

/-- **Disconnecting.** Where it fails, nothing is left of it. -/
theorem triple_disconnect (s : Socket × Native) :
    Act.Triple (· = s) disconnect (fun _ _ => True)
      (fun fault s' => fault ≠ .violation .alreadyBound ∧
        Untouched (Kernel.Worded s.2.kernel.script.connect) s s') := by
  refine .bind (triple_current s) fun socket => .pointwise ?_
  rintro s ⟨rfl, rfl⟩
  by_cases hconnected : s.1.connected = true
  · rw [if_pos hconnected]
    refine .bind (triple_askConnect (succeeds_connect _ _) (refusing_connect _ _) s)
      fun answer => ?_
    cases answer with
    | value number => exact .modify fun _ _ => trivial
    | failure code =>
      dsimp only
      split
      · exact .modify fun _ _ => trivial
      · exact .throw_bind fun s' hs => ⟨nofun, hs.socket, hs.refused code rfl⟩
  · rw [if_neg hconnected]
    exact .pure fun _ _ => trivial

end Socket

end UdpTransport
