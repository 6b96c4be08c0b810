import UdpTransport.Proofs.Addresses.Reports
import UdpTransport.Proofs.Descriptors.Sockets
import UdpTransport.Proofs.Transfers

/-!
# The port of a reported local address

A control message names the host that a datagram was sent to but no port; the socket completes it by
the port that it noted (`Socket.localPort`) when it was bound or connected. The system may give a
socket a port at other times, too: a socket that sends before it is bound is given one then.

`PortTrace` says what a system does that is truthful about the port of one socket: which events give
a port, and that each query for the local address is answered by the port of that moment. The
queries are answered by what was laid down for them, in order. `Socket.port_of_received` says over
such a system when the port of a reported local address is the socket's port.
-/

namespace UdpTransport

/-! ## A system that is truthful about a port -/

/-- There is a port afterwards; one that was there stays. -/
def GivenPort (port port' : Nat) : Prop := 0 < port' ∧ (0 < port → port' = port)

namespace Event

/-- A query for the local address. -/
def asksName : Event → Bool
  | .call (.socketName _) _ => true
  | _ => false

/-- A send that the system took. -/
def sends : Event → Bool
  | .call (.sendMessage ..) (.value _) => true
  | _ => false

/-- What an event may do to the local port of the socket that it is about. The system binds a socket
to a port that is asked for, gives one to a socket that connects or sends without one, and otherwise
leaves the port as it is; a refusal has an error number. -/
def Ports (port port' : Nat) : Event → Prop
  | .call (.bind _ _) (.value n) => n = 0 ∧ 0 < port'
  | .call (.connect _ raw) (.value n) =>
    n = 0 ∧ if Address.rawFamily raw = Family.unspecified then port' = port
      else GivenPort port port'
  | .call (.bind _ _) (.failure code) => code ≠ 0 ∧ port' = port
  | .call (.connect _ _) (.failure code) => code ≠ 0 ∧ port' = port
  | .call (.sendMessage ..) (.value _) => GivenPort port port'
  | _ => port' = port

end Event

/-- An address as an internet socket has it from the system. -/
structure Names (port : Nat) (raw : Bytes) : Prop where
  internet : Address.rawFamily raw = Family.ipv4 ∨ Address.rawFamily raw = Family.ipv6
  length_le : raw.length ≤ Address.capacity
  port : Address.rawPort raw = port

/-- The port of a socket from one moment to a later one, over the events in between, on a system
that answers the queries for the local address by `names`. -/
inductive PortTrace : Nat → List Event → Plan Bytes → Nat → Prop
  | nil (port : Nat) (names : Plan Bytes) : PortTrace port [] names port
  | named {port port' : Nat} {event : Event} {events : List Event} {raw : Bytes}
      {names : Plan Bytes} :
    event.asksName = true → Names port raw → PortTrace port events names port' →
    PortTrace port (event :: events) (some (.value raw) :: names) port'
  | other {port middle port' : Nat} {event : Event} {events : List Event} {names : Plan Bytes} :
    event.asksName = false → event.Ports port middle → PortTrace middle events names port' →
    PortTrace port (event :: events) names port'

/-- A trace can be cut anywhere, and the port at the cut is one that the system could have told. -/
theorem PortTrace.split {first later : List Event} {port port' : Nat} {names : Plan Bytes}
    (h : PortTrace port (first ++ later) names port') :
    ∃ middle, PortTrace port first names middle ∧
      PortTrace middle later (names.drop (first.countP Event.asksName)) port' := by
  induction first generalizing port names with
  | nil => exact ⟨port, .nil _ _, h⟩
  | cons event first ih =>
    cases h with
    | named hasks hnames hrest =>
      obtain ⟨middle, hfirst, hlater⟩ := ih hrest
      refine ⟨middle, .named hasks hnames hfirst, ?_⟩
      rw [List.countP_cons_of_pos hasks]
      exact hlater
    | other hother hports hrest =>
      obtain ⟨middle, hfirst, hlater⟩ := ih hrest
      refine ⟨middle, .other hother hports hfirst, ?_⟩
      rwa [List.countP_cons_of_neg (by simp [hother])]

/-- One event that is no query. -/
theorem PortTrace.of_other {event : Event} {port port' : Nat} {names : Plan Bytes}
    (h : PortTrace port [event] names port') (hother : event.asksName = false) :
    event.Ports port port' := by
  cases h with
  | named hasks => exact absurd (hother.symm.trans hasks) Bool.false_ne_true
  | other _ hports hrest =>
    cases hrest
    exact hports

/-- One query. -/
theorem PortTrace.of_query {event : Event} {port port' : Nat} {names : Plan Bytes}
    (h : PortTrace port [event] names port') (hasks : event.asksName = true) :
    port' = port ∧ ∃ raw rest, names = some (.value raw) :: rest ∧ Names port raw := by
  cases h with
  | named _ hnames hrest =>
    cases hrest
    exact ⟨rfl, _, _, rfl, hnames⟩
  | other hother => exact absurd (hother.symm.trans hasks) Bool.false_ne_true

/-! ## Native steps -/

namespace Native

/-- The answers laid down for queries for a local address. -/
def names (native : Native) : Plan Bytes := native.kernel.script.socketName

/-- What happened in between was written down, and the queries for the local address used up the
answers laid down for them. -/
structure Records (events : List Event) (native native' : Native) : Prop where
  journal : native'.journal.toList = native.journal.toList ++ events
  names : native'.names = native.names.drop (events.countP Event.asksName)

theorem Records.refl (native : Native) : Records [] native native := ⟨by simp, rfl⟩

/-- What is recorded of two steps is one after the other. -/
theorem Records.trans {first later : List Event} {native native' native'' : Native}
    (hfirst : Records first native native') (hlater : Records later native' native'') :
    Records (first ++ later) native native'' where
  journal := by rw [hlater.journal, hfirst.journal, List.append_assoc]
  names := by rw [hlater.names, hfirst.names, List.drop_drop, List.countP_append]

/-- A port that is there stays, and one is given only by a send. -/
structure Stays (events : List Event) (port port' : Nat) : Prop where
  given : 0 < port → port' = port
  sent : events.any Event.sends = true ∨ port' = port

/-- No port is asked for. -/
def Quiet (native native' : Native) : Prop :=
  ∃ events, Records events native native' ∧
    ∀ {port port'}, PortTrace port events native.names port' → Stays events port port'

instance : IsPreorder Native Quiet where
  refl native := ⟨[], .refl native, fun h => by cases h; exact ⟨fun _ => rfl, .inr rfl⟩⟩
  trans := by
    rintro native native' native'' ⟨first, hfirst, hstays⟩ ⟨later, hlater, hstays'⟩
    refine ⟨first ++ later, hfirst.trans hlater, fun h => ?_⟩
    obtain ⟨middle, htrace, htrace'⟩ := h.split
    rw [← hfirst.names] at htrace'
    have hbefore := hstays htrace
    have hafter := hstays' htrace'
    constructor
    case given =>
      intro hport
      have hsame := hbefore.given hport
      exact (hafter.given (hsame ▸ hport)).trans hsame
    case sent =>
      rw [List.any_append, Bool.or_eq_true]
      rcases hbefore.sent with hsent | hsame
      · exact .inl (.inl hsent)
      · exact hafter.sent.imp .inr fun h => h.trans hsame

/-- One event that is no query. -/
theorem records_event {event : Event} {native native' : Native} (hother : event.asksName = false)
    (hjournal : native'.journal = native.journal.push event)
    (hnames : native'.names = native.names) :
    Records [event] native native' := by
  refine ⟨by rw [hjournal, Array.toList_push], ?_⟩
  rw [List.countP_cons_of_neg (by simp [hother])]
  exact hnames

/-- An event is quiet that asks for no name and changes a port only where there was none, by
sending. -/
theorem quiet_event {event : Event} {native native' : Native} (hother : event.asksName = false)
    (hjournal : native'.journal = native.journal.push event) (hnames : native'.names = native.names)
    (h : ∀ {port port'}, event.Ports port port' →
      (0 < port → port' = port) ∧ (event.sends = true ∨ port' = port)) : Quiet native native' := by
  refine ⟨[event], records_event hother hjournal hnames, fun htrace => ?_⟩
  obtain ⟨hgiven, hsent⟩ := h (htrace.of_other hother)
  exact ⟨hgiven, hsent.imp (fun hsends => by simp [hsends]) id⟩

/-- The kernel answers without being asked for a name. -/
theorem names_answer {α β : Type} {plan : Script → Plan α} {drop : Script → Script} {given : α → β}
    {own : Kernel → Answer β × Kernel}
    (hdrop : ∀ script, (drop script).socketName = script.socketName)
    (hown : ∀ kernel, (own kernel).2.script.socketName = kernel.script.socketName)
    (kernel : Kernel) :
    (Kernel.answer plan drop given own kernel).2.script.socketName = kernel.script.socketName :=
  Kernel.within_answer (R := Act.Fixing fun kernel => kernel.script.socketName)
    (fun kernel => hdrop kernel.script) hown kernel

/-- To store something in a file leaves the names laid down. -/
theorem names_storing {plan : Script → Plan Int} {drop : Script → Script} {effect : Kernel → Kernel}
    (hdrop : ∀ script, (drop script).socketName = script.socketName)
    (heffect : ∀ kernel, (effect kernel).script.socketName = kernel.script.socketName)
    (kernel : Kernel) :
    (Kernel.storing plan drop effect kernel).2.script.socketName = kernel.script.socketName :=
  Kernel.within_storing (R := Act.Fixing fun kernel => kernel.script.socketName)
    (fun kernel => hdrop kernel.script) heffect kernel

section Calls

variable {α : Type} {call : SystemCall} {run : Kernel → Answer α × Kernel}

/-- A call is quiet if its event is, whatever the answer. -/
theorem quiet_perform {result : α → Int} (hother : ∀ seen, (Event.call call seen).asksName = false)
    (hnames : ∀ kernel, (run kernel).2.script.socketName = kernel.script.socketName)
    (h : ∀ seen {port port'}, (Event.call call seen).Ports port port' →
      (0 < port → port' = port) ∧ ((Event.call call seen).sends = true ∨ port' = port)) :
    Act.Within Quiet (perform call result run) := fun native =>
  quiet_event (hother _) rfl (hnames native.kernel) (h _)

/-- A query uses up an answer, whatever it is. -/
theorem records_query (fd : Int) (native : Native) :
    ∃ seen, Records [.call (.socketName fd) seen] native
      (native.called (.socketName fd) (fun _ => 0) (Kernel.socketName fd)) := by
  refine ⟨_, Array.toList_push, ?_⟩
  rw [List.countP_cons_of_pos rfl, List.countP_nil, List.drop_one]
  show (Kernel.socketName fd native.kernel).2.script.socketName =
    native.kernel.script.socketName.tail
  unfold Kernel.socketName
  cases hplan : native.kernel.script.socketName with
  | nil =>
    rw [Kernel.answer_of_nil hplan]
    exact hplan
  | cons head rest =>
    cases head with
    | none =>
      rw [Kernel.answer_of_none hplan]
      exact congrArg List.tail hplan
    | some answer =>
      rw [Kernel.answer_of_some hplan]
      exact congrArg List.tail hplan

end Calls

/-- Only a send can give a port here, and only where there is none. -/
theorem quiet_carries : Carries Quiet where
  socketName fd native := by
    rw [Act.after_of_ok (run_query ..)]
    obtain ⟨seen, hrecords⟩ := records_query fd native
    refine ⟨_, hrecords, fun htrace => ?_⟩
    obtain ⟨hsame, -⟩ := htrace.of_query rfl
    exact ⟨fun _ => hsame, .inr hsame⟩
  peerName fd := by
    refine quiet_perform (fun _ => rfl) (names_answer (fun _ => rfl) fun kernel => ?_)
      fun _ _ _ h => ⟨fun _ => h, .inr h⟩
    split <;> rfl
  receive fd room := by
    refine quiet_perform (fun _ => rfl) ?_ fun _ _ _ h => ⟨fun _ => h, .inr h⟩
    exact names_answer (fun _ => rfl) fun _ => rfl
  receiveMessage fd room := by
    refine quiet_perform (fun _ => rfl) ?_ fun _ _ _ h => ⟨fun _ => h, .inr h⟩
    exact names_answer (fun _ => rfl) fun _ => rfl
  sendMessage fd raw regions control := by
    refine quiet_perform (fun _ => rfl) ?_ fun seen _ _ h => ?_
    · exact names_answer (fun _ => rfl) fun _ => rfl
    -- Only a send that goes through may give the socket a port, and it is in the journal then.
    cases seen with
    | value n => exact ⟨h.2, .inl rfl⟩
    | failure code => exact ⟨fun _ => h, .inr h⟩
  log level tag text := by
    refine within_writeLog_of (fun level tag text native => ?_) (fun native _ => ?_) level tag text
    · exact quiet_event rfl rfl rfl fun hports => ⟨fun _ => hports, .inr hports⟩
    · exact ⟨[], ⟨by simp, rfl⟩, fun h => by cases h; exact ⟨fun _ => rfl, .inr rfl⟩⟩

/-- To disconnect asks for no port. -/
theorem quiet_disconnect (fd : Int) {raw : Bytes}
    (hnone : Address.rawFamily raw = Family.unspecified) :
    Act.Within Quiet (attemptSocket (.connect fd raw) (Kernel.connect fd raw)) := by
  have hnames : ∀ kernel, (Kernel.connect fd raw kernel).2.script.socketName =
      kernel.script.socketName := names_storing (fun _ => rfl) fun _ => rfl
  refine fun native => quiet_event rfl rfl (hnames native.kernel) fun h => ?_
  generalize Answer.failIf _ _ _ = seen at h
  cases seen with
  | value n =>
    obtain ⟨-, hsame⟩ := h
    rw [if_pos hnone] at hsame
    exact ⟨fun _ => hsame, .inr hsame⟩
  | failure code => exact ⟨fun _ => h.2, .inr h.2⟩

/-- A call that asks for a port: it is there if the system agreed, and stays as it was if not. -/
def Claims (native : Native) (answer : Answer Int) (native' : Native) : Prop :=
  ∃ events, Records events native native' ∧
    ∀ {port port'}, PortTrace port events native.names port' →
      match answer with
      | .value _ => 0 < port'
      | .failure _ => port' = port

/-- A call that asks for a port however it ends. -/
def Claiming (call : Act Native (Answer Int)) : Prop :=
  ∀ native, ∃ answer native', call.run native = .ok answer native' ∧ Claims native answer native'

/-- A call claims a port by succeeding, and changes none by failing. -/
theorem claiming_attempt {call : SystemCall} {run : Kernel → Answer Int × Kernel}
    (hother : ∀ seen, (Event.call call seen).asksName = false)
    (hnames : ∀ kernel, (run kernel).2.script.socketName = kernel.script.socketName)
    (hvalue : ∀ {n port port'}, (Event.call call (.value n)).Ports port port' → n = 0 ∧ 0 < port')
    (hfailure : ∀ {code port port'}, (Event.call call (.failure code)).Ports port port' →
      code ≠ 0 ∧ port' = port) : Claiming (attemptSocket call run) := by
  intro native
  refine ⟨_, _, run_attempt call native (fun number => number = -1) run,
    [.call call _], records_event (hother _) rfl (hnames native.kernel), fun htrace => ?_⟩
  have hports := htrace.of_other (hother _)
  generalize (run native.kernel).1 = answer at hports ⊢
  cases answer with
  | failure code => exact (hfailure hports).2
  | value n =>
    by_cases hbelow : n < 0
    · -- A number below zero is written down as a refusal without a number, which no system gives.
      simp only [Answer.map, Answer.failIf, id, hbelow, decide_true, if_true] at hports
      exact absurd rfl (hfailure hports).1
    · simp only [Answer.map, Answer.failIf, id, hbelow, decide_false] at hports
      obtain ⟨rfl, hgiven⟩ := hvalue hports
      exact hgiven

/-- A bind that succeeds has claimed a port. -/
theorem claiming_bind (fd : Int) (raw : Bytes) :
    Claiming (attemptSocket (.bind fd raw) (Kernel.bind fd raw)) :=
  claiming_attempt (fun _ => rfl) (names_storing (fun _ => rfl) fun _ => rfl) id id

/-- So has a connect to a peer. -/
theorem claiming_connect (fd : Int) {raw : Bytes}
    (hpeer : Address.rawFamily raw ≠ Family.unspecified) :
    Claiming (attemptSocket (.connect fd raw) (Kernel.connect fd raw)) := by
  refine claiming_attempt (fun _ => rfl) (names_storing (fun _ => rfl) fun _ => rfl)
    (fun h => ?_) id
  obtain ⟨hzero, hgiven⟩ := h
  rw [if_neg hpeer] at hgiven
  exact ⟨hzero, hgiven.1⟩

/-- Interruptions give no port. -/
theorem claiming_retry {call : Act Native (Answer Int)} (h : Claiming call) (times : Nat) :
    Claiming (Socket.retry times call) := by
  induction times with
  | zero => exact h
  | succ times ih =>
    intro native
    obtain ⟨answer, native', hrun, hclaims⟩ := h native
    rw [Socket.retry, Act.bind_of_ok hrun]
    cases answer with
    | value n => exact ⟨_, _, rfl, hclaims⟩
    | failure code =>
      dsimp only
      split
      · obtain ⟨events, hrecords, hsame⟩ := hclaims
        obtain ⟨answer, native'', hrest, others, hrecords', hclaims⟩ := ih native'
        refine ⟨answer, native'', hrest, events ++ others, hrecords.trans hrecords',
          fun htrace => ?_⟩
        obtain ⟨middle, hfirst, hlater⟩ := htrace.split
        rw [← hrecords.names, hsame hfirst] at hlater
        exact hclaims hlater
      · exact ⟨_, _, rfl, hclaims⟩

/-- Calls that are interrupted claim nothing until the one that counts. -/
theorem claiming_persist {β : Type} (plan : Script → Plan β) {call : Act Native (Answer Int)}
    (h : Claiming call) : Claiming (Socket.persist plan call) := fun native =>
  claiming_retry h _ native

end Native

/-! ## What the socket has noted -/

/-- A name is read with its port. -/
theorem Names.read {port : Nat} {raw : Bytes} (h : Names port raw) :
    ∃ read, Address.ofNative raw raw.length = .ok read ∧ read.port = port := by
  by_cases hmapped : Address.rawFamily raw = Family.ipv6 ∧
      Address.isMapped (Address.rawHost6 raw) = true
  · refine ⟨_, Address.ofNative_of_mapped h.length_le hmapped.1 hmapped.2, ?_⟩
    rw [Address.port_ofHost4 (Address.rawPort_lt raw), h.port]
  · have hnonempty : raw ≠ [] := by
      rintro rfl
      rcases h.internet with hfamily | hfamily <;> exact absurd hfamily (by decide)
    refine ⟨_, Address.ofNative_of_not_mapped h.length_le hnonempty hmapped, ?_⟩
    rcases h.internet with hfamily | hfamily <;>
      simp [Address.port, Address.isInternet, Address.family, hfamily, h.port]

namespace Socket

open Native (Records Claiming)

/-- A socket that is bound has noted its port; one that is not has noted none. -/
structure Noted (port : Nat) (socket : Socket) : Prop where
  bound : socket.bound = true → socket.isOpen = true ∧ 0 < port ∧ socket.localPort = port
  unbound : socket.bound = false → socket.localPort = 0

/-- What a socket does on a system that is truthful about its port: it notes the port that it is
given when it is bound, and one that is not bound is given a port only by a send. -/
structure Notes (events : List Event) (s s' : Socket × Native) : Prop where
  records : Records events s.2 s'.2
  fd : s'.1.fd = s.1.fd
  family : s'.1.family = s.1.family
  noted : ∀ {port port'}, PortTrace port events s.2.names port' → Noted port s.1 → Noted port' s'.1
  unbound : ∀ {port port'}, PortTrace port events s.2.names port' → s'.1.bound = false →
    s.1.bound = false ∧ (events.any Event.sends = true ∨ port' = port)

/-- What is noted of two operations. -/
theorem Notes.trans {first later : List Event} {s s' s'' : Socket × Native}
    (hfirst : Notes first s s') (hlater : Notes later s' s'') : Notes (first ++ later) s s'' where
  records := hfirst.records.trans hlater.records
  fd := hlater.fd.trans hfirst.fd
  family := hlater.family.trans hfirst.family
  noted h hnoted := by
    obtain ⟨middle, htrace, htrace'⟩ := h.split
    rw [← hfirst.records.names] at htrace'
    exact hlater.noted htrace' (hfirst.noted htrace hnoted)
  unbound h hunbound := by
    obtain ⟨middle, htrace, htrace'⟩ := h.split
    rw [← hfirst.records.names] at htrace'
    obtain ⟨hmiddle, hlast⟩ := hlater.unbound htrace' hunbound
    obtain ⟨hbefore, hstart⟩ := hfirst.unbound htrace hmiddle
    refine ⟨hbefore, ?_⟩
    rw [List.any_append, Bool.or_eq_true]
    rcases hstart with hsent | hsame
    · exact .inl (.inl hsent)
    · exact hlast.imp .inr fun h => h.trans hsame

/-- Whatever the events. -/
def Noting (s s' : Socket × Native) : Prop := ∃ events, Notes events s s'

instance : IsPreorder (Socket × Native) Noting where
  refl s := ⟨[], .refl s.2, rfl, rfl, fun h hnoted => by cases h; exact hnoted,
    fun h hunbound => by cases h; exact ⟨hunbound, .inr rfl⟩⟩
  trans := by
    rintro _ _ _ ⟨first, hfirst⟩ ⟨later, hlater⟩
    exact ⟨first ++ later, hfirst.trans hlater⟩

/-- While nothing asks for a port, what was noted stays right. -/
theorem noting_of_quiet {s s' : Socket × Native} (h : Across Native.Quiet s s') : Noting s s' := by
  obtain ⟨hsocket, events, hrecords, hstays⟩ := h
  refine ⟨events, hrecords, by rw [hsocket], by rw [hsocket], fun htrace hnoted => ?_,
    fun htrace hunbound => ⟨hsocket ▸ hunbound, (hstays htrace).sent⟩⟩
  rw [hsocket]
  constructor
  case bound =>
    intro hbound
    obtain ⟨hopen, hport, hsame⟩ := hnoted.bound hbound
    have hstill := (hstays htrace).given hport
    exact ⟨hopen, hstill ▸ hport, hsame.trans hstill.symm⟩
  case unbound => exact hnoted.unbound

theorem noting_across {α : Type} {act : SocketAct α} (h : Act.Within (Across Native.Quiet) act) :
    Act.Within Noting act := h.mono fun _ _ => noting_of_quiet

theorem noting_lift {α : Type} {act : Act Native α} (h : Act.Within Native.Quiet act) :
    Act.Within Noting (liftM act : SocketAct α) := noting_across (across_lift h)

/-! ## Asking for a port -/

/-- A query on a truthful system gives the port of that moment. -/
theorem asked_localAddress {s : Socket × Native} (hopen : s.1.isOpen = true) :
    ∃ event, event.asksName = true ∧ Records [event] s.2 (localAddress.after s).2 ∧
      (localAddress.after s).1 = s.1 ∧
      ∀ {port port'}, PortTrace port [event] s.2.names port' →
        port' = port ∧ ∃ read, localAddress.result s = .ok read ∧ read.port = port := by
  have hquery : (liftM (Native.perform (.socketName s.1.fd) (fun _ => 0)
      (Kernel.socketName s.1.fd)) : SocketAct (Answer Bytes)).run s =
        .ok (Kernel.socketName s.1.fd s.2.kernel).1
          (s.1, s.2.called (.socketName s.1.fd) (fun _ => 0) (Kernel.socketName s.1.fd)) :=
    run_lift (Native.run_query (.socketName s.1.fd) s.2 (Kernel.socketName s.1.fd))
  obtain ⟨seen, hrecords⟩ := Native.records_query s.1.fd s.2
  refine ⟨.call (.socketName s.1.fd) seen, rfl, ?_,
    (across_localAddress Native.quiet_carries s).1, fun htrace => ?_⟩
  · have hafter : (localAddress.after s).2 =
        s.2.called (.socketName s.1.fd) (fun _ => 0) (Kernel.socketName s.1.fd) := by
      unfold localAddress
      rw [Act.after_bind_of_ok (run_current s), if_pos hopen, Act.after_bind_of_ok hquery]
      cases (Kernel.socketName s.1.fd s.2.kernel).1 with
      | failure code => rfl
      | value bytes =>
        exact congrArg Prod.snd (Act.after_ofExcept (Address.ofNative bytes bytes.length)
          (s.1, s.2.called (.socketName s.1.fd) (fun _ => 0) (Kernel.socketName s.1.fd)))
    rw [hafter]
    exact hrecords
  -- The trace tells which answer the system had ready, and that answer is the port.
  · obtain ⟨hsame, raw, rest, hplan, hnames⟩ := htrace.of_query rfl
    obtain ⟨read, hread, hport⟩ := hnames.read
    refine ⟨hsame, read, ?_, hport⟩
    have hanswer : (Kernel.socketName s.1.fd s.2.kernel).1 = .value raw := by
      unfold Kernel.socketName
      rw [Kernel.answer_of_some hplan]
      rfl
    unfold localAddress
    rw [Act.result_congr (Act.bind_of_ok (run_current s)), if_pos hopen,
      Act.result_congr (Act.bind_of_ok hquery), hanswer]
    exact Act.result_of_ok (Act.ofExcept_ok_iff.mpr ⟨hread, rfl⟩)

/-- A socket that was just bound notes the port that it was given. -/
theorem noting_notePort {f : Socket → Socket} (hbound : ∀ socket, (f socket).bound = true)
    (hfd : ∀ socket, (f socket).fd = socket.fd)
    (hfamily : ∀ socket, (f socket).family = socket.family)
    {s : Socket × Native} (hopen : s.1.isOpen = true) {n : Int} {native : Native}
    (hclaims : Native.Claims s.2 (.value n) native) :
    Noting s (notePort.after (f s.1, native)) := by
  obtain ⟨events, hrecords, hgiven⟩ := hclaims
  have hstill : (f s.1).isOpen = true := isOpen_iff.mpr (hfd s.1 ▸ isOpen_iff.mp hopen)
  obtain ⟨event, hasks, hquery, hsocket, hread⟩ :=
    asked_localAddress (s := (f s.1, native)) hstill
  -- Whether or not the query fails, the socket is bound, and it has noted what it was told.
  have hafter : notePort.after (f s.1, native) =
      (match localAddress.result (f s.1, native) with
        | .ok read => { f s.1 with localPort := read.port }
        | .error _ => f s.1, (localAddress.after (f s.1, native)).2) := by
    have hpair : localAddress.after (f s.1, native) =
        (f s.1, (localAddress.after (f s.1, native)).2) := Prod.ext hsocket rfl
    unfold notePort
    cases hrun : localAddress.result (f s.1, native) with
    | ok read =>
      rw [Act.after_bind_of_ok (Act.run_of_result hrun), hpair]
      rfl
    | error fault => rw [Act.after_of_error (Act.bind_of_error (Act.error_of_result hrun)), hpair]
  refine ⟨events ++ [event], ?_, ?_, ?_, fun htrace _ => ?_, fun htrace hunbound => ?_⟩
  · rw [hafter]
    exact hrecords.trans hquery
  · rw [hafter]
    dsimp only
    split <;> exact hfd s.1
  · rw [hafter]
    dsimp only
    split <;> exact hfamily s.1
  · obtain ⟨middle, hclaimed, hasked⟩ := htrace.split
    rw [← hrecords.names] at hasked
    obtain ⟨rfl, read, hresult, hport⟩ := hread hasked
    rw [hafter, hresult]
    refine ⟨fun _ => ⟨hstill, hgiven hclaimed, hport⟩, fun hunbound => ?_⟩
    exact absurd ((hbound s.1).symm.trans hunbound) Bool.false_ne_true.symm
  · rw [hafter] at hunbound
    dsimp only at hunbound
    split at hunbound <;> exact absurd ((hbound s.1).symm.trans hunbound) Bool.false_ne_true.symm

/-- To ask for a port and to note it is one step. -/
theorem noting_claim {call : Act Native (Answer Int)} (hcall : Claiming call) (name : String)
    {f : Socket → Socket} (hbound : ∀ socket, (f socket).bound = true)
    (hfd : ∀ socket, (f socket).fd = socket.fd)
    (hfamily : ∀ socket, (f socket).family = socket.family)
    {rest : SocketAct Unit} (hrest : Act.Within Noting rest) {s : Socket × Native}
    (hopen : s.1.isOpen = true) :
    Noting s (Act.after (do
      let answer ← (liftM call : SocketAct (Answer Int))
      let _ ← (liftM (Native.orFail name answer) : SocketAct Int)
      change f
      notePort
      rest) s) := by
  obtain ⟨answer, native, hrun, hclaims⟩ := hcall s.2
  rw [Act.after_bind_of_ok (run_lift hrun)]
  cases answer with
  | failure code =>
    obtain ⟨events, hrecords, hsame⟩ := hclaims
    refine noting_of_quiet ⟨rfl, events, hrecords, fun htrace => ?_⟩
    exact ⟨fun _ => hsame htrace, .inr (hsame htrace)⟩
  | value n =>
    have hagreed : (liftM (Native.orFail name (.value n)) : SocketAct Int).run (s.1, native) =
      .ok n (s.1, native) := rfl
    have hchange : (change f).run (s.1, native) = .ok () (f s.1, native) := rfl
    rw [Act.after_bind_of_ok hagreed, Act.after_bind_of_ok hchange]
    have hnoted := noting_notePort hbound hfd hfamily hopen hclaims
    -- A port that cannot be asked for stays what it was, and the rest is not reached.
    cases hnote : notePort.run (f s.1, native) with
    | ok _ noted =>
      rw [Act.after_of_ok hnote] at hnoted
      rw [Act.after_bind_of_ok hnote]
      exact trans_of Noting hnoted (hrest noted)
    | error fault noted =>
      rw [Act.after_of_error hnote] at hnoted
      rw [Act.after_of_error (Act.bind_of_error hnote)]
      exact hnoted

/-- What is done to an open socket only. -/
theorem noting_requireOpen {α : Type} {rule : Violation} {next : Socket → SocketAct α}
    (h : ∀ s : Socket × Native, s.1.isOpen = true → Noting s ((next s.1).after s)) :
    Act.Within Noting (requireOpen rule >>= next) := by
  intro s
  cases hopen : s.1.isOpen with
  | false =>
    rw [after_requireOpen_closed hopen]
    exact refl_of Noting s
  | true =>
    rw [Act.after_bind_of_ok (run_requireOpen hopen)]
    exact h s hopen

/-- A foreign address is refused before anything is asked. -/
theorem noting_toNative {α : Type} {address : Address} {family : Nat} {next : Bytes → SocketAct α}
    {s : Socket × Native}
    (h : ∀ raw, address.toNative family = .ok raw → Noting s ((next raw).after s)) :
    Noting s (((liftM (address.toNative family) : SocketAct Bytes) >>= next).after s) := by
  cases hraw : address.toNative family with
  | ok raw =>
    have hrun : (liftM (Except.ok raw : Except Fault Bytes) : SocketAct Bytes).run s =
      .ok raw s := rfl
    rw [Act.after_bind_of_ok hrun]
    exact h raw hraw
  | error fault => exact refl_of Noting s

/-- To ask for the address notes its port. -/
theorem noting_localAddress : Act.Within Noting localAddress :=
  noting_across (across_localAddress Native.quiet_carries)

theorem noting_bind (address : Address) : Act.Within Noting (bind address) := by
  refine noting_requireOpen fun s hopen => ?_
  split
  · exact refl_of Noting s
  refine noting_toNative fun raw _ => ?_
  refine noting_claim (f := fun socket => { socket with bound := true })
    (Native.claiming_bind _ raw) "bind" (fun _ => rfl) (fun _ => rfl) (fun _ => rfl) ?_ hopen
  exact Act.within_bind noting_localAddress fun _ => noting_lift (Native.quiet_carries.log _ _ _)

/-- A peer belongs to a family. -/
theorem rawFamily_of_toNative {address : Address} {family : Nat} {raw : Bytes}
    (hinternet : family = Family.ipv4 ∨ family = Family.ipv6)
    (h : address.toNative family = .ok raw) : Address.rawFamily raw ≠ Family.unspecified := by
  rcases Address.toNative_ok_iff.mp h with ⟨hown, rfl⟩ | ⟨-, -, rfl⟩
  · rw [show Address.rawFamily address.bytes = family from hown]
    rcases hinternet with rfl | rfl <;> decide
  · rw [Address.rawFamily_raw6]
    decide

theorem noting_connect (address : Address) {s : Socket × Native}
    (hinternet : s.1.family = Family.ipv4 ∨ s.1.family = Family.ipv6) :
    Noting s ((connect address).after s) := by
  cases hopen : s.1.isOpen with
  | false =>
    unfold connect
    rw [after_requireOpen_closed hopen]
    exact refl_of Noting s
  | true =>
    unfold connect
    rw [Act.after_bind_of_ok (run_requireOpen hopen)]
    refine noting_toNative fun raw hraw => ?_
    have hpeer := rawFamily_of_toNative hinternet hraw
    have hclaim := noting_claim
      (f := fun socket => { socket with bound := true, connected := true })
      (Native.claiming_persist Script.connect (Native.claiming_connect s.1.fd hpeer)) "connect"
      (fun _ => rfl) (fun _ => rfl) (fun _ => rfl) (Act.within_pure ()) hopen
    simpa only [bind_pure_unit] using hclaim

/-- A disconnect keeps the port, which the system keeps too. -/
theorem noting_disconnect : Act.Within Noting disconnect := by
  have hforget : Act.Within Noting (change fun socket => { socket with connected := false }) := by
    intro s
    refine ⟨[], .refl s.2, rfl, rfl, fun htrace hnoted => ?_, fun htrace hunbound => ?_⟩
    · cases htrace
      exact ⟨hnoted.bound, hnoted.unbound⟩
    · cases htrace
      exact ⟨hunbound, .inr rfl⟩
  have hnone : Address.rawFamily (Bytes.zeros Address.capacity) = Family.unspecified := by
    decide +kernel
  refine Act.within_bind (Act.within_of_after fun _ => rfl) fun socket => ?_
  split
  · refine Act.within_bind (noting_lift (Native.quiet_disconnect _ hnone)) fun answer => ?_
    cases answer with
    | value _ => exact hforget
    | failure code =>
      dsimp only
      split
      · exact hforget
      · exact Act.within_of_after fun _ => rfl
  · exact Act.within_pure _

/-! ## Any operations -/

/-- What is done with a socket between its making and its closing. -/
inductive SocketOp where
  | bind (address : Address)
  | connect (address : Address)
  | disconnect
  | send (request : SendRequest)
  | read (access : Access) (room : Nat)
  | receive (access : Access) (room : Nat)
  | localAddress
  | remoteAddress

/-- Runs an operation, whatever it gives. -/
def SocketOp.run : SocketOp → SocketAct Unit
  | bind address => Socket.bind address
  | connect address => Socket.connect address
  | disconnect => Socket.disconnect
  | send request => do
    let _ ← (Endpoint.send request : SocketAct Int)
  | read access room => do
    let _ ← (Endpoint.read access room : SocketAct Incoming)
  | receive access room => do
    let _ ← (Endpoint.receive access room : SocketAct (Option Received))
  | localAddress => do
    let _ ← Socket.localAddress
  | remoteAddress => do
    let _ ← Socket.remoteAddress

/-- Runs operations one after the other; what one fails with stops none of the others. -/
def runSocket : List SocketOp → Socket × Native → Socket × Native
  | [], s => s
  | op :: ops, s => runSocket ops (op.run.after s)

/-- **One operation.** -/
theorem SocketOp.noting (op : SocketOp) {s : Socket × Native}
    (hinternet : s.1.family = Family.ipv4 ∨ s.1.family = Family.ipv6) :
    Noting s (op.run.after s) := by
  have hquiet : ∀ {α : Type} {act : SocketAct α}, Act.Within (Across Native.Quiet) act →
      Noting s ((act >>= fun _ => pure ()).after s) := fun h => by
    rw [Act.after_bind_pure]
    exact noting_of_quiet (h s)
  cases op with
  | bind address => exact noting_bind address s
  | connect address => exact noting_connect address hinternet
  | disconnect => exact noting_disconnect s
  | send request => exact hquiet (across_serve Native.quiet_carries request)
  | read access room => exact hquiet (across_endpoint_read Native.quiet_carries access room)
  | receive access room => exact hquiet (across_endpoint_receive Native.quiet_carries access room)
  | localAddress => exact hquiet (across_localAddress Native.quiet_carries)
  | remoteAddress => exact hquiet (across_remoteAddress Native.quiet_carries)

/-- **What a socket has noted after any operations is what the system told it.** -/
theorem noting_runSocket (ops : List SocketOp) {s : Socket × Native}
    (hinternet : s.1.family = Family.ipv4 ∨ s.1.family = Family.ipv6) :
    Noting s (runSocket ops s) := by
  induction ops generalizing s with
  | nil => exact refl_of Noting s
  | cons op ops ih =>
    obtain ⟨events, hnotes⟩ := op.noting hinternet
    exact trans_of Noting ⟨events, hnotes⟩ (ih (hnotes.family ▸ hinternet))

/-! ## What is reported -/

/-- A reported local address has the port that it was completed by. -/
theorem port_of_control {port : Nat} (h : port < Bytes.span 2) {views : List ControlView}
    {address : Address} (hlocal : localOfControl port views = some address) :
    address.port = port := by
  induction views with
  | nil => cases hlocal
  | cons view rest ih =>
    unfold localOfControl at hlocal
    split at hlocal
    · cases hlocal
      exact Address.port_ofHost4 h _
    · split at hlocal
      · cases hlocal
        unfold reported6
        split
        · exact Address.port_ofHost4 h _
        · exact Address.port_ofHost6 h _ _
      · exact ih hlocal

/-- A socket completes a reported local address by the port that it has noted. -/
theorem port_of_noted {port : Nat} {socket : Socket} (h : Noted port socket)
    {views : List ControlView} {address : Address}
    (hlocal : localOfControl socket.localPort views = some address) :
    (socket.bound = true → port < Bytes.span 2 → address.port = port) ∧
      (socket.bound = false → address.port = 0) := by
  refine ⟨fun hbound hlimit => ?_, fun hunbound => ?_⟩
  · obtain ⟨-, -, hsame⟩ := h.bound hbound
    rw [hsame] at hlocal
    exact port_of_control hlimit hlocal
  · rw [h.unbound hunbound] at hlocal
    exact port_of_control (by decide) hlocal

/-- A closed socket has no name to tell. -/
theorem run_localAddress_closed {s : Socket × Native} (h : s.1.isOpen = false) :
    localAddress.run s = .ok .unspecified s := by
  show EStateM.run (if s.1.isOpen = true then _ else _) _ = _
  rw [h, if_neg Bool.false_ne_true]
  rfl

/-- What happened between two moments was written down. -/
def Wrote (events : List Event) (s s' : Socket × Native) : Prop :=
  s'.2.journal.toList = s.2.journal.toList ++ events

/-- **The port of a reported local address.** Let any operations be done with a new socket, on a
system that is truthful about its port. If a receive then reports a local address, its port is the
one that the system names next, provided that the socket was bound or connected, or has not sent
anything; a socket that was neither reports no port. -/
theorem port_of_received {s : Socket × Native}
    (hinternet : s.1.family = Family.ipv4 ∨ s.1.family = Family.ipv6)
    (hunbound : s.1.bound = false) (hnone : s.1.localPort = 0) (ops : List SocketOp)
    (access : Access) (room : Nat) {received : Received} {address asked : Address}
    {events : List Event} {port : Nat} :
    let before := runSocket ops s
    let receive : SocketAct (Option Received) := Endpoint.receive access room
    receive.result before = .ok (some received) → received.local? = some address →
    localAddress.result (receive.after before) = .ok asked →
    Wrote events s (localAddress.after (receive.after before)) →
    PortTrace 0 events s.2.names port →
      (before.1.bound = true ∨ events.any Event.sends = false → address.port = asked.port) ∧
        (before.1.bound = false → address.port = 0) := by
  intro before receive hreceived hlocal hasked hevents htrace
  obtain ⟨first, hfirst⟩ := noting_runSocket ops hinternet
  have hacross := across_endpoint_receive Native.quiet_carries access room before
  obtain ⟨later, hlater⟩ := noting_of_quiet hacross
  have hnotes := hfirst.trans hlater
  have hsocket : (receive.after before).1 = before.1 := hacross.1
  obtain ⟨views, hviews⟩ := (delivered_of_endpoint (Act.run_of_result hreceived)).local?
  have hfresh : Noted 0 s.1 :=
    ⟨fun hbound => absurd (hunbound.symm.trans hbound) Bool.false_ne_true, fun _ => hnone⟩
  cases hopen : (receive.after before).1.isOpen with
  | true =>
    obtain ⟨event, hasks, hquery, -, hread⟩ := asked_localAddress hopen
    have hall : first ++ later ++ [event] = events :=
      List.append_cancel_left ((hnotes.records.trans hquery).journal.symm.trans hevents)
    rw [← hall] at htrace ⊢
    obtain ⟨middle, hdone, hlast⟩ := htrace.split
    rw [← hnotes.records.names] at hlast
    obtain ⟨-, read, hresult, hport⟩ := hread hlast
    cases hasked.symm.trans hresult
    have hnoted : Noted middle before.1 := hsocket ▸ hnotes.noted hdone hfresh
    have hlimit : middle < Bytes.span 2 := by
      obtain ⟨-, raw, rest, -, hnames⟩ := hlast.of_query hasks
      exact hnames.port ▸ Address.rawPort_lt raw
    obtain ⟨hagreed, hzero⟩ := port_of_noted hnoted (hviews.symm.trans hlocal)
    refine ⟨fun hwhen => ?_, hzero⟩
    cases hbound : before.1.bound with
    | true => rw [hagreed hbound hlimit, hport]
    | false =>
      -- The port was not given by a bind or a connect, and nothing was sent.
      have hunsent := hwhen.resolve_left (by simp [hbound])
      rw [List.any_append, Bool.or_eq_false_iff] at hunsent
      obtain ⟨-, hsent⟩ := hnotes.unbound hdone (hsocket ▸ hbound)
      have hmiddle : middle = 0 := hsent.resolve_left (by simp [hunsent.1])
      rw [hzero hbound, hport, hmiddle]
  | false =>
    have hrun := run_localAddress_closed hopen
    rw [Wrote, Act.after_of_ok hrun] at hevents
    rw [Act.result_of_ok hrun] at hasked
    cases hasked
    have hall : first ++ later = events :=
      List.append_cancel_left (hnotes.records.journal.symm.trans hevents)
    have hnoted : Noted port before.1 := hsocket ▸ hnotes.noted (hall ▸ htrace) hfresh
    have hunbound : before.1.bound = false := by
      by_contra hbound
      obtain ⟨hstill, -⟩ := hnoted.bound (by simpa using hbound)
      exact Bool.false_ne_true (hopen.symm.trans ((congrArg isOpen hsocket).trans hstill))
    have hzero := (port_of_noted hnoted (hviews.symm.trans hlocal)).2 hunbound
    exact ⟨fun _ => hzero, fun _ => hzero⟩

/-- A socket of IPv4 that is neither bound nor connected. On a system that names `names` to it, a
datagram arrives whose control message says that it was sent to the machine itself. -/
def awaiting (names : Plan Bytes) : Socket × Native :=
  let control : ControlMessage :=
    { level := Number.ipv4Level, type := Number.packetInfo4,
      data := Bytes.zeros 8 ++ [127, 0, 0, 1] }
  let arrival : Arrival := ⟨[1], Address.raw4 9 [127, 0, 0, 1], [control]⟩
  ({ fd := 3, family := Family.ipv4 },
    { kernel := { script := { socketName := names, receiveMessage := [some (.value arrival)] } } })

/-- A socket that is bound reports its port. One that has only sent something was given a port by
the system, and does not report it. -/
theorem port_of_received_sent :
    let home : Address := .loopback 9000 Family.ipv4
    let peer : Address := .loopback 9 Family.ipv4
    let name : Option (Answer Bytes) := some (.value home.bytes)
    let receive : SocketAct (Option Received) := Endpoint.receive .view 8
    let bound := runSocket [.bind home] (awaiting [name, name, name])
    let sent := runSocket [.send ⟨.single .view [7], some peer, 0⟩] (awaiting [name])
    (∃ address asked, receive.result bound = .ok (some ⟨[1], 1, peer, some address⟩) ∧
        localAddress.result (receive.after bound) = .ok asked ∧
        address.port = asked.port ∧ asked.port = 9000) ∧
      ∃ address asked, receive.result sent = .ok (some ⟨[1], 1, peer, some address⟩) ∧
        localAddress.result (receive.after sent) = .ok asked ∧
        address.port = 0 ∧ asked.port = 9000 := by
  intro home peer name receive bound sent
  have hname : Names 9000 home.bytes := ⟨.inl (by decide), by decide, by decide⟩
  have hbound : receive.result bound = .ok (some ⟨[1], 1, peer, some home⟩) := by decide +kernel
  have hsent : receive.result sent =
      .ok (some ⟨[1], 1, peer, some (.loopback 0 Family.ipv4)⟩) := by decide +kernel
  have hnamed : localAddress.result (receive.after bound) = .ok home := by decide +kernel
  have hgiven : localAddress.result (receive.after sent) = .ok home := by decide +kernel
  -- The two journals: a bound socket asks for its name at once, the other only when it is asked.
  obtain ⟨boundEvents, hboundEvents⟩ : ∃ events : List Event, events =
      [.call (.bind 3 home.bytes) (.value 0), .call (.socketName 3) (.value 0),
        .call (.socketName 3) (.value 0), .call (.receiveMessage 3 8 128 40 0) (.value 1),
        .call (.socketName 3) (.value 0)] := ⟨_, rfl⟩
  obtain ⟨sentEvents, hsentEvents⟩ : ∃ events : List Event, events =
      [.call (.sendMessage 3 (some peer.bytes) [.ofBytes [7]] none Number.noSignal) (.value 1),
        .call (.receiveMessage 3 8 128 40 0) (.value 1),
        .call (.socketName 3) (.value 0)] := ⟨_, rfl⟩
  have hboundTrace : PortTrace 0 boundEvents (awaiting [name, name, name]).2.names 9000 := by
    rw [hboundEvents]
    exact .other rfl ⟨rfl, by decide⟩ (.named rfl hname (.named rfl hname (.other rfl rfl
      (.named rfl hname (.nil 9000 [])))))
  have hsentTrace : PortTrace 0 sentEvents (awaiting [name]).2.names 9000 := by
    rw [hsentEvents]
    exact .other rfl ⟨by decide, nofun⟩ (.other rfl rfl (.named rfl hname (.nil 9000 [])))
  have hboundJournal : Wrote boundEvents (awaiting [name, name, name])
      (localAddress.after (receive.after bound)) := by
    rw [hboundEvents, Wrote]
    decide +kernel
  have hsentJournal : Wrote sentEvents (awaiting [name])
      (localAddress.after (receive.after sent)) := by
    rw [hsentEvents, Wrote]
    decide +kernel
  obtain ⟨hsame, -⟩ := port_of_received (.inl rfl) rfl rfl [.bind home] .view 8 hbound rfl hnamed
    hboundJournal hboundTrace
  obtain ⟨-, hzero⟩ := port_of_received (.inl rfl) rfl rfl
    [.send ⟨.single .view [7], some peer, 0⟩] .view 8 hsent rfl hgiven hsentJournal hsentTrace
  have hport : home.port = 9000 := by decide +kernel
  exact ⟨⟨_, _, hbound, hnamed, hsame (.inl (by decide +kernel)), hport⟩,
    _, _, hsent, hgiven, hzero (by decide +kernel), hport⟩

end Socket

end UdpTransport
