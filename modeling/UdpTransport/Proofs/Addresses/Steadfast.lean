import UdpTransport.Proofs.Addresses.Reports
import UdpTransport.Proofs.Endpoints
import UdpTransport.Proofs.Lifecycle.Standing
import UdpTransport.Proofs.Transfers

/-!
# Endpoints whose addresses stay put

What a channel remembers of its endpoint is worth something only if the addresses of the endpoint
change for a reason. `Endpoint.Steadfast` says which reasons there are: to bind, to connect, to
disconnect, to close and to send. To ask for an address, to read and to receive is none, and neither
is what else happens on the native side as long as the system tells the same about addresses.

Not every state need be like that: answers that are laid down for queries may differ from one query
to the next. The states in which the word of an endpoint can be relied on are its `steady` ones.
-/

namespace UdpTransport

/-- The addresses that an endpoint reports when it is asked: its own, and that of its peer. -/
def Endpoint.reported {ε : Type} [Endpoint ε] (s : ε × Native) :
    Except Fault Address × Except Fault (Option Address) :=
  ((Endpoint.localAddress : NativeAct ε Address).result s,
    (Endpoint.remoteAddress : NativeAct ε (Option Address)).result s)

namespace Endpoint

variable {ε : Type} [Endpoint ε]

/-- A steady endpoint stays steady and reports the same addresses. -/
def Still (steady : ε × Native → Prop) (s s' : ε × Native) : Prop :=
  steady s → steady s' ∧ reported s' = reported s

instance (steady : ε × Native → Prop) : IsPreorder (ε × Native) (Still steady) where
  refl _ h := ⟨h, rfl⟩
  trans _ _ _ first later h :=
    let ⟨hmiddle, hfirst⟩ := first h
    let ⟨hlast, hlater⟩ := later hmiddle
    ⟨hlast, hlater.trans hfirst⟩

/-- Nor is it forgotten to which address the datagram received last was sent. -/
def Idle (steady : ε × Native → Prop) (given : Address → ε × Native → Prop)
    (s s' : ε × Native) : Prop :=
  Still steady s s' ∧ ∀ address, steady s → given address s → given address s'

instance (steady : ε × Native → Prop) (given : Address → ε × Native → Prop) :
    IsPreorder (ε × Native) (Idle steady given) where
  refl s := ⟨refl_of (Still steady) s, fun _ _ h => h⟩
  trans _ _ _ first later :=
    ⟨trans_of (Still steady) first.1 later.1, fun address hsteady hgiven =>
      later.2 address (first.1 hsteady).1 (first.2 address hsteady hgiven)⟩

/-- The addresses of an endpoint change only through its own operations. What is `given` tells, of
an address that came with a received datagram, that it did. -/
structure Steadfast (steady : ε × Native → Prop) (given : Address → ε × Native → Prop) : Prop where
  localAddress : Act.Within (Idle steady given) (Endpoint.localAddress : NativeAct ε Address)
  remoteAddress :
    Act.Within (Idle steady given) (Endpoint.remoteAddress : NativeAct ε (Option Address))
  aside : ∀ {endpoint : ε} {native native' : Native},
    native'.kernel.naming = native.kernel.naming →
      Idle steady given (endpoint, native) (endpoint, native')
  read : ∀ access room,
    Act.Within (Still steady) (Endpoint.read access room : NativeAct ε Incoming)
  receive : ∀ access room,
    Act.Within (Still steady) (Endpoint.receive access room : NativeAct ε (Option Received))
  received : ∀ {access room s received s' address}, steady s →
    (Endpoint.receive access room : NativeAct ε _).run s = .ok (some received) s' →
      received.local? = some address → given address s'
  bind : ∀ address, Act.Within (Act.Keeping steady) (Endpoint.bind address : NativeAct ε Unit)
  connect : ∀ address,
    Act.Within (Act.Keeping steady) (Endpoint.connect address : NativeAct ε Unit)
  disconnect : Act.Within (Act.Keeping steady) (Endpoint.disconnect : NativeAct ε Unit)
  close : Act.Within (Act.Keeping steady) (Endpoint.close : NativeAct ε Unit)
  send : ∀ request, Act.Within (Act.Keeping steady) (Endpoint.send request : NativeAct ε Int)

end Endpoint

/-! ## In-memory endpoints -/

namespace MemoryEndpoint

open Endpoint (Still Idle Steadfast)

/-- No datagram that is laid down says which address it was sent to. -/
def Unaddressed (s : MemoryEndpoint × Native) : Prop :=
  ∀ bytes sender address reported,
    Inbound.datagram bytes sender (some address) reported ∉ s.1.inbound

/-- What is laid down may be used up: the addresses are the same, and nothing else is received. -/
theorem draws_still : Draws (Still Unaddressed) where
  record _ _ _ h := ⟨h, rfl⟩
  results _ _ h := ⟨h, rfl⟩
  failures _ _ h := ⟨h, rfl⟩
  inbound _ h := ⟨fun bytes sender address reported hmem =>
    h bytes sender address reported (List.mem_of_mem_tail hmem), rfl⟩

theorem draws_unaddressed : Draws (Act.Keeping Unaddressed) :=
  draws_still.mono fun _ _ hstill h => (hstill h).1

/-- What is received was laid down. -/
theorem mem_of_nextInbound {connected : Bool} {access : Access} {room : Nat} {item : Inbound}
    {s s' : MemoryEndpoint × Native} (h : (nextInbound connected access room).run s = .ok item s') :
    item = .nothing ∨ item ∈ s.1.inbound := by
  obtain ⟨⟨_, _, _, _, inbound, _, _, _, isOpen⟩, native⟩ := s
  cases isOpen with
  | false => cases h
  | true =>
    cases inbound with
    | nil =>
      cases h
      exact .inl rfl
    | cons head rest =>
      cases h
      exact .inr List.mem_cons_self

/-- An in-memory endpoint is steadfast; no address comes with what it receives if none is laid
down. -/
theorem steadfast : Steadfast (ε := MemoryEndpoint) Unaddressed fun _ _ => False where
  localAddress s := refl_of (Idle Unaddressed fun _ _ => False) s
  remoteAddress s := refl_of (Idle Unaddressed fun _ _ => False) s
  aside _ := ⟨fun h => ⟨h, rfl⟩, fun _ _ h => h⟩
  read := draws_still.read
  receive := draws_still.receive
  received {access room s received s' address} hsteady hrun hlocal := by
    obtain ⟨item, taken, hnext, hrest⟩ := Act.bind_ok_iff.mp hrun
    cases item with
    | failed fault => cases hrest
    | nothing => cases hrest
    | datagram bytes sender local? reported =>
      cases hrest
      cases hlocal
      rcases mem_of_nextInbound hnext with hnothing | hmem
      · cases hnothing
      · exact hsteady bytes sender address reported hmem
  bind address :=
    draws_unaddressed.asked (.bind · address) (fun _ => rfl) .bind fun _ => id
  connect address :=
    draws_unaddressed.asked (.connect · address) (fun _ => rfl) .connect fun _ => id
  disconnect := draws_unaddressed.asked .disconnect (fun _ => rfl) .disconnect fun _ => id
  close := draws_unaddressed.close fun _ => id
  send := draws_unaddressed.send

end MemoryEndpoint

/-! ## Sockets -/

namespace Kernel

/-- What calls that ask for no name leave of what is told about addresses. -/
theorem naming_answer {α β : Type} {plan : Script → Plan α} {drop : Script → Script} {given : α → β}
    {own : Kernel → Answer β × Kernel}
    (hdrop : ∀ kernel, naming { kernel with script := drop kernel.script } = naming kernel)
    (hown : ∀ kernel, (own kernel).2.naming = kernel.naming) (kernel : Kernel) :
    (answer plan drop given own kernel).2.naming = kernel.naming :=
  within_answer (R := Act.Fixing naming) hdrop hown kernel

/-- No answer is laid down for a query of an address. -/
def Candid (kernel : Kernel) : Prop := kernel.script.socketName = [] ∧ kernel.script.peerName = []

theorem candid_of_naming {kernel kernel' : Kernel} (h : kernel'.naming = kernel.naming)
    (hcandid : kernel.Candid) : kernel'.Candid := by
  obtain ⟨-, hparts⟩ := Prod.mk.inj h
  obtain ⟨hsocket, hpeer⟩ := Prod.mk.inj hparts
  exact ⟨hsocket.trans hcandid.1, hpeer.trans hcandid.2⟩

theorem naming_changeInterest (kernel : Kernel) :
    (changeInterest kernel).2.naming = kernel.naming := by
  unfold changeInterest
  refine naming_answer ?_ ?_ kernel
  · exact fun _ => rfl
  · exact fun _ => rfl

end Kernel

namespace Native

/-- What is told about addresses. -/
def naming (native : Native) : List (Int × SocketFile) × Plan Bytes × Plan Bytes :=
  native.kernel.naming

theorem naming_writeLog (level : Log.Level) (tag text : String) :
    Act.Within (Act.Fixing naming) (writeLog level tag text) :=
  within_writeLog_of (fun _ _ _ _ => rfl) (fun _ _ => rfl) level tag text

theorem naming_attempt {failed : Int → Bool} {call : SystemCall}
    {run : Kernel → Answer Int × Kernel} (h : ∀ kernel, (run kernel).2.naming = kernel.naming) :
    Act.Within (Act.Fixing naming) (attempt failed call run) := fun native => h native.kernel

/-- The system goes on telling the same about addresses if no answer is laid down. -/
def Tells (native native' : Native) : Prop :=
  native.kernel.Candid → native'.kernel.naming = native.kernel.naming

instance : IsPreorder Native Tells where
  refl _ _ := rfl
  trans _ _ _ first later h := (later (Kernel.candid_of_naming (first h) h)).trans (first h)

theorem tells_perform {α : Type} {call : SystemCall} {result : α → Int}
    {run : Kernel → Answer α × Kernel}
    (h : ∀ kernel, kernel.Candid → (run kernel).2.naming = kernel.naming) :
    Act.Within Tells (perform call result run) := fun native => h native.kernel

theorem carries_tells : Carries Tells where
  socketName fd := tells_perform fun kernel hcandid => by
    rw [Kernel.socketName, Kernel.answer_of_nil hcandid.1]
  peerName fd := tells_perform fun kernel hcandid => by
    rw [Kernel.peerName, Kernel.answer_of_nil hcandid.2]
    split <;> rfl
  receive fd room := tells_perform fun kernel _ =>
    Kernel.naming_answer (fun _ => rfl) (fun _ => rfl) kernel
  receiveMessage fd room := tells_perform fun kernel _ =>
    Kernel.naming_answer (fun _ => rfl) (fun _ => rfl) kernel
  sendMessage fd raw regions control := tells_perform fun kernel _ =>
    Kernel.naming_answer (fun _ => rfl) (fun _ => rfl) kernel
  log level tag text := (naming_writeLog level tag text).mono fun _ _ h _ => h

/-- No answer is laid down for a query of an address, and none will be. -/
abbrev StaysCandid : Native → Native → Prop := Act.Keeping fun native => native.kernel.Candid

theorem conducts_staysCandid : Conducts StaysCandid where
  toCarries := carries_tells.mono fun _ _ htells h => Kernel.candid_of_naming (htells h) h
  bind fd raw native := by
    refine Kernel.within_storing (R := Act.Keeping Kernel.Candid) ?_ ?_ native.kernel
    · exact fun _ => id
    · exact fun _ => id
  connect fd raw native := by
    refine Kernel.within_storing (R := Act.Keeping Kernel.Candid) ?_ ?_ native.kernel
    · exact fun _ => id
    · exact fun _ => id

theorem staysCandid_close (fd : Int) : Act.Within StaysCandid (close fd) := by
  intro native
  show Act.Keeping Kernel.Candid native.kernel (Kernel.close native.kernel).2
  refine Kernel.within_answer (R := Act.Keeping Kernel.Candid) ?_ ?_ native.kernel
  · exact fun _ => id
  · exact fun _ => id

end Native

namespace Socket

open Endpoint (Still Idle Steadfast reported)

/-- The system tells what it knows of the addresses of its sockets. -/
def Answered (s : Socket × Native) : Prop := s.2.kernel.Candid

/-- Control messages can tell that this address was sent to. -/
def Controlled (address : Address) (s : Socket × Native) : Prop :=
  ∃ views, localOfControl s.1.localPort views = some address

/-- What a socket reports hangs on the socket and on what the system tells. -/
theorem reported_of_naming {socket : Socket} {native native' : Native}
    (h : native'.kernel.naming = native.kernel.naming) :
    reported (socket, native') = reported (socket, native) := by
  have hfiles : native'.kernel.files = native.kernel.files := congrArg Prod.fst h
  have hpeer : (Kernel.peerName socket.fd native'.kernel).1 =
      (Kernel.peerName socket.fd native.kernel).1 :=
    Kernel.peerName_congr (congrArg (fun parts => parts.2.2) h)
      (by rw [Kernel.file, Kernel.file, hfiles])
  exact Prod.ext (result_localAddress_congr (Kernel.socketName_congr h _))
    (result_remoteAddress_congr rfl rfl hpeer)

theorem idle_of_across {s s' : Socket × Native} (h : Across Native.Tells s s') :
    Idle Answered Controlled s s' := by
  obtain ⟨socket, native⟩ := s
  obtain ⟨socket', native'⟩ := s'
  obtain ⟨hsocket, htells⟩ := h
  cases hsocket
  refine ⟨fun hsteady => ?_, fun _ _ => id⟩
  exact ⟨Kernel.candid_of_naming (htells hsteady) hsteady, reported_of_naming (htells hsteady)⟩

theorem spans_answered : Spans Native.StaysCandid (Act.Keeping Answered) where
  across _ _ h := h.2
  port _ _ := id
  bound _ := id
  connected _ := id

theorem answered_close : Act.Within (Act.Keeping Answered) close := by
  refine Act.within_bind (Act.within_of_after fun _ => rfl) fun socket => ?_
  split
  · refine Act.within_bind (Act.within_modify fun _ => id) fun _ => ?_
    refine Act.within_bind (spans_answered.lift (Native.staysCandid_close _)) fun answer => ?_
    refine Act.within_bind (spans_answered.lift (Native.within_orFail _ answer)) fun _ => ?_
    exact spans_answered.lift (Native.conducts_staysCandid.log _ _ _)
  · exact Act.within_pure _

/-- The local address that comes with a datagram is taken from control messages. -/
theorem controlled_of_receive {access : Access} {room : Nat} {s s' : Socket × Native}
    {received : Received} {address : Address}
    (hrun : (Endpoint.receive access room : SocketAct _).run s = .ok (some received) s')
    (hlocal : received.local? = some address) : Controlled address s' := by
  have hsame : s'.1 = s.1 :=
    (Act.after_of_ok hrun ▸ across_endpoint_receive Native.carries_tells access room s).1
  obtain ⟨views, hviews⟩ := (delivered_of_endpoint hrun).local?
  exact ⟨views, hsame ▸ hviews.symm.trans hlocal⟩

theorem steadfast : Steadfast (ε := Socket) Answered Controlled where
  localAddress := (across_localAddress Native.carries_tells).mono fun _ _ => idle_of_across
  remoteAddress := (across_remoteAddress Native.carries_tells).mono fun _ _ => idle_of_across
  aside h := idle_of_across ⟨rfl, fun _ => h⟩
  read access room := (across_endpoint_read Native.carries_tells access room).mono
    fun _ _ h => (idle_of_across h).1
  receive access room := (across_endpoint_receive Native.carries_tells access room).mono
    fun _ _ h => (idle_of_across h).1
  received _ := controlled_of_receive
  bind := spans_answered.bind Native.conducts_staysCandid
  connect := spans_answered.connect Native.conducts_staysCandid
  disconnect := spans_answered.disconnect Native.conducts_staysCandid fun _ => id
  close := answered_close
  send request := (across_serve Native.carries_tells request).mono
    fun _ _ h hsteady => ((idle_of_across h).1 hsteady).1

end Socket

end UdpTransport
