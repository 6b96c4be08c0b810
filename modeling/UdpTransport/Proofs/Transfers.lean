import UdpTransport.Endpoint.Basic
import UdpTransport.Proofs.Calls

/-!
# What a socket does, call by call

While a socket names its addresses, sends and receives, it stays as it is and talks to the system.
What holds along the calls that it makes then (`Native.Carries`) holds along the whole operation
(`Socket.Across`), however the memory is handed over.

To bind, to connect and to disconnect also changes the flags of the socket and the port that it has
noted. A relation that holds along these changes too (`Socket.Spans`) holds along these operations.
-/

namespace UdpTransport

/-- A relation that holds along the calls by which a socket asks for its addresses, sends and
receives, and along what it logs. -/
structure Native.Carries (N : Native → Native → Prop) : Prop where
  socketName : ∀ fd, Act.Within N (perform (.socketName fd) (fun _ => 0) (Kernel.socketName fd))
  peerName : ∀ fd, Act.Within N (perform (.peerName fd) (fun _ => 0) (Kernel.peerName fd))
  receive : ∀ fd room, Act.Within N
    (perform (.receive fd room 0) (fun bytes => bytes.length) (Kernel.receive room))
  receiveMessage : ∀ fd room, Act.Within N
    (perform (.receiveMessage fd room Address.capacity Socket.controlRoom 0)
      (fun reception => reception.bytes.length) (Kernel.receiveMessage room Socket.controlRoom))
  sendMessage : ∀ fd raw regions control, Act.Within N
    (perform (.sendMessage fd raw regions control Number.noSignal) id (Kernel.sendMessage regions))
  log : ∀ level tag text, Act.Within N (writeLog level tag text)

/-- A coarser relation carries what a finer one does. -/
theorem Native.Carries.mono {N N' : Native → Native → Prop} (h : Carries N)
    (himp : ∀ native native', N native native' → N' native native') : Carries N' where
  socketName fd := (h.socketName fd).mono himp
  peerName fd := (h.peerName fd).mono himp
  receive fd room := (h.receive fd room).mono himp
  receiveMessage fd room := (h.receiveMessage fd room).mono himp
  sendMessage fd raw regions control := (h.sendMessage fd raw regions control).mono himp
  log level tag text := (h.log level tag text).mono himp

/-- A relation that holds as well along the calls by which a socket binds, connects and
disconnects. -/
structure Native.Conducts (N : Native → Native → Prop) : Prop extends Native.Carries N where
  bind : ∀ fd raw, Act.Within N (attemptSocket (.bind fd raw) (Kernel.bind fd raw))
  connect : ∀ fd raw, Act.Within N (attemptSocket (.connect fd raw) (Kernel.connect fd raw))

/-- The native side does not matter. -/
def Native.Anyhow (_ _ : Native) : Prop := True

instance : IsPreorder Native Native.Anyhow where
  refl _ := trivial
  trans _ _ _ _ _ := trivial

theorem Native.conducts_anyhow : Native.Conducts Native.Anyhow where
  socketName _ _ := trivial
  peerName _ _ := trivial
  receive _ _ _ := trivial
  receiveMessage _ _ _ := trivial
  sendMessage _ _ _ _ _ := trivial
  log _ _ _ _ := trivial
  bind _ _ _ := trivial
  connect _ _ _ := trivial

namespace Socket

/-- The socket is as it was, and the native sides are related. -/
def Across (N : Native → Native → Prop) (s s' : Socket × Native) : Prop :=
  s'.1 = s.1 ∧ N s.2 s'.2

variable {N : Native → Native → Prop} [IsPreorder Native N]

instance : IsPreorder (Socket × Native) (Across N) where
  refl s := ⟨rfl, refl_of N s.2⟩
  trans _ _ _ first later := ⟨later.1.trans first.1, trans_of N first.2 later.2⟩

omit [IsPreorder Native N] in
/-- What the native side does without the socket leaves the socket alone. -/
theorem across_lift {α : Type} {act : Act Native α} (h : Act.Within N act) :
    Act.Within (Across N) (liftM act : SocketAct α) := by
  intro s
  rw [show (liftM act : SocketAct α).after s = (s.1, act.after s.2) from Act.after_focus ..]
  exact ⟨rfl, h s.2⟩

/-- To ask for a name is one system call. -/
theorem across_localAddress (h : Native.Carries N) : Act.Within (Across N) localAddress := by
  refine Act.within_bind (Act.within_of_after fun _ => rfl) fun socket => ?_
  split
  · refine Act.within_bind (across_lift (h.socketName _)) fun answer => ?_
    exact Act.within_bind (across_lift (Native.within_orFail _ answer)) fun _ =>
      Act.within_ofExcept _
  · exact Act.within_pure _

/-- What comes of a call that may be refused for a reason that is none. -/
theorem across_refused {α : Type} {value : α} {excused : Prop} [Decidable excused] (fault : Fault) :
    Act.Within (Across N)
      (if excused then pure value else throw fault : SocketAct α) := by
  split
  · exact Act.within_pure _
  · exact Act.within_throw _

theorem across_remoteAddress (h : Native.Carries N) : Act.Within (Across N) remoteAddress := by
  refine Act.within_bind (Act.within_of_after fun _ => rfl) fun socket => ?_
  split
  · refine Act.within_bind (across_lift (h.peerName _)) fun answer => ?_
    cases answer with
    | value bytes => exact Act.within_bind (Act.within_ofExcept _) fun _ => Act.within_pure _
    | failure code => exact across_refused _
  · exact Act.within_pure _

/-- A read repeats its call as long as it is interrupted. -/
theorem across_read (h : Native.Carries N) (room : Nat) : Act.Within (Across N) (read room) := by
  refine Act.within_bind (Act.within_of_after fun _ => rfl) fun socket => ?_
  refine Act.within_bind (across_lift (within_persist _ (h.receive _ room))) fun answer => ?_
  cases answer with
  | value bytes => exact Act.within_pure _
  | failure code => exact across_refused _

/-- What a receive makes of what it got. -/
def deliver (socket : Socket) (reception : Reception) : SocketAct (Option Received) := do
  let sender ← Address.ofNative reception.sender reception.sender.length
  pure (some
    { bytes := reception.bytes
      amount := reception.bytes.length
      sender := sender
      local? := localOfControl socket.localPort (ControlMessage.views reception.control) })

/-- What was received is put together without the system. -/
theorem across_deliver (socket : Socket) (reception : Reception) :
    Act.Within (Across N) (deliver socket reception) :=
  Act.within_bind (Act.within_ofExcept _) fun _ => Act.within_pure _

/-- A receive is a call and what is put together of its answer. -/
theorem across_receive (h : Native.Carries N) (room : Nat) :
    Act.Within (Across N) (receive room) := by
  refine Act.within_bind (Act.within_of_after fun _ => rfl) fun socket => ?_
  refine Act.within_bind (across_lift (within_persist _ (h.receiveMessage _ room))) fun answer => ?_
  cases answer with
  | failure code => exact across_refused _
  | value reception =>
    dsimp only
    split
    · exact Act.within_bind (across_lift (h.log _ _ _)) fun _ => across_deliver socket reception
    · exact across_deliver socket reception

/-- The name of the recipient in a send, if there is one. -/
abbrev translate (recipient : Option Address) (family : Nat) : SocketAct (Option Bytes) :=
  recipient.mapM fun address => (liftM (address.toNative family) : SocketAct Bytes)

theorem run_translate_some {address : Address} {family : Nat} {raw : Bytes}
    (h : address.toNative family = .ok raw) (s : Socket × Native) :
    (translate (some address) family).run s = .ok (some raw) s := by
  have hlift : (liftM (address.toNative family) : SocketAct Bytes).run s = .ok raw s :=
    Act.ofExcept_ok_iff.mpr ⟨h, rfl⟩
  exact Act.bind_of_ok hlift

/-- An address is translated before anything is sent. -/
theorem across_translate (recipient : Option Address) (family : Nat) :
    Act.Within (Across N) (translate recipient family) := by
  cases recipient with
  | none => exact Act.within_pure none
  | some address =>
    show Act.Within _ (liftM (address.toNative family) >>= fun raw => pure (some raw))
    exact Act.within_bind (Act.within_ofExcept _) fun _ => Act.within_pure _

/-- A message is one call, whatever its regions. -/
theorem across_sendRegions (h : Native.Carries N) (regions : List Region)
    (recipient : Option Address) (segmentSize : Int) :
    Act.Within (Across N) (sendRegions regions recipient segmentSize) := by
  refine Act.within_bind (Act.within_of_after fun _ => rfl) fun socket => ?_
  refine Act.within_bind (across_translate recipient socket.family) fun raw => ?_
  refine Act.within_bind (Act.within_ofExcept _) fun control => ?_
  refine Act.within_bind (across_lift (within_persist _ (h.sendMessage _ raw regions control)))
    fun answer => ?_
  cases answer with
  | value amount => exact Act.within_pure _
  | failure code => exact across_refused _

/-- So is a request, in each of its forms. -/
theorem across_serve (h : Native.Carries N) (request : SendRequest) :
    Act.Within (Across N) (serve request) := by
  have hsend : ∀ bytes, Act.Within (Across N) (send bytes request.recipient request.segmentSize) :=
    fun bytes => Act.within_bind (across_sendRegions h _ _ _) fun _ => Act.within_pure _
  unfold serve
  split
  · exact Act.within_bind (Act.within_ofExcept _) fun _ => hsend _
  · exact hsend _
  · exact across_sendRegions h _ _ _

/-! ## However memory is handed over -/

theorem across_endpoint_read (h : Native.Carries N) (access : Access) (room : Nat) :
    Act.Within (Across N) (Endpoint.read access room : SocketAct Incoming) := by
  cases access with
  | view => exact across_read h room
  | address => exact across_read h room

theorem across_endpoint_receive (h : Native.Carries N) (access : Access) (room : Nat) :
    Act.Within (Across N) (Endpoint.receive access room : SocketAct (Option Received)) := by
  cases access with
  | view => exact across_receive h room
  | address => exact across_receive h room

/-! ## Binding and connecting -/

omit [IsPreorder Native N] in
theorem after_requireOpen (rule : Violation) (s : Socket × Native) :
    (requireOpen rule).after s = s := by
  show Act.after (if s.1.isOpen = true then pure s.1 else Act.violate rule) s = s
  split <;> rfl

/-- A relation that holds along what a socket asks and notes when it binds and connects. -/
structure Spans (N : Native → Native → Prop) (R : Socket × Native → Socket × Native → Prop) :
    Prop where
  across : ∀ s s', Across N s s' → R s s'
  port : ∀ (s : Socket × Native) port, R s ({ s.1 with localPort := port }, s.2)
  bound : ∀ s : Socket × Native, R s ({ s.1 with bound := true }, s.2)
  connected : ∀ s : Socket × Native, R s ({ s.1 with bound := true, connected := true }, s.2)

section Spans

variable {R : Socket × Native → Socket × Native → Prop} [IsPreorder (Socket × Native) R]

omit [IsPreorder Native N] [IsPreorder (Socket × Native) R] in
/-- What spans a relation of the native side spans the steps that do without the socket. -/
theorem Spans.lift (hspans : Spans N R) {α : Type} {act : Act Native α} (h : Act.Within N act) :
    Act.Within R (liftM act : SocketAct α) := (across_lift h).mono hspans.across

/-- To look the port up changes the port, and only that. -/
theorem Spans.notePort (hspans : Spans N R) (h : Native.Carries N) : Act.Within R notePort :=
  Act.within_bind ((across_localAddress h).mono hspans.across) fun _ =>
    Act.within_modify fun s => hspans.port s _

/-- A bind is a call and, if it succeeds, what is noted of it. -/
theorem Spans.bind (hspans : Spans N R) (h : Native.Conducts N) (address : Address) :
    Act.Within R (bind address) := by
  refine Act.within_bind (Act.within_of_after (after_requireOpen _)) fun socket => ?_
  split
  · exact Act.within_of_after fun _ => rfl
  refine Act.within_bind (Act.within_ofExcept _) fun raw => ?_
  refine Act.within_bind (hspans.lift (h.bind _ _)) fun answer => ?_
  refine Act.within_bind (hspans.lift (Native.within_orFail _ answer)) fun _ => ?_
  refine Act.within_bind (Act.within_modify hspans.bound) fun _ => ?_
  refine Act.within_bind (hspans.notePort h.toCarries) fun _ => ?_
  exact Act.within_bind ((across_localAddress h.toCarries).mono hspans.across) fun _ =>
    hspans.lift (h.log _ _ _)

/-- A connect as well. -/
theorem Spans.connect (hspans : Spans N R) (h : Native.Conducts N) (address : Address) :
    Act.Within R (connect address) := by
  refine Act.within_bind (Act.within_of_after (after_requireOpen _)) fun socket => ?_
  refine Act.within_bind (Act.within_ofExcept _) fun raw => ?_
  refine Act.within_bind (hspans.lift (within_persist _ (h.connect _ raw))) fun answer => ?_
  refine Act.within_bind (hspans.lift (Native.within_orFail _ answer)) fun _ => ?_
  exact Act.within_bind (Act.within_modify hspans.connected) fun _ => hspans.notePort h.toCarries

omit [IsPreorder Native N] in
/-- A disconnect forgets the connection even if the system refuses. -/
theorem Spans.disconnect (hspans : Spans N R) (h : Native.Conducts N)
    (hloose : ∀ s : Socket × Native, R s ({ s.1 with connected := false }, s.2)) :
    Act.Within R disconnect := by
  have hdone : Act.Within R (change fun socket => { socket with connected := false }) :=
    Act.within_modify hloose
  refine Act.within_bind (Act.within_of_after fun _ => rfl) fun socket => ?_
  split
  · refine Act.within_bind (hspans.lift (h.connect _ _)) fun answer => ?_
    cases answer with
    | value _ => exact hdone
    | failure code =>
      dsimp only
      split
      · exact hdone
      · exact Act.within_bind (Act.within_throw _) fun _ => hdone
  · exact Act.within_pure _

end Spans

end Socket

end UdpTransport
