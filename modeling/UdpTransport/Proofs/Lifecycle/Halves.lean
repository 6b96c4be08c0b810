import UdpTransport.Proofs.Calls
import UdpTransport.Proofs.Lifecycle.AllOrNothing
import UdpTransport.Proofs.Memory.Sending

/-!
# The two halves of lifecycle operations

To bind, to connect and to disconnect is to ask the endpoint first (`LifeOp.ask`), which may fail,
and then to take note of what was done (`LifeOp.note`). To close is the other way about: the channel
leaves its peer, its queue and its registration behind (`leave`), which always succeeds, and the
endpoint is asked last (`shut`). Nothing of the channel changes while the endpoint is asked.
-/

namespace UdpTransport.Channel

variable {ε ω α : Type}

/-! ## Binding, connecting, disconnecting -/

section Asking

variable [Endpoint ε]

/-- Does an operation to a channel over any endpoint. -/
def LifeOp.act : LifeOp → SiteAct ε ω Unit
  | .bind address => Channel.bind address
  | .connect remote local? => Channel.connect remote local?
  | .disconnect => Channel.disconnect

/-- What an operation asks of the endpoint. -/
def LifeOp.ask : LifeOp → SiteAct ε ω Unit
  | .bind address => (Endpoint.bind address : NativeAct ε Unit)
  | .connect remote local? => do
    match local? with
    | some address => (Endpoint.bind address : NativeAct ε Unit)
    | none => pure ()
    (Endpoint.connect remote : NativeAct ε Unit)
  | .disconnect => (Endpoint.disconnect : NativeAct ε Unit)

/-- What the channel takes note of once the endpoint has agreed. -/
def LifeOp.note : LifeOp → SiteAct ε ω Unit
  | .bind _ => do
    change fun channel => { channel with active := true }
    forgetAddresses
    let bound ← localAddress
    Native.writeLog .debug logTag ("bound to " ++ (bound.getD .unspecified).toText)
  | .connect remote _ => do
    change fun channel => { channel with connected := true, active := true }
    forgetAddresses
    Native.writeLog .debug logTag ("connected to " ++ remote.toText)
  | .disconnect => do
    change fun channel => { channel with connected := false, active := false }
    forgetAddresses

theorem LifeOp.act_eq (op : LifeOp) :
    (op.act : SiteAct ε ω Unit) = op.ask >>= fun _ => op.note := by
  cases op with
  | bind address => rfl
  | connect remote local? =>
    cases local? with
    | none => rfl
    | some address => exact (bind_assoc _ _ _).symm
  | disconnect => rfl

/-- What holds along the requests to the endpoint holds along what an operation asks. -/
theorem LifeOp.within_ask {R : Site ε ω → Site ε ω → Prop} [IsPreorder (Site ε ω) R]
    (hbind : ∀ address, Act.Within R
      (liftM (Endpoint.bind address : NativeAct ε Unit) : SiteAct ε ω Unit))
    (hconnect : ∀ address, Act.Within R
      (liftM (Endpoint.connect address : NativeAct ε Unit) : SiteAct ε ω Unit))
    (hdisconnect : Act.Within R
      (liftM (Endpoint.disconnect : NativeAct ε Unit) : SiteAct ε ω Unit))
    (op : LifeOp) : Act.Within R (op.ask : SiteAct ε ω Unit) := by
  cases op with
  | bind address => exact hbind address
  | connect remote local? =>
    cases local? with
    | none => exact hconnect remote
    | some address => exact Act.within_bind (hbind address) fun _ => hconnect remote
  | disconnect => exact hdisconnect

omit [Endpoint ε] in
theorem within_channel_native (act : NativeAct ε α) :
    Act.Within (Act.Fixing Site.channel) (liftM act : SiteAct ε ω α) := fun site => by
  rw [Act.Fixing, after_lift_native]
  rfl

/-- The channel takes note of nothing while it asks. -/
theorem LifeOp.channel_ask (op : LifeOp) :
    Act.Within (Act.Fixing Site.channel) (op.ask : SiteAct ε ω Unit) :=
  op.within_ask (fun _ => within_channel_native _) (fun _ => within_channel_native _)
    (within_channel_native _)

end Asking

/-! ## Closing -/

/-- What a channel leaves behind before its endpoint is closed. -/
def leave : SiteAct ε ω Unit := do
  change fun channel => { channel with connected := false, active := false, readPending := false }
  failPending (.violation .channelClosed)
  detach
  forgetAddresses

/-- Closes the endpoint. -/
def shut [Endpoint ε] : SiteAct ε ω Unit := do
  (Endpoint.close : NativeAct ε Unit)
  Native.writeLog .debug logTag "closed"

theorem run_close [Endpoint ε] {site : Site ε ω} (hopen : Endpoint.isOpen site.endpoint = true) :
    (close : SiteAct ε ω Unit).run site = (leave >>= fun _ => shut).run site := by
  unfold close leave
  rw [Act.bind_of_ok (run_isOpen site), if_pos hopen]
  simp only [bind_assoc]
  rfl

/-- Nothing is done to a channel that is closed already. -/
theorem run_close_closed [Endpoint ε] {site : Site ε ω}
    (hclosed : Endpoint.isOpen site.endpoint = false) :
    (close : SiteAct ε ω Unit).run site = .ok () site := by
  unfold close
  rw [Act.bind_of_ok (run_isOpen site), hclosed]
  rfl

theorem succeeds_removeEntry (loop : LoopId) (id : Nat) :
    (Registration.removeEntry loop id).Succeeds := by
  refine Act.succeeds_bind (fun native => ⟨_, native, rfl⟩) fun native => ?_
  cases native.loop? loop with
  | none => exact Act.succeeds_pure ()
  | some table =>
    dsimp only
    cases table.find? id with
    | none => exact Act.succeeds_pure ()
    | some watched =>
      refine Act.succeeds_bind (fun native => ⟨_, _, Native.run_attempt ..⟩) fun answer => ?_
      cases answer with
      | value _ => exact Act.succeeds_modify _
      | failure code =>
        dsimp only
        split
        · exact Act.succeeds_modify _
        · exact Act.succeeds_bind (Native.succeeds_writeLog _ _ _) fun _ => Act.succeeds_modify _

/-- A registration can always be ended. -/
theorem succeeds_detach : (detach : SiteAct ε ω Unit).Succeeds := by
  refine Act.succeeds_bind (fun site => ⟨_, _, run_current site⟩) fun channel => ?_
  cases channel.registration with
  | none => exact Act.succeeds_pure ()
  | some registration =>
    refine Act.succeeds_bind (succeeds_change _) fun _ => succeeds_lift_native fun s => ?_
    cases registration with
    | observer => exact ⟨_, _, Act.focus_ok rfl⟩
    | entry loop id =>
      obtain ⟨_, _, hrun⟩ := succeeds_removeEntry loop id s.2
      exact ⟨_, _, Act.focus_ok hrun⟩

/-- Nothing fails before the endpoint is asked to close. -/
theorem succeeds_leave [Endpoint ε] : (leave : SiteAct ε ω Unit).Succeeds :=
  Act.succeeds_bind (succeeds_change _) fun _ =>
    Act.succeeds_bind (fun site => ⟨_, _, (run_failPending _ site).choose_spec.1⟩) fun _ =>
      Act.succeeds_bind succeeds_detach fun _ => succeeds_change _

/-- A channel that has left everything behind remembers no address. -/
theorem forgotten_leave {site left : Site ε ω} (h : leave.run site = .ok () left) :
    left.channel.localCache = none ∧ left.channel.remoteCache = none := by
  obtain ⟨_, _, _, h⟩ := Act.bind_ok_iff.mp h
  obtain ⟨_, _, _, h⟩ := Act.bind_ok_iff.mp h
  obtain ⟨_, detached, _, h⟩ := Act.bind_ok_iff.mp h
  cases h
  exact ⟨rfl, rfl⟩

end UdpTransport.Channel
