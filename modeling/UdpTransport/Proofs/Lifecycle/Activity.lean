import UdpTransport.Proofs.Along
import UdpTransport.Proofs.Descriptors.Sockets
import UdpTransport.Proofs.Lifecycle.Halves
import UdpTransport.Proofs.Transfers

/-!
# When a channel over a socket is active

A channel keeps a flag of its own that says whether it is bound or connected, and its socket keeps
two. What an operation asks of the socket (`LifeOp.ask`) comes before what the channel takes note of
(`LifeOp.note`), so the flags part where the socket has done something that the channel does not
note, or the other way about (`ActivityOp.parts`): a disconnect marks the channel as inactive while
its socket stays bound, and a bind or a connect that fails halfway leaves the socket bound. The next
bind or connect that the socket agrees to brings them together again.

`isActive_runActivity` says what that comes to after any operations, failures included.
-/

namespace UdpTransport

namespace Socket

/-- Whether the socket is bound or connected. -/
def tied (socket : Socket) : Bool := socket.bound || socket.connected

theorem tied_of_bound {socket : Socket} (h : socket.bound = true) : socket.tied = true := by
  simp [tied, h]

@[simp] theorem tied_vacated (socket : Socket) : socket.vacated.tied = false := rfl

/-! ## What keeps a socket tied -/

/-- A socket that is bound or connected still is. -/
abbrev KeepsTied : Socket × Native → Socket × Native → Prop := Act.Keeping fun s => s.1.tied = true

theorem spans_keepsTied : Spans Native.Anyhow KeepsTied where
  across _ _ hacross htied := (congrArg tied hacross.1).trans htied
  port _ _ := id
  bound _ _ := tied_of_bound rfl
  connected _ _ := tied_of_bound rfl

theorem keepsTied_bind (address : Address) : Act.Within KeepsTied (bind address) :=
  spans_keepsTied.bind Native.conducts_anyhow address

theorem keepsTied_connect (address : Address) : Act.Within KeepsTied (connect address) :=
  spans_keepsTied.connect Native.conducts_anyhow address

/-- To ask for the local address leaves the socket as it is. -/
theorem within_localAddress : Act.Within (Act.Fixing Prod.fst) localAddress :=
  (across_localAddress Native.conducts_anyhow.toCarries).mono fun _ _ => And.left

/-- A socket that has connected is bound. -/
theorem tied_of_connect {address : Address} {s s' : Socket × Native}
    (h : (connect address).run s = .ok () s') : s'.1.tied = true := by
  obtain ⟨socket, _, _, hrest⟩ := Act.bind_ok_iff.mp h
  obtain ⟨raw, _, _, hrest⟩ := Act.bind_ok_iff.mp hrest
  obtain ⟨answer, _, _, hrest⟩ := Act.bind_ok_iff.mp hrest
  obtain ⟨_, agreed, _, hrest⟩ := Act.bind_ok_iff.mp hrest
  have hbound : Act.Within (fun _ s' => s'.1.tied = true) (do
      change fun socket => { socket with bound := true, connected := true }
      notePort) := by
    intro s
    have hchange : (change fun socket => { socket with bound := true, connected := true }).run s =
      .ok () ({ s.1 with bound := true, connected := true }, s.2) := rfl
    rw [Act.after_bind_of_ok hchange]
    exact spans_keepsTied.notePort Native.conducts_anyhow.toCarries _ (tied_of_bound rfl)
  exact Act.after_of_ok hrest ▸ hbound agreed

theorem tied_of_bind {address : Address} {s s' : Socket × Native}
    (h : (bind address).run s = .ok () s') : s'.1.tied = true := by
  obtain ⟨port, hsocket⟩ := ((triple_bind address s).ok rfl h).socket
  exact tied_of_bound (by rw [hsocket])

/-- A socket that was open has given its descriptor up, whether or not the system agreed. -/
theorem vacated_of_close {s : Socket × Native} (h : s.1.isOpen = true) :
    (close.after s).1 = s.1.vacated := by
  have hvacate : (change vacated).run s = .ok () (s.1.vacated, s.2) := rfl
  have hlift : ∀ {α : Type} (act : Act Native α),
      Act.Within (Across Native.Anyhow) (liftM act : SocketAct α) := fun _ =>
    across_lift fun _ => trivial
  have hrest : Act.Within (Across Native.Anyhow) (do
      let answer ← (liftM (Native.close s.1.fd) : SocketAct (Answer Int))
      let _ ← (liftM (Native.orFail "close" answer) : SocketAct Int)
      (liftM (Native.writeLog .debug logTag s!"closed fd {s.1.fd}") : SocketAct Unit)) :=
    Act.within_bind (hlift _) fun _ => Act.within_bind (hlift _) fun _ => hlift _
  unfold close
  rw [Act.after_bind_of_ok (run_current s), if_pos h, Act.after_bind_of_ok hvacate]
  exact (hrest (s.1.vacated, s.2)).1

end Socket

namespace Channel

variable {ω α : Type}

/-! ## The two halves of an operation -/

theorem LifeOp.run_eq (op : LifeOp) :
    (op.run : SiteAct Socket ω Unit) = op.ask >>= fun _ => op.note := by
  rw [← act_eq]
  cases op <;> rfl

/-- Whether an operation marks the channel as active. -/
def LifeOp.activates : LifeOp → Bool
  | .disconnect => false
  | _ => true

/-- What counts for being active: the flag of the channel and the socket. -/
def ties (site : Site Socket ω) : Bool × Bool := (site.channel.active, site.endpoint.tied)

/-- A relation between sockets, as one between channels over sockets. -/
theorem within_tied_native {act : SocketAct α} (h : Act.Within Socket.KeepsTied act) :
    Act.Within (Act.Keeping fun site => site.endpoint.tied = true)
      (liftM act : SiteAct Socket ω α) := fun site => by
  rw [Act.Keeping, after_lift_native]
  exact h (site.endpoint, site.host.native)

/-- Where the socket does not agree, it may have been bound, but it was not let go. -/
theorem LifeOp.tied_of_refused {op : LifeOp} {site site' : Site Socket ω} {fault : Fault}
    (h : op.ask.run site = .error fault site') (htied : site.endpoint.tied = true) :
    site'.endpoint.tied = true := by
  have hbind : ∀ address, Act.Within (Act.Keeping fun site => site.endpoint.tied = true)
      (liftM (Endpoint.bind address : NativeAct Socket Unit) : SiteAct Socket ω Unit) :=
    fun address => within_tied_native (Socket.keepsTied_bind address)
  have hconnect : ∀ remote, Act.Within (Act.Keeping fun site => site.endpoint.tied = true)
      (liftM (Endpoint.connect remote : NativeAct Socket Unit) : SiteAct Socket ω Unit) :=
    fun remote => within_tied_native (Socket.keepsTied_connect remote)
  cases op with
  | bind address => exact Act.after_of_error h ▸ hbind address site htied
  | connect remote local? =>
    cases local? with
    | none => exact Act.after_of_error h ▸ hconnect remote site htied
    | some address =>
      have hboth := Act.within_bind (hbind address) (fun _ => hconnect remote) site htied
      exact Act.after_of_error h ▸ hboth
  | disconnect =>
    have hrun := Act.error_of_result
      ((result_lift_native Socket.disconnect site).symm.trans (Act.result_of_error h))
    have hafter := (Act.after_of_error h).symm.trans (after_lift_native Socket.disconnect site)
    have huntouched := ((Socket.triple_disconnect _).error rfl hrun).2
    rw [hafter]
    exact (congrArg Socket.tied huntouched.socket).trans htied

/-- Where the socket agrees to bind or to connect, it is bound. -/
theorem LifeOp.tied_of_agreed {op : LifeOp} (hactivates : op.activates = true)
    {site site' : Site Socket ω} (h : op.ask.run site = .ok () site') :
    site'.endpoint.tied = true := by
  have hlast : ∀ {act : SocketAct Unit} {site site' : Site Socket ω},
      (∀ {s s'}, act.run s = .ok () s' → s'.1.tied = true) →
      (liftM act : SiteAct Socket ω Unit).run site = .ok () site' → site'.endpoint.tied = true := by
    intro act site site' htied hrun
    have hact := Act.run_of_result
      ((result_lift_native act site).symm.trans (Act.result_of_ok hrun))
    have hafter := (Act.after_of_ok hrun).symm.trans (after_lift_native act site)
    rw [hafter]
    exact htied hact
  cases op with
  | bind address => exact hlast Socket.tied_of_bind h
  | connect remote local? =>
    cases local? with
    | none => exact hlast Socket.tied_of_connect h
    | some address =>
      obtain ⟨_, _, _, hconnect⟩ := Act.bind_ok_iff.mp h
      exact hlast Socket.tied_of_connect hconnect
  | disconnect => cases hactivates

theorem within_ties_plain (act : Act Native α) :
    Act.Within (Act.Fixing ties) (liftM act : SiteAct Socket ω α) := by
  intro site
  obtain ⟨native, hsite⟩ := within_lift_plain act site
  rw [Act.Fixing, hsite]
  rfl

theorem within_ties_localAddress :
    Act.Within (Act.Fixing ties) (localAddress : SiteAct Socket ω (Option Address)) := by
  refine within_localAddress (fun _ _ _ => rfl) fun site => ?_
  have hsame := Socket.within_localAddress (site.endpoint, site.host.native)
  rw [Act.Fixing, after_lift_native]
  exact congrArg (fun socket => (site.channel.active, Socket.tied socket)) hsame

/-- Taking note sets the flag, also where it fails afterwards. -/
theorem LifeOp.ties_note (op : LifeOp) (site : Site Socket ω) :
    ties (op.note.after site) = (op.activates, site.endpoint.tied) := by
  cases op with
  | bind address =>
    unfold note
    rw [Act.after_bind_of_ok (run_change _ site)]
    have hrest : Act.Within (Act.Fixing ties) (do
        forgetAddresses
        let bound ← localAddress
        Native.writeLog .debug logTag ("bound to " ++ (bound.getD .unspecified).toText) :
          SiteAct Socket ω Unit) :=
      Act.within_bind (Act.within_modify fun _ => rfl) fun _ =>
        Act.within_bind within_ties_localAddress fun _ => within_ties_plain _
    exact hrest _
  | connect remote local? =>
    unfold note
    rw [Act.after_bind_of_ok (run_change _ site)]
    have hrest : Act.Within (Act.Fixing ties) (do
        forgetAddresses
        Native.writeLog .debug logTag ("connected to " ++ remote.toText) : SiteAct Socket ω Unit) :=
      Act.within_bind (Act.within_modify fun _ => rfl) fun _ => within_ties_plain _
    exact hrest _
  | disconnect => rfl

/-! ## Closing and registering -/

/-- The flag of the channel, and the socket itself. -/
def flagged (site : Site Socket ω) : Bool × Socket := (site.channel.active, site.endpoint)

theorem within_flagged_plain (act : Act Native α) :
    Act.Within (Act.Fixing flagged) (liftM act : SiteAct Socket ω α) := by
  intro site
  obtain ⟨native, hsite⟩ := within_lift_plain act site
  rw [Act.Fixing, hsite]
  rfl

theorem flagged_failPending (fault : Fault) :
    Act.Within (Act.Fixing flagged) (failPending fault : SiteAct Socket ω Unit) :=
  fixing_failPending (fun _ _ => rfl) (fun _ => rfl) fault

theorem flagged_detach : Act.Within (Act.Fixing flagged) (detach : SiteAct Socket ω Unit) :=
  within_detach_of (Act.within_modify fun _ => rfl) fun _ _ => within_flagged_plain _

/-- A channel that has left everything behind is inactive, and its socket is as it was. -/
theorem flagged_leave {site left : Site Socket ω} (h : leave.run site = .ok () left) :
    flagged left = (false, site.endpoint) := by
  obtain ⟨_, marked, hmark, h⟩ := Act.bind_ok_iff.mp h
  have hrest : Act.Within (Act.Fixing flagged) (do
      failPending (.violation .channelClosed)
      detach
      forgetAddresses : SiteAct Socket ω Unit) :=
    Act.within_bind (flagged_failPending _) fun _ =>
      Act.within_bind flagged_detach fun _ => Act.within_modify fun _ => rfl
  have hflagged := hrest marked
  rw [Act.after_of_ok h] at hflagged
  cases hmark
  exact hflagged

/-- A channel that was open is inactive once it is closed, and its socket is neither bound nor
connected. -/
theorem ties_close {site : Site Socket ω} (hopen : site.endpoint.isOpen = true) :
    ties ((close : SiteAct Socket ω Unit).after site) = (false, false) := by
  obtain ⟨_, left, hleave⟩ := succeeds_leave site
  obtain ⟨hflag, hsocket⟩ := Prod.mk.inj (flagged_leave hleave)
  have hvacated := Socket.vacated_of_close (s := (left.endpoint, left.host.native))
    ((congrArg Socket.isOpen hsocket).trans hopen)
  have hshut : ties ((liftM (Endpoint.close : NativeAct Socket Unit) :
      SiteAct Socket ω Unit).after left) = (false, false) := by
    rw [after_lift_native]
    exact Prod.ext hflag ((congrArg Socket.tied hvacated).trans (Socket.tied_vacated _))
  rw [Act.after_congr (run_close hopen), Act.after_bind_of_ok hleave, shut]
  cases hrun :
      (liftM (Endpoint.close : NativeAct Socket Unit) : SiteAct Socket ω Unit).run left with
  | ok _ shut =>
    rw [Act.after_of_ok hrun] at hshut
    rw [Act.after_bind_of_ok hrun]
    exact (within_ties_plain _ shut).trans hshut
  | error fault shut =>
    rw [Act.after_of_error hrun] at hshut
    rw [Act.after_of_error (Act.bind_of_error hrun)]
    exact hshut

theorem ties_setRegistration (registration : Option Registration) :
    Act.Within (Act.Fixing ties) (setRegistration registration : SiteAct Socket ω Unit) := by
  refine Act.within_bind (Act.within_modify fun _ => rfl) fun _ => ?_
  refine Act.within_bind (Act.within_of_after fun _ => rfl) fun channel => ?_
  split
  · refine Act.within_bind (Act.within_of_after fun _ => rfl) fun isOpen => ?_
    split
    · refine Act.within_bind (Act.within_modify fun _ => rfl) fun _ => ?_
      refine Act.within_bind (Act.within_of_after fun _ => rfl) fun channel => ?_
      cases channel.registration with
      | none => exact Act.within_pure ()
      | some registration => exact within_ties_plain _
    · exact Act.within_pure ()
  · exact Act.within_pure ()

/-! ## Any operations -/

/-- The operations that can make a channel active or inactive. -/
inductive ActivityOp where
  | life (op : LifeOp)
  | close
  /-- Attaches the channel, or detaches it. -/
  | register (registration : Option Registration)

namespace ActivityOp

/-- Runs an operation. -/
def run : ActivityOp → SiteAct Socket ω Unit
  | life op => op.run
  | close => Channel.close
  | register registration => setRegistration registration

/-- Whether the flag of the channel and its socket have parted after an operation, given whether
they had before: by a disconnect that leaves the socket bound, or by a bind or connect that fails
and has bound it. They are together again once the socket agrees to bind or to connect. -/
def parts (op : ActivityOp) (site : Site Socket ω) (parted : Bool) : Bool :=
  match op with
  | life op =>
    let asked := (op.ask.after site).endpoint
    match op.ask.result site with
    | .ok _ => !op.activates && (parted || asked.tied)
    | .error _ => parted || (!site.endpoint.tied && asked.tied)
  | _ => parted

theorem parts_of_agreed {op : LifeOp} {site asked : Site Socket ω}
    (h : op.ask.run site = .ok () asked) (parted : Bool) :
    (life op).parts site parted = (!op.activates && (parted || asked.endpoint.tied)) := by
  simp only [parts, Act.result_of_ok h, Act.after_of_ok h]

theorem parts_of_refused {op : LifeOp} {site asked : Site Socket ω} {fault : Fault}
    (h : op.ask.run site = .error fault asked) (parted : Bool) :
    (life op).parts site parted =
      (parted || (!site.endpoint.tied && asked.endpoint.tied)) := by
  simp only [parts, Act.result_of_error h, Act.after_of_error h]

end ActivityOp

/-- Runs operations one after the other; what one fails with stops none of the others. -/
def runActivity : List ActivityOp → Site Socket ω → Site Socket ω
  | [], site => site
  | op :: ops, site => runActivity ops (op.run.after site)

/-- Whether the flag of the channel and its socket have parted after operations. -/
def partedAfter : List ActivityOp → Site Socket ω → Bool → Bool
  | [], _, parted => parted
  | op :: ops, site, parted => partedAfter ops (op.run.after site) (op.parts site parted)

/-- The flag of the channel follows the socket, until they part. -/
def Follows (parted : Bool) (site : Site Socket ω) : Prop :=
  site.channel.active = (site.endpoint.tied && !parted)

theorem follows_of_ties {parted : Bool} {site site' : Site Socket ω} (h : ties site' = ties site)
    (hfollows : Follows parted site) : Follows parted site' := by
  obtain ⟨hactive, htied⟩ := Prod.mk.inj h
  rw [Follows, hactive, htied]
  exact hfollows

/-- **One operation.** Where the flag parts from the socket is just where it is said to. -/
theorem ActivityOp.follows (op : ActivityOp) {parted : Bool} {site : Site Socket ω}
    (h : Follows parted site) : Follows (op.parts site parted) (op.run.after site) := by
  cases op with
  | register registration => exact follows_of_ties (ties_setRegistration registration site) h
  | close =>
    cases hopen : site.endpoint.isOpen with
    | false =>
      have hsame : (Channel.close : SiteAct Socket ω Unit).after site = site :=
        Act.after_of_ok (run_close_closed hopen)
      exact hsame.symm ▸ h
    | true =>
      obtain ⟨hactive, htied⟩ := Prod.mk.inj (ties_close hopen)
      show Follows parted ((Channel.close : SiteAct Socket ω Unit).after site)
      rw [Follows, hactive, htied]
      rfl
  | life op =>
    show Follows ((life op).parts site parted) (op.run.after site)
    rw [LifeOp.run_eq]
    cases hask : op.ask.run site with
    | ok _ asked =>
      obtain ⟨hactive, htied⟩ := Prod.mk.inj (op.ties_note asked)
      rw [Follows, Act.after_bind_of_ok hask, hactive, htied, parts_of_agreed hask]
      cases hactivates : op.activates with
      | true => simp [LifeOp.tied_of_agreed hactivates hask]
      | false => cases parted <;> cases asked.endpoint.tied <;> rfl
    | error fault asked =>
      have hchannel : asked.channel = site.channel := Act.after_of_error hask ▸ op.channel_ask site
      have hkept := LifeOp.tied_of_refused hask
      rw [Follows, Act.after_of_error (Act.bind_of_error hask), hchannel, parts_of_refused hask]
      rw [Follows] at h
      -- A refused operation may leave the socket tied, but never unties it.
      cases htied : site.endpoint.tied with
      | true => simp [h, htied, hkept htied]
      | false => cases parted <;> cases asked.endpoint.tied <;> simp [h, htied]

theorem follows_runActivity (ops : List ActivityOp) {parted : Bool} {site : Site Socket ω}
    (h : Follows parted site) :
    Follows (partedAfter ops site parted) (runActivity ops site) := by
  induction ops generalizing site parted with
  | nil => exact h
  | cons op ops ih => exact ih (op.follows h)

/-- Open, and bound or connected, or registered if that is enough by the channel's settings. -/
def Ready (site : Site Socket ω) : Prop :=
  site.endpoint.isOpen = true ∧
    (site.endpoint.bound = true ∨ site.endpoint.connected = true ∨
      site.channel.config.activeOnOpen = true ∧ site.channel.isRegistered = true)

/-- **When a channel is active.** Let any operations be done to a channel that is marked as active
exactly if its socket is bound or connected, whether or not they fail. If the channel is active
then, it is ready. It is active exactly if it is ready, unless since the socket last agreed to bind
or to connect a disconnect has left it bound, or a bind or a connect has failed that bound it; then
the channel is active only by its registration. -/
theorem isActive_runActivity (ops : List ActivityOp) {site : Site Socket ω}
    (h : site.channel.active = (site.endpoint.bound || site.endpoint.connected)) :
    let reached := runActivity ops site
    (isActive reached = true → Ready reached) ∧
      (partedAfter ops site false = false → (isActive reached = true ↔ Ready reached)) ∧
      (partedAfter ops site false = true → (isActive reached = true ↔
        reached.endpoint.isOpen = true ∧ reached.channel.config.activeOnOpen = true ∧
          reached.channel.isRegistered = true)) := by
  intro reached
  have hfollows : Follows (partedAfter ops site false) reached :=
    follows_runActivity ops (h.trans (Bool.and_true _).symm)
  have hactive : isActive reached = (reached.endpoint.isOpen &&
      (reached.channel.config.activeOnOpen && reached.channel.isRegistered ||
        (reached.endpoint.bound || reached.endpoint.connected) &&
          !partedAfter ops site false)) := by
    rw [isActive, hfollows]
    rfl
  rw [hactive]
  refine ⟨fun hready => ?_, fun hjoined => ?_, fun hparted => ?_⟩
  · simp only [Bool.and_eq_true, Bool.or_eq_true] at hready
    exact ⟨hready.1, hready.2.elim (fun hregistered => .inr (.inr hregistered))
      fun htied => htied.1.elim .inl fun hconnected => .inr (.inl hconnected)⟩
  · rw [hjoined]
    simp only [Ready, Bool.not_false, Bool.and_true, Bool.and_eq_true, Bool.or_eq_true]
    tauto
  · rw [hparted]
    simp

/-- A channel that binds is active. One that then disconnects, without ever having been connected,
is not, although its socket is still bound. -/
theorem isActive_disconnected :
    let bind := ActivityOp.life (.bind (.loopback 9000 Family.ipv4))
    let ops := [bind, .life .disconnect]
    let bound := runActivity [bind] (fresh {})
    let reached := runActivity ops (fresh {})
    isActive bound = true ∧ Ready bound ∧ partedAfter ops (fresh {}) false = true ∧
      isActive reached = false ∧ Ready reached := by
  intro bind ops bound reached
  have hjoined : partedAfter [bind] (fresh {}) false = false := by decide +kernel
  have hparted : partedAfter ops (fresh {}) false = true := by decide +kernel
  have hready : Ready bound := ⟨by decide +kernel, .inl (by decide +kernel)⟩
  have hloose : (fresh {}).channel.active =
      ((fresh {}).endpoint.bound || (fresh {}).endpoint.connected) := rfl
  obtain ⟨-, hbound, -⟩ := isActive_runActivity [bind] hloose
  obtain ⟨-, -, hreached⟩ := isActive_runActivity ops hloose
  refine ⟨(hbound hjoined).mpr hready, hready, hparted, ?_, by decide +kernel,
    .inl (by decide +kernel)⟩
  have hunregistered : reached.channel.isRegistered = false := by decide +kernel
  refine Bool.eq_false_iff.mpr fun hactive => ?_
  have hregistered := ((hreached hparted).mp hactive).2.2
  exact Bool.false_ne_true (hunregistered.symm.trans hregistered)

end Channel

end UdpTransport
