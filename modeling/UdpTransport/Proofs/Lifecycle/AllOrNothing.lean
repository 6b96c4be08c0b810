import Mathlib.Control.Monad.Basic
import UdpTransport.Proofs.Lifecycle.Standing

/-!
# Operations that fail as a whole, and one that does not

A disconnect that fails leaves the channel as it was, and so does a bind or a connect that fails
before the system has agreed (`Channel.standing_of_failure`). A connect with a local address is a
bind and then a connect (`connect_some`); nothing takes the first back if the second fails. What is
left then is `LeftBound`: the socket is bound, all else is as before, and since a bound socket is
never bound again, no connect with a local address can follow. One without can.
-/

namespace UdpTransport.Channel

variable {ω α : Type}

/-! ## The operations of a channel -/

/-- The operations that change whom a channel is bound and connected to. -/
inductive LifeOp where
  | bind (address : Address)
  | connect (remote : Address) (local? : Option Address)
  | disconnect

/-- Runs an operation. -/
def LifeOp.run : LifeOp → SiteAct Socket ω Unit
  | .bind address => Channel.bind address
  | .connect remote local? => Channel.connect remote local?
  | .disconnect => Channel.disconnect

/-- The local address that an operation asks for. -/
def LifeOp.local? : LifeOp → Option Address
  | .bind address => some address
  | .connect _ local? => local?
  | .disconnect => none

/-- An operation that failed in the socket, or by a query. -/
def Failed (rejected worded : Prop) (site : Site Socket ω) (fault : Fault) (site' : Site Socket ω) :
    Prop :=
  ∃ part, Socket.Failed rejected worded (site.endpoint, site.host.native) fault part ∧
    (fault.isNaming = false → site' = site.withNative part)

section Triples

variable {site : Site Socket ω} {post : α → Site Socket ω → Prop}
  {raised : Fault → Site Socket ω → Prop}

theorem triple_lift_native {act : SocketAct α}
    (h : Act.Triple (· = (site.endpoint, site.host.native)) act
      (fun a part => post a (site.withNative part))
      (fun fault part => raised fault (site.withNative part))) :
    Act.Triple (· = site) (liftM act : SiteAct Socket ω α) post raised :=
  .focus fun s hs => by
    subst hs
    exact h

theorem triple_writeLog (level : Log.Level) (tag text : String) :
    Act.Triple (fun _ => True) (liftM (Native.writeLog level tag text) : SiteAct Socket ω Unit)
      (fun _ _ => True) raised :=
  .pointwise fun site _ =>
    let ⟨_, hrun⟩ := run_writeLog level tag text site
    .of_ok hrun trivial

theorem triple_change (f : Channel → Channel) :
    Act.Triple (fun _ => True) (change f : SiteAct Socket ω Unit) (fun _ _ => True) raised :=
  .modify fun _ _ => trivial

/-- To ask a channel for its local address fails as a query. -/
theorem triple_localAddress (hnaming : ∀ fault site', fault.isNaming = true → raised fault site') :
    Act.Triple (fun _ => True) (localAddress : SiteAct Socket ω (Option Address))
      (fun _ _ => True) raised := by
  refine .via (fun _ _ => True) (.pointwise fun site _ => .of_ok (run_current site) trivial)
    fun channel => ?_
  cases channel.localCache with
  | some address => exact .pure fun _ _ => trivial
  | none =>
    refine .via (fun _ _ => True) (.pointwise fun site _ => .of_ok (run_isOpen site) trivial)
      fun there => ?_
    split
    · refine .via (fun _ _ => True) (.pointwise fun site _ => triple_lift_native ?_)
        fun address => ?_
      · exact (Socket.triple_localAddress _ 0 fun fault part hfault =>
          hnaming fault _ hfault).weaken
          (fun _ => id) (fun _ _ _ => trivial) fun _ _ => id
      · split
        · exact .pure fun _ _ => trivial
        · exact .bind (triple_change _) fun _ => .pure fun _ _ => trivial
    · exact .pure fun _ _ => trivial

variable (site)

theorem triple_bind (address : Address) :
    Act.Triple (· = site) (bind address : SiteAct Socket ω Unit) (fun _ _ => True)
      (Failed (site.endpoint.isOpen = true ∧ site.endpoint.bound = true)
        (Kernel.Worded site.host.native.kernel.script.bind) site) := by
  refine .via (fun _ _ => True) (triple_lift_native ?_) fun _ => ?_
  · exact (Socket.triple_bind address _).weaken (fun _ => id) (fun _ _ _ => trivial)
      fun fault part hfailed => ⟨part, hfailed, fun _ => rfl⟩
  refine .bind (triple_change _) fun _ => .bind (triple_change _) fun _ => ?_
  refine .bind (triple_localAddress fun fault site' hnaming => ?_) fun bound =>
    triple_writeLog _ _ _
  refine ⟨(site.endpoint, site.host.native), Socket.failed_naming fault _ hnaming, fun hother => ?_⟩
  rw [hnaming] at hother
  cases hother

theorem triple_disconnect :
    Act.Triple (· = site) (disconnect : SiteAct Socket ω Unit) (fun _ _ => True)
      (fun fault site' => fault ≠ .violation .alreadyBound ∧
        ∃ part, Socket.Untouched (Kernel.Worded site.host.native.kernel.script.connect)
          (site.endpoint, site.host.native) part ∧ site' = site.withNative part) := by
  refine .via (fun _ _ => True) (triple_lift_native ?_) fun _ => ?_
  · exact (Socket.triple_disconnect _).weaken (fun _ => id) (fun _ _ _ => trivial)
      fun fault part hfailed => ⟨hfailed.1, part, hfailed.2, rfl⟩
  · exact .bind (triple_change _) fun _ => triple_change _

end Triples

/-! ## Being told that it is bound already -/

variable {site site' : Site Socket ω} {fault : Fault}

/-- An open channel over an IPv4 socket that is neither bound nor connected, and a system that
answers as it is told. -/
def fresh (script : Script) : Site Socket Unit where
  channel := { name := "a", config := { allocator := 0, policy := 0 } }
  endpoint := { fd := 3, family := Family.ipv4 }
  host := { native := { kernel := { script := script } } }
  outside := ()

end UdpTransport.Channel
