import UdpTransport.Channel.Multicast
import UdpTransport.Proofs.Memory.Custody
import UdpTransport.Proofs.Outbound.Prepare
import UdpTransport.Proofs.WriteQueue.Operations

/-!
# The memory of a channel that sends

A channel stores the messages that wait in its queue. To write a message takes its components over,
whatever becomes of it (`balances_write`); a flush gives back what was sent and what failed
(`conserves_flush`), and closing gives back whatever waits (`conserves_close`).

A flush works on a queue that it has read and not yet replaced, so the messages that it has in hand
are stored as well. The books of its loop therefore leave the queue out (`Site.custodyBy`).
-/

namespace UdpTransport

/-- The allocators of the components of messages that wait. -/
def queued (queue : List PendingWrite) : Multiset AllocatorId :=
  (queue.map (·.message.uses)).sum

@[simp] theorem queued_nil : queued [] = 0 := rfl

@[simp] theorem queued_cons (head : PendingWrite) (rest : List PendingWrite) :
    queued (head :: rest) = head.message.uses + queued rest := List.sum_cons

/-- What two queues hold, they hold together. -/
theorem queued_append (first second : List PendingWrite) :
    queued (first ++ second) = queued first + queued second := by
  unfold queued
  rw [List.map_append, List.sum_append]

namespace Site

variable {ε ω : Type}

/-- The memory of a site, if `holding` is what the queue and the rest of the world hold. -/
def custodyBy (holding : List PendingWrite → ω → Holding) (site : Site ε ω) : Custody :=
  ⟨site.host.ledger, holding site.channel.pending site.outside⟩

/-- The memory of a site: its queue, and what the rest of the world owns. -/
abbrev custody (owned : ω → Holding) : Site ε ω → Custody :=
  custodyBy fun queue outside => (owned outside).add (queued queue)

end Site

namespace Channel

variable {ε ω α : Type} {holding : List PendingWrite → ω → Holding}
  {owned : ω → Holding} {left : Multiset AllocatorId}

/-! ## What has nothing to do with memory -/

/-- The native side of a site holds no components. -/
theorem within_custody_native (act : NativeAct ε α) :
    Act.Within (Act.Fixing (Site.custodyBy holding)) (liftM act : SiteAct ε ω α) := by
  intro site
  rw [Act.Fixing, after_lift_native]
  rfl

theorem within_custody_plain (act : Act Native α) :
    Act.Within (Act.Fixing (Site.custodyBy holding)) (liftM act : SiteAct ε ω α) :=
  within_custody_native (liftM act : NativeAct ε α)

/-- A promise holds no component either. -/
theorem within_custody_futures (act : Act Futures α) :
    Act.Within (Act.Fixing (Site.custodyBy holding)) (liftM act : SiteAct ε ω α) := by
  intro site
  rw [Act.Fixing, after_lift_futures]
  rfl

/-- A change of the channel that spares its queue keeps the custody. -/
theorem within_custody_change {f : Channel → Channel}
    (h : ∀ channel, (f channel).pending = channel.pending) :
    Act.Within (Act.Fixing (Site.custodyBy holding)) (change f : SiteAct ε ω Unit) := by
  refine Act.within_modify fun site => ?_
  show Site.custodyBy holding (site.withChannel (f site.channel)) = _
  unfold Site.custodyBy
  rw [Site.withChannel_channel, h]
  rfl

theorem within_custody_current :
    Act.Within (Act.Fixing (Site.custodyBy holding)) (current : SiteAct ε ω Channel) :=
  Act.within_of_after fun _ => rfl

theorem within_custody_isOpen [Endpoint ε] :
    Act.Within (Act.Fixing (Site.custodyBy holding)) (isOpen : SiteAct ε ω Bool) :=
  Act.within_of_after fun _ => rfl

theorem within_custody_setReadInterest (wanted : Bool) :
    Act.Within (Act.Fixing (Site.custodyBy holding))
      (setReadInterest wanted : SiteAct ε ω Unit) :=
  within_setReadInterest_of fun _ _ => within_custody_plain _

theorem within_custody_setWriteInterest (wanted : Bool) :
    Act.Within (Act.Fixing (Site.custodyBy holding))
      (setWriteInterest wanted : SiteAct ε ω Unit) :=
  within_setWriteInterest_of fun _ _ => within_custody_plain _

theorem within_custody_detach :
    Act.Within (Act.Fixing (Site.custodyBy holding)) (detach : SiteAct ε ω Unit) :=
  within_detach_of (within_custody_change fun _ => rfl) fun _ _ => within_custody_plain _

/-- A request to a group is refused or answered without a message. -/
theorem within_custody_requestGroup (request : GroupRequest) :
    Act.Within (Act.Fixing (Site.custodyBy holding))
      (requestGroup request : SiteAct ε ω Ticket) := by
  refine Act.within_bind (Act.within_ofExcept _) fun _ => ?_
  refine Act.within_bind (within_custody_futures _) fun ticket => ?_
  exact Act.within_bind (within_custody_futures _) fun _ => Act.within_pure ticket

section Life

variable [Endpoint ε]

/-- To ask for a read is a matter of interest. -/
theorem within_custody_read :
    Act.Within (Act.Fixing (Site.custodyBy holding)) (read : SiteAct ε ω Unit) :=
  within_read_of (within_custody_change fun _ => rfl) (within_custody_setReadInterest true)

/-- To be registered is a matter of the loop. -/
theorem within_custody_setRegistration (registration : Option Registration) :
    Act.Within (Act.Fixing (Site.custodyBy holding))
      (setRegistration registration : SiteAct ε ω Unit) := by
  refine Act.within_bind (within_custody_change fun _ => rfl) fun _ => ?_
  refine Act.within_bind within_custody_current fun channel => ?_
  split
  · exact within_custody_read
  · exact Act.within_pure ()

/-- Automatic reading is a setting, and at most asks for a read. -/
theorem within_custody_setAutoRead (on : Bool) :
    Act.Within (Act.Fixing (Site.custodyBy holding)) (setAutoRead on : SiteAct ε ω Unit) := by
  refine Act.within_bind within_custody_current fun channel => ?_
  refine Act.within_bind (within_custody_change fun _ => rfl) fun _ => ?_
  split
  · exact within_custody_read
  · split
    · refine Act.within_bind (within_custody_change fun _ => rfl) fun _ => ?_
      exact within_custody_setReadInterest false
    · exact Act.within_pure ()

/-- An address that is cached is no component. -/
theorem within_custody_localAddress :
    Act.Within (Act.Fixing (Site.custodyBy holding))
      (localAddress : SiteAct ε ω (Option Address)) := by
  refine Act.within_bind within_custody_current fun channel => ?_
  cases channel.localCache with
  | some address => exact Act.within_pure _
  | none =>
    refine Act.within_bind within_custody_isOpen fun isOpen => ?_
    split
    · refine Act.within_bind (within_custody_native _) fun address => ?_
      split
      · exact Act.within_pure none
      · exact Act.within_bind (within_custody_change fun _ => rfl) fun _ => Act.within_pure _
    · exact Act.within_pure none

/-- The same of the remote one. -/
theorem within_custody_remoteAddress :
    Act.Within (Act.Fixing (Site.custodyBy holding))
      (remoteAddress : SiteAct ε ω (Option Address)) := by
  refine Act.within_bind within_custody_current fun channel => ?_
  cases channel.remoteCache with
  | some address => exact Act.within_pure _
  | none =>
    dsimp only
    split
    · refine Act.within_bind (within_custody_native _) fun address => ?_
      exact Act.within_bind (within_custody_change fun _ => rfl) fun _ => Act.within_pure _
    · exact Act.within_pure none

/-- Binding keeps the queue, whether it succeeds or not. -/
theorem within_custody_bind (address : Address) :
    Act.Within (Act.Fixing (Site.custodyBy holding)) (bind address : SiteAct ε ω Unit) := by
  refine Act.within_bind (within_custody_native _) fun _ => ?_
  refine Act.within_bind (within_custody_change fun _ => rfl) fun _ => ?_
  refine Act.within_bind (within_custody_change fun _ => rfl) fun _ => ?_
  exact Act.within_bind within_custody_localAddress fun _ => within_custody_plain _

/-- Connecting keeps it too. -/
theorem within_custody_connect (remote : Address) (local? : Option Address) :
    Act.Within (Act.Fixing (Site.custodyBy holding))
      (connect remote local? : SiteAct ε ω Unit) := by
  have hconnect : Act.Within (Act.Fixing (Site.custodyBy holding)) (do
      (Endpoint.connect remote : NativeAct ε Unit)
      change fun channel => { channel with connected := true, active := true }
      forgetAddresses
      Native.writeLog .debug logTag ("connected to " ++ remote.toText) : SiteAct ε ω Unit) := by
    refine Act.within_bind (within_custody_native _) fun _ => ?_
    refine Act.within_bind (within_custody_change fun _ => rfl) fun _ => ?_
    refine Act.within_bind (within_custody_change fun _ => rfl) fun _ => ?_
    exact within_custody_plain _
  cases local? with
  | none => exact hconnect
  | some address => exact Act.within_bind (within_custody_native _) fun _ => hconnect

/-- So does disconnecting: what is queued may have a recipient of its own. -/
theorem within_custody_disconnect :
    Act.Within (Act.Fixing (Site.custodyBy holding)) (disconnect : SiteAct ε ω Unit) := by
  refine Act.within_bind (within_custody_native _) fun _ => ?_
  exact Act.within_bind (within_custody_change fun _ => rfl) fun _ =>
    within_custody_change fun _ => rfl

end Life

/-! ## Operations on the ledger and the queue -/

/-- What balances on the ledger balances at the site. -/
theorem balances_ledger {act : Act Ledger α} {taken : Multiset AllocatorId}
    {given : α → Multiset AllocatorId} (h : Act.Balances Ledger.custody taken act given left) :
    Act.Balances (Site.custodyBy holding) taken (liftM act : SiteAct ε ω α) given left :=
  Act.Balances.focus h (fun site => holding site.channel.pending site.outside) (fun _ => rfl)
    fun _ _ => rfl

/-- To give a buffer back takes its components out of hand. -/
theorem balances_discard {buffer : Buffer} {taken more : Multiset AllocatorId}
    (htaken : taken = buffer.uses + more) :
    Act.Balances (Site.custodyBy holding) taken (liftM (Ledger.discard buffer) : SiteAct ε ω Unit)
      (fun _ => more) left :=
  balances_ledger (Ledger.balances_discard htaken)

/-- The books of a queue that is regarded as in hand. -/
theorem balanced_custody_iff {site : Site ε ω} {inHand : Multiset AllocatorId} :
    (Site.custody owned site).Balanced inHand ↔
      (Site.custodyBy (fun _ outside => owned outside) site).Balanced
        (queued site.channel.pending + inHand) := Custody.balanced_add

/-- Messages that are put into the queue are in hand no more, and those taken out of it are. -/
theorem balances_change {f : Channel → Channel} {taken given : Multiset AllocatorId}
    (h : ∀ channel, given + queued (f channel).pending = taken + queued channel.pending) :
    Act.Balances (Site.custody owned) taken (change f : SiteAct ε ω Unit) (fun _ => given)
      left := by
  intro rest
  refine Act.Triple.modify fun site hsite => ?_
  rw [balanced_custody_iff, add_left_comm, ← add_assoc] at hsite ⊢
  rw [show given + queued (f site.channel).pending = _ from h site.channel]
  exact hsite

/-! ## Admitting a message -/

/-- To find the allocator for copies allocates nothing yet. -/
theorem conserves_directAllocator :
    Act.Conserves (Site.custodyBy holding) (directAllocator : SiteAct ε ω AllocatorId) := by
  unfold directAllocator
  refine Act.Conserves.bind (.fixing Act.within_get) fun site => ?_
  dsimp only
  split
  · exact .pure _
  · split
    · exact .pure _
    · refine Act.Conserves.bind (balances_ledger (Ledger.conserves_openAccount .direct))
        fun id => ?_
      refine Act.Conserves.bind (.fixing (within_custody_change fun _ => rfl)) fun _ => ?_
      exact .pure id

/-- A direct copy is memory of its own. -/
theorem balances_directCopy (payload : Buffer) :
    Act.Balances (Site.custodyBy holding) 0 (directCopy payload : SiteAct ε ω Buffer)
      Buffer.uses 0 := by
  intro rest
  refine Act.Triple.bind (conserves_directAllocator rest) fun id => ?_
  -- The memory is writable and large enough, so nothing is lost between making and filling it.
  refine Act.Triple.via (fun buffer site => Ledger.Fresh id payload.readable buffer ∧
    (Site.custodyBy holding site).Balanced (buffer.uses + rest)) ?_ fun buffer => ?_
  · refine Act.Triple.focus fun site hsite => ?_
    have hallocate := Ledger.triple_allocate id payload.readable
      (rest + (holding site.channel.pending site.outside).stored)
    refine hallocate.weaken ?_ (fun buffer ledger h => ⟨h.1, ?_, hsite.sound⟩)
      fun fault ledger h => ⟨?_, hsite.sound⟩
    · rintro ledger rfl
      have hbooks := hsite.books
      rwa [zero_add] at hbooks
    · show Ledger.Balanced ledger (buffer.uses + rest + _)
      rw [add_assoc]
      exact h.2
    · show Ledger.Balanced ledger (0 + rest + _)
      rw [zero_add]
      exact h
  · refine Act.Triple.via
      (fun copy site => (Site.custodyBy holding site).Balanced (copy.uses + rest))
      (Act.Triple.ofExcept (fun copy hwrite site h => ?_) fun fault hwrite site h => ?_)
      fun copy => ?_
    · rw [Buffer.uses_ask (.write _) hwrite]
      exact h.2
    · obtain ⟨kind, hkind, rfl⟩ := h.1
      rw [Buffer.write_zeroed hkind (Nat.le_of_eq payload.length_toBytes)] at hwrite
      cases hwrite
    · refine Act.Triple.pure fun site h => ?_
      split
      · exact h
      · exact h

/-- Admitting a message replaces its memory or keeps it; a message that is turned down stays with
whoever handed it in. -/
theorem balances_prepare (message : Message) :
    Act.Balances (Site.custodyBy holding) message.uses
      (prepare message : SiteAct ε ω (Message × Message))
      (fun (admitted, rest) => admitted.uses + rest.uses) message.uses := by
  unfold prepare
  by_cases hsendable : message.isSendable = true
  · rw [if_neg (by simp [hsendable])]
    have hnonempty : message ≠ .empty := by
      rintro rfl
      cases hsendable
    dsimp only
    split
    · refine Act.Balances.bind ((balances_directCopy message.content).meanwhile message.uses)
        fun copy _ => ?_
      -- The original is given back only after the copy is there, and what is left of it is closed.
      refine Act.Balances.bind (balances_discard (add_comm copy.uses message.uses)) fun _ _ => ?_
      refine .pure ?_
      show (message.withContent copy).uses + (message.withContent message.content.close).uses = _
      rw [Message.uses_withContent message hnonempty, Message.uses_withContent message hnonempty,
        Buffer.uses_close, add_zero]
    · refine .pure ?_
      show message.uses + message.movedFrom.uses = _
      rw [Message.uses_movedFrom, add_zero]
  · rw [if_pos hsendable]
    exact .throw_bind rfl

/-! ## Writing -/

/-- A change of the channel cannot fail. -/
theorem succeeds_change (f : Channel → Channel) : (change f : SiteAct ε ω Unit).Succeeds :=
  Act.succeeds_modify _

/-- A promise can always be settled. -/
theorem succeeds_settle (ticket : Ticket) (outcome : Outcome) :
    (liftM (Futures.settle ticket outcome) : SiteAct ε ω Unit).Succeeds := fun site =>
  ⟨(), _, run_settle ticket outcome site⟩

/-- What never fails at the endpoint never fails at the site. -/
theorem succeeds_lift_native {act : NativeAct ε α} (h : act.Succeeds) :
    (liftM act : SiteAct ε ω α).Succeeds := fun site =>
  let ⟨a, _, hrun⟩ := h (site.endpoint, site.host.native)
  ⟨a, _, lift_native_ok hrun⟩

/-- The log takes every line. -/
theorem succeeds_log (level : Log.Level) (tag text : String) :
    (liftM (Native.writeLog level tag text) : SiteAct ε ω Unit).Succeeds := fun site =>
  let ⟨_, hrun⟩ := run_writeLog level tag text site
  ⟨(), _, hrun⟩

/-- Memory can always be given back. -/
theorem succeeds_release (buffer : Buffer) :
    (liftM (Ledger.discard buffer) : SiteAct ε ω Unit).Succeeds := fun site =>
  ⟨(), _, run_discard buffer site⟩

/-- **A write takes its message over.** Whatever becomes of the message, its components are in the
queue or given back afterwards. -/
theorem balances_write [Endpoint ε] (message : Message) :
    Act.Balances (Site.custody owned) message.uses (write message : SiteAct ε ω Ticket)
      (fun _ => 0) left := by
  have hrefuse : ∀ ticket fault, Act.Balances (Site.custody owned) message.uses (do
      Futures.settle ticket (.failed fault)
      Ledger.discard message.content
      pure ticket : SiteAct ε ω Ticket) (fun _ => 0) left := by
    intro ticket fault
    refine Act.Balances.bind (.aside (within_custody_futures _) (succeeds_settle _ _)) fun _ _ => ?_
    exact Act.Balances.bind (balances_discard (add_zero _).symm) fun _ _ => .pure rfl
  unfold write
  refine Act.Balances.bind (.aside (within_custody_futures _) fun site => ⟨_, _, run_issue site⟩)
    fun ticket _ => ?_
  refine Act.Balances.bind (.aside within_custody_isOpen fun site => ⟨_, _, run_isOpen site⟩)
    fun isOpen _ => ?_
  split
  · refine Act.Balances.bind (.capture (balances_prepare message)) fun result _ => ?_
    cases result with
    | ok messages =>
      obtain ⟨admitted, rest⟩ := messages
      refine Act.Balances.bind (balances_discard (add_comm admitted.uses rest.uses)) fun _ _ => ?_
      refine Act.Balances.via (fun _ => 0) (balances_change fun channel => ?_) fun _ _ => .pure rfl
      rw [queued_append, queued_cons, queued_nil, add_zero, zero_add, add_comm]
    | error fault => exact hrefuse ticket fault
  · exact hrefuse ticket _

/-! ## Flushing -/

/-- What was taken of a payload leaves its components in place. -/
theorem uses_taken {payload rest : Buffer} {c : Component} {amount : Int}
    (h : taken payload c amount = .ok rest) : rest.uses = payload.uses := by
  unfold taken at h
  split at h
  · cases h
    rfl
  · split at h
    · cases h
      exact Buffer.uses_of_evolves (Buffer.forall₂_withComponents
        (Buffer.evolves_updateFirst _ (fun c => .consume c _) _))
    · cases h

/-- However much of a message was taken, what is left of it uses the same components. -/
theorem uses_verdictOf {message after : Message} {amount : Int} {done : Bool}
    (h : verdictOf message amount = .ok (after, done)) : after.uses = message.uses := by
  unfold verdictOf at h
  split at h
  · rename_i c _
    cases htaken : taken message.content c amount with
    | error fault =>
      rw [htaken] at h
      cases h
    | ok rest =>
      rw [htaken] at h
      cases h
      exact Message.uses_withContent_of_eq (uses_taken htaken)
  · cases h
    rfl

variable [Endpoint ε]

/-- An attempt leaves the components of its message in place. -/
theorem uses_offer {message after : Message} {done : Bool}
    (h : (offer message : NativeAct ε (Message × Bool)).Returns (after, done)) :
    after.uses = message.uses := by
  cases hrequest : requestOf message with
  | error fault =>
    rw [offer_of_error hrequest] at h
    exact absurd h Act.not_returns_throw
  | ok request? =>
    cases request? with
    | none =>
      rw [offer_of_none hrequest] at h
      cases Act.returns_pure h
      rfl
    | some request =>
      rw [offer_of_some hrequest] at h
      obtain ⟨amount, _, hverdict⟩ := Act.returns_bind h
      exact uses_verdictOf (Act.returns_ofExcept hverdict)

/-- So it is after any number of attempts. -/
theorem uses_spin {attempts : Nat} {message after : Message} {done : Bool}
    (h : (spin attempts message : NativeAct ε (Message × Bool)).Returns (after, done)) :
    after.uses = message.uses := by
  induction attempts generalizing message with
  | zero =>
    cases Act.returns_pure h
    rfl
  | succ attempts ih =>
    obtain ⟨⟨offered, through⟩, hoffer, hlater⟩ := Act.returns_bind h
    rw [← uses_offer hoffer]
    cases through with
    | true =>
      cases Act.returns_pure hlater
      rfl
    | false => exact ih hlater

/-- What an attempt leaves in hand: the message as it is then, or as it was before. -/
def Attempt.uses (before : Message) : Attempt → Multiset AllocatorId
  | .sent message | .waiting message => message.uses
  | .failed _ => before.uses

/-- And by the verdict on the front of the queue, which also covers failures. -/
theorem uses_attempt {attempts : Nat} {message : Message} {verdict : Attempt}
    (h : (attempt attempts message : NativeAct ε Attempt).Returns verdict) :
    verdict.uses message = message.uses := by
  obtain ⟨result, hspin, hverdict⟩ := Act.returns_bind h
  rw [Act.returns_pure hverdict]
  cases result with
  | error fault => rfl
  | ok outcome =>
    obtain ⟨after, done⟩ := outcome
    have hsame := uses_spin (Act.returns_capture hspin)
    cases done with
    | true => exact hsame
    | false => exact hsame

/-- An attempt catches the fault of its sends. -/
theorem succeeds_attempt (attempts : Nat) (message : Message) :
    (attempt attempts message : NativeAct ε Attempt).Succeeds := fun s =>
  ⟨_, _, run_attempt attempts message s⟩

omit [Endpoint ε] in
/-- To settle the front of the queue cannot fail. -/
theorem succeeds_conclude (head : PendingWrite) (verdict : Attempt) :
    (conclude head verdict : SiteAct ε ω Unit).Succeeds := by
  cases verdict with
  | waiting message => exact Act.succeeds_pure ()
  | sent message =>
    exact Act.succeeds_bind (succeeds_settle _ _) fun _ => succeeds_release _
  | failed fault =>
    refine Act.succeeds_bind (succeeds_log _ _ _) fun _ => ?_
    exact Act.succeeds_bind (succeeds_settle _ _) fun _ => succeeds_release _

/-- So draining a queue cannot either: each message fails for itself. -/
theorem succeeds_drain (attempts budget : Nat) (queue : List PendingWrite) :
    (drain attempts budget queue : SiteAct ε ω (List PendingWrite)).Succeeds := by
  induction budget generalizing queue with
  | zero => exact Act.succeeds_pure queue
  | succ budget ih =>
    cases queue with
    | nil => exact Act.succeeds_pure []
    | cons head rest =>
      refine Act.succeeds_bind (succeeds_lift_native (succeeds_attempt _ _)) fun verdict => ?_
      refine Act.succeeds_bind (succeeds_conclude head verdict) fun _ => ?_
      cases verdict with
      | waiting message => exact Act.succeeds_pure _
      | sent message => exact ih rest
      | failed fault => exact ih rest

/-- The loop of a flush gives back what leaves the queue, and hands back what stays. -/
theorem balances_drain (attempts budget : Nat) (queue : List PendingWrite) :
    Act.Balances (Site.custodyBy holding) (queued queue)
      (drain attempts budget queue : SiteAct ε ω (List PendingWrite)) queued left := by
  -- The budget counts down with every message that leaves the queue.
  induction budget generalizing queue with
  | zero => exact .pure rfl
  | succ budget ih =>
    cases queue with
    | nil => exact .pure rfl
    | cons head rest =>
      rw [queued_cons]
      unfold drain
      refine Act.Balances.bind (.aside (within_custody_native _)
        (succeeds_lift_native (succeeds_attempt attempts head.message))) fun verdict hverdict => ?_
      have hsame : verdict.uses head.message = head.message.uses :=
        uses_attempt (Act.returns_focus hverdict)
      -- A message that waits stays at the head with what is left of it; the other two leave the
      -- queue and are given back.
      cases verdict with
      | waiting message =>
        refine Act.Balances.via (fun _ => head.message.uses + queued rest) (.pure rfl) fun _ _ => ?_
        exact .pure (congrArg (· + queued rest) hsame)
      | sent message =>
        rw [← hsame]
        refine Act.Balances.via (fun _ => queued rest) ?_ fun _ _ => ih rest
        refine Act.Balances.bind (.aside (within_custody_futures _) (succeeds_settle _ _))
          fun _ _ => ?_
        exact balances_discard rfl
      | failed fault =>
        refine Act.Balances.via (fun _ => queued rest) ?_ fun _ _ => ih rest
        refine Act.Balances.bind (.aside (within_custody_plain _) (succeeds_log _ _ _))
          fun _ _ => ?_
        refine Act.Balances.bind (.aside (within_custody_futures _) (succeeds_settle _ _))
          fun _ _ => ?_
        exact balances_discard rfl

/-- **A flush conserves memory**: what stays in the queue is stored as it is, and the rest is given
back. -/
theorem conserves_flush :
    Act.Conserves (Site.custody owned) (flush : SiteAct ε ω Unit) := by
  intro rest
  refine .pointwise fun site hsite => ?_
  rw [zero_add, balanced_custody_iff] at hsite
  obtain ⟨stay, served, hdrain⟩ := succeeds_drain (ω := ω) site.channel.config.spinCount.toNat
    site.channel.config.maxWrites.toNat site.channel.pending site
  have hloop : Act.Balances (Site.custodyBy fun _ outside => owned outside)
      (queued site.channel.pending)
      (drain site.channel.config.spinCount.toNat site.channel.config.maxWrites.toNat
        site.channel.pending : SiteAct ε ω (List PendingWrite)) queued 0 := balances_drain _ _ _
  have hserved := (hloop rest).ok hsite hdrain
  unfold flush
  refine .of_run (Act.bind_of_ok (run_current site)) (.of_run (Act.bind_of_ok hdrain) ?_)
  refine .of_run (Act.bind_of_ok (run_change _ served)) ?_
  have hquiet : Act.Conserves (Site.custody owned)
      (setWriteInterest !stay.isEmpty : SiteAct ε ω Unit) :=
    .fixing (within_custody_setWriteInterest _)
  refine (hquiet rest).starting ?_
  rw [zero_add, balanced_custody_iff]
  exact hserved

/-- To write and flush takes a message over and hands no component back. -/
theorem balances_writeAndFlush (message : Message) :
    Act.Balances (Site.custody owned) message.uses (writeAndFlush message : SiteAct ε ω Ticket)
      (fun _ => 0) 0 := by
  refine Act.Balances.bind (balances_write message) fun ticket _ => ?_
  exact Act.Conserves.bind conserves_flush fun _ => .pure ticket

/-! ## Closing -/

omit [Endpoint ε] in
/-- All that is failed is given back. -/
theorem balances_failAll (fault : Fault) (queue : List PendingWrite) :
    Act.Balances (Site.custodyBy holding) (queued queue) (failAll fault queue : SiteAct ε ω Unit)
      (fun _ => 0) left := by
  induction queue with
  | nil => exact .pure rfl
  | cons write rest ih =>
    refine Act.Balances.bind (.aside (within_custody_futures _) (succeeds_settle _ _)) fun _ _ => ?_
    exact Act.Balances.bind (balances_discard (queued_cons write rest)) fun _ _ => ih

omit [Endpoint ε] in
/-- To fail what is queued moves its components from the queue to the ledger. -/
theorem conserves_failPending (fault : Fault) :
    Act.Conserves (Site.custody owned) (failPending fault : SiteAct ε ω Unit) := by
  intro rest
  refine .pointwise fun site hsite => ?_
  rw [zero_add, balanced_custody_iff] at hsite
  refine .of_run (Act.bind_of_ok (run_current site)) ?_
  refine .of_run (Act.bind_of_ok (run_change _ site)) ?_
  refine (balances_failAll fault site.channel.pending rest).starting ?_
  rw [balanced_custody_iff, show queued (site.withChannel _).channel.pending = 0 from rfl, zero_add]
  exact hsite

/-- **Closing gives back what waits**, and nothing else is in the hands of the channel. -/
theorem conserves_close : Act.Conserves (Site.custody owned) (close : SiteAct ε ω Unit) := by
  refine Act.Conserves.bind (.fixing within_custody_isOpen) fun isOpen => ?_
  split
  · refine Act.Conserves.bind (.fixing (within_custody_change fun _ => rfl)) fun _ => ?_
    refine Act.Conserves.bind (conserves_failPending _) fun _ => ?_
    refine Act.Conserves.bind (.fixing within_custody_detach) fun _ => ?_
    refine Act.Conserves.bind (.fixing (within_custody_change fun _ => rfl)) fun _ => ?_
    refine Act.Conserves.bind (.fixing (within_custody_native _)) fun _ => ?_
    exact .fixing (within_custody_plain _)
  · exact .pure ()

/-- A channel that is dropped fails its queue first. -/
theorem conserves_drop : Act.Conserves (Site.custody owned) (drop : SiteAct ε ω Unit) := by
  have hrest : Act.Conserves (Site.custody owned) (do
      failPending .brokenPromise
      (Endpoint.drop : NativeAct ε Unit) : SiteAct ε ω Unit) :=
    Act.Conserves.bind (conserves_failPending _) fun _ => .fixing (within_custody_native _)
  refine Act.Conserves.bind (.capture conserves_close) fun result => ?_
  cases result with
  | ok _ => exact hrest
  | error fault => exact Act.Conserves.bind (.fixing (within_custody_plain _)) fun _ => hrest

/-- A channel can always be given up if its endpoint can. -/
theorem succeeds_drop (h : (Endpoint.drop : NativeAct ε Unit).Succeeds) :
    (drop : SiteAct ε ω Unit).Succeeds := by
  have hfail : ∀ fault (queue : List PendingWrite),
      (failAll fault queue : SiteAct ε ω Unit).Succeeds := by
    intro fault queue
    induction queue with
    | nil => exact Act.succeeds_pure ()
    | cons write rest ih =>
      refine Act.succeeds_bind (succeeds_settle _ _) fun _ => ?_
      exact Act.succeeds_bind (succeeds_release _) fun _ => ih
  have hrest : (do
      failPending .brokenPromise
      (Endpoint.drop : NativeAct ε Unit) : SiteAct ε ω Unit).Succeeds := by
    refine Act.succeeds_bind ?_ fun _ => succeeds_lift_native h
    refine Act.succeeds_bind (fun site => ⟨_, _, run_current site⟩) fun channel => ?_
    exact Act.succeeds_bind (succeeds_change _) fun _ => hfail _ _
  refine Act.succeeds_bind (fun site => ⟨_, _, Act.run_capture close site⟩) fun result => ?_
  cases result with
  | ok _ => exact hrest
  | error fault => exact Act.succeeds_bind (succeeds_log _ _ _) fun _ => hrest

omit [Endpoint ε] in
/-- What keeps the books whatever the rest of the world owns, and whatever must hold there, leaves
the rest of the world as it is. -/
theorem outside_after {act : SiteAct ε ω α}
    (h : ∀ owned : ω → Holding, Act.Conserves (Site.custody owned) act) {site : Site ε ω}
    {inHand : Multiset AllocatorId} (hsite : (Site.custody owned site).Balanced inHand) :
    (act.after site).outside = site.outside := by
  have hwatched : (Site.custody (fun outside => ⟨(owned outside).stored, outside = site.outside⟩)
    site).Balanced inHand := ⟨hsite.books, rfl⟩
  exact ((h _).balanced_after hwatched).sound

/-! ### Nothing waits any longer -/

omit [Endpoint ε] in
/-- After that the queue is empty. -/
theorem pending_failPending (fault : Fault) (site : Site ε ω) :
    ((failPending fault : SiteAct ε ω Unit).after site).channel.pending = [] := by
  have hfail : ∀ queue, Act.Within (Act.Fixing fun site : Site ε ω => site.channel.pending)
      (failAll fault queue) := by
    intro queue
    induction queue with
    | nil => exact Act.within_pure ()
    | cons write rest ih =>
      refine Act.within_bind (fun site => ?_) fun _ => Act.within_bind (fun site => ?_) fun _ => ih
      · rw [Act.after_of_ok (run_settle ..)]
        rfl
      · rw [Act.after_of_ok (run_discard ..)]
        rfl
  unfold failPending
  rw [Act.after_bind_of_ok (run_current site), Act.after_bind_of_ok (run_change _ site)]
  exact hfail site.channel.pending _

/-- A channel that nobody uses any more stores nothing, whether or not its end failed. -/
theorem pending_drop (site : Site ε ω) :
    ((drop : SiteAct ε ω Unit).after site).channel.pending = [] := by
  have hrest : ∀ site : Site ε ω, ((do
      failPending .brokenPromise
      (Endpoint.drop : NativeAct ε Unit) : SiteAct ε ω Unit).after site).channel.pending = [] := by
    intro site
    have hempty := pending_failPending .brokenPromise site
    cases hrun : (failPending .brokenPromise : SiteAct ε ω Unit).run site with
    | ok _ emptied =>
      rw [Act.after_of_ok hrun] at hempty
      rw [Act.after_bind_of_ok hrun, after_lift_native]
      exact hempty
    | error fault emptied =>
      rw [Act.after_of_error hrun] at hempty
      rw [Act.after_of_error (Act.bind_of_error hrun)]
      exact hempty
  unfold drop
  rw [Act.after_bind_of_ok (Act.run_capture _ site)]
  cases (close : SiteAct ε ω Unit).result site with
  | ok _ => exact hrest _
  | error fault =>
    obtain ⟨native, hlog⟩ := run_writeLog .warn logTag
      ("close on destruction failed: " ++ fault.message) ((close : SiteAct ε ω Unit).after site)
    dsimp only
    rw [Act.after_bind_of_ok hlog]
    exact hrest _

end Channel

end UdpTransport
