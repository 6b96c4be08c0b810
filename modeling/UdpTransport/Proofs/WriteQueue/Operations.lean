import UdpTransport.Proofs.Outbound.Prepare
import UdpTransport.Proofs.WriteQueue.Attempts

/-!
# What the operations on the write queue do

`QueueOp` lists what the user of a channel does with its write queue, and `QueueOp.events` what that
does to messages. The central statement of this module, `QueueOp.advances`, is that these events are
all there is: the queue goes from one state to the next as they say, promises are made and settled
as they say, and nothing waits in the queue of a channel whose endpoint is closed (`Advances`).
-/

namespace UdpTransport.Channel

/-! ## What leaves the queue alone -/

section Frames

variable {ε ω : Type}

/-- The messages that wait, and all promises. -/
def waiting (site : Site ε ω) : List PendingWrite × Futures :=
  (site.channel.pending, site.host.futures)

section Registrations

variable {R : Site ε ω → Site ε ω → Prop} [IsPreorder (Site ε ω) R]

/-- To say what a channel waits for is up to its registration, if it has one. -/
theorem within_setReadInterest_of {wanted : Bool}
    (h : ∀ (registration : Registration) name,
      Act.Within R (liftM (registration.setReadInterest name wanted) : SiteAct ε ω Unit)) :
    Act.Within R (setReadInterest wanted : SiteAct ε ω Unit) := by
  refine Act.within_bind (Act.within_of_after fun _ => rfl) fun channel => ?_
  cases channel.registration with
  | none => exact Act.within_pure ()
  | some registration => exact h registration channel.name

theorem within_setWriteInterest_of {wanted : Bool}
    (h : ∀ (registration : Registration) name,
      Act.Within R (liftM (registration.setWriteInterest name wanted) : SiteAct ε ω Unit)) :
    Act.Within R (setWriteInterest wanted : SiteAct ε ω Unit) := by
  refine Act.within_bind (Act.within_of_after fun _ => rfl) fun channel => ?_
  cases channel.registration with
  | none => exact Act.within_pure ()
  | some registration => exact h registration channel.name

/-- To ask for a burst is to remember it and to tell the registration. -/
theorem within_read_of [Endpoint ε]
    (hmark : Act.Within R (change fun channel => { channel with readPending := true } :
      SiteAct ε ω Unit))
    (htell : Act.Within R (setReadInterest true : SiteAct ε ω Unit)) :
    Act.Within R (read : SiteAct ε ω Unit) := by
  refine Act.within_bind (Act.within_of_after fun _ => rfl) fun isOpen => ?_
  split
  · exact Act.within_bind hmark fun _ => htell
  · exact Act.within_pure ()

/-- A channel that is detached forgets its registration, which is cancelled. -/
theorem within_detach_of
    (hforget : Act.Within R (change fun channel => { channel with registration := none } :
      SiteAct ε ω Unit))
    (hcancel : ∀ (registration : Registration) name,
      Act.Within R (liftM (registration.cancel name) : SiteAct ε ω Unit)) :
    Act.Within R (detach : SiteAct ε ω Unit) := by
  refine Act.within_bind (Act.within_of_after fun _ => rfl) fun channel => ?_
  cases channel.registration with
  | none => exact Act.within_pure ()
  | some registration =>
    exact Act.within_bind hforget fun _ => hcancel registration channel.name

end Registrations

/-- An interest that cannot be told leaves the queue as it is. -/
theorem within_setWriteInterest (wanted : Bool) :
    Act.Within Site.NativeOnly (setWriteInterest wanted : SiteAct ε ω Unit) :=
  within_setWriteInterest_of fun _ _ => within_lift_plain _

theorem within_plain_waiting {α : Type} (act : Act Native α) :
    Act.Within (Act.Fixing waiting) (liftM act : SiteAct ε ω α) := by
  intro site
  obtain ⟨native, hsite⟩ := within_lift_plain act site
  rw [Act.Fixing, hsite]
  rfl

theorem within_native_waiting {α : Type} (act : NativeAct ε α) :
    Act.Within (Act.Fixing waiting) (liftM act : SiteAct ε ω α) := by
  intro site
  rw [Act.Fixing, after_lift_native]
  rfl

theorem within_detach : Act.Within (Act.Fixing waiting) (detach : SiteAct ε ω Unit) :=
  within_detach_of (Act.within_modify fun _ => rfl) fun _ _ => within_plain_waiting _

end Frames

variable {ε ω : Type} [Endpoint ε]

/-! ## Operations -/

/-- What the user of a channel does with its write queue. -/
inductive QueueOp where
  | write (message : Message)
  | writeAndFlush (message : Message)
  | flush
  | close
  /-- Nobody uses the channel any more. -/
  | drop

/-! ## Events -/

/-- The site once the promise of a write is made. -/
def afterIssue (site : Site ε ω) : Site ε ω :=
  site.withFutures { site.host.futures with issued := site.host.futures.issued + 1 }

/-- What a write does to its message. -/
def writeEvents (message : Message) (site : Site ε ω) : List WriteEvent :=
  let ticket := site.host.futures.issued
  if Endpoint.isOpen site.endpoint then
    match (prepare message : SiteAct ε ω (Message × Message)).result (afterIssue site) with
    | .ok (admitted, _) => [.queued ⟨admitted, ticket⟩]
    | .error fault => [.refused ticket fault]
  else [.refused ticket (.violation .writeAfterClose)]

/-- What a flush does to the messages of the queue, every attempt included. -/
def flushEvents (site : Site ε ω) : List WriteEvent :=
  let config := site.channel.config
  let drained : SiteAct ε ω (List PendingWrite × List WriteEvent) :=
    drainTold config.spinCount.toNat config.maxWrites.toNat site.channel.pending
  match drained.result site with
  | .ok (_, history) => history
  | .error _ => []

/-- What the end of a channel does to the messages of the queue. -/
def leaveEvents (site : Site ε ω) : List WriteEvent :=
  if Endpoint.isOpen site.endpoint then site.channel.pending.map (.abandoned ·.ticket) else []

namespace QueueOp

/-- Does an operation. -/
def run : QueueOp → SiteAct ε ω Unit
  | write message => do
    let _ ← Channel.write message
    pure ()
  | writeAndFlush message => do
    let _ ← Channel.writeAndFlush message
    pure ()
  | flush => Channel.flush
  | close => Channel.close
  | drop => Channel.drop

/-- What an operation does to messages. -/
def events : QueueOp → Site ε ω → List WriteEvent
  | write message, site => writeEvents message site
  | writeAndFlush message, site =>
    writeEvents message site ++
      flushEvents ((Channel.write message : SiteAct ε ω Ticket).after site)
  | flush, site => flushEvents site
  | close, site | drop, site => leaveEvents site

end QueueOp

/-! ## Steps -/

/-- Nothing waits in the queue of a channel whose endpoint is closed. -/
def IdleWhenClosed (site : Site ε ω) : Prop :=
  Endpoint.isOpen site.endpoint = false → site.channel.pending = []

/-- A history is all that happened to the messages of a channel between two states. -/
structure Advances (history : List WriteEvent) (site site' : Site ε ω) : Prop where
  replay : Replay site.channel.pending history site'.channel.pending
  numbered : issuedIn history =
    List.range' site.host.futures.issued (issuedIn history).length
  issued : site'.host.futures.issued = site.host.futures.issued + (issuedIn history).length
  settled : site'.host.futures.settled.toList =
    site.host.futures.settled.toList ++ settledIn history
  idle : IdleWhenClosed site → IdleWhenClosed site'

namespace Advances

variable {site middle site' : Site ε ω} {first second history : List WriteEvent}

theorem refl (site : Site ε ω) : Advances [] site site where
  replay := .nil _
  numbered := rfl
  issued := rfl
  settled := by simp [settledIn]
  idle := id

theorem trans (hfirst : Advances first site middle) (hsecond : Advances second middle site') :
    Advances (first ++ second) site site' where
  replay := hfirst.replay.append hsecond.replay
  numbered := by
    -- The second history goes on numbering where the first one stopped.
    have hlater := hsecond.numbered
    rw [hfirst.issued] at hlater
    rw [issuedIn_append, List.length_append, ← List.range'_append_1, ← hfirst.numbered, ← hlater]
  issued := by
    rw [hsecond.issued, hfirst.issued, issuedIn_append, List.length_append, Nat.add_assoc]
  settled := by
    rw [hsecond.settled, hfirst.settled, settledIn_append, List.append_assoc]
  idle := hsecond.idle ∘ hfirst.idle

end Advances

/-! ## Writing -/

/-- A message that is turned down has its promise settled. -/
theorem Advances.refused {site site' : Site ε ω} {fault : Fault}
    (h : Serves [(site.host.futures.issued, .failed fault)] (afterIssue site) site') :
    Advances [.refused site.host.futures.issued fault] site site' where
  replay := by
    rw [h.pending]
    exact .single (.refused ..)
  numbered := rfl
  issued := h.issued
  settled := h.settled
  idle hidle hclosed := by
    rw [h.pending]
    exact hidle (h.closed_before hclosed)

/-- **A write returns its promise.** Whatever becomes of the message, a write does not fail. -/
theorem run_write (message : Message) (site : Site ε ω) :
    ∃ site', (write message : SiteAct ε ω Ticket).run site =
        .ok site.host.futures.issued site' ∧
      Advances (writeEvents message site) site site' := by
  unfold write writeEvents
  rw [Act.bind_of_ok (run_issue site), Act.bind_of_ok (run_isOpen _)]
  cases hopen : Endpoint.isOpen site.endpoint with
  | false =>
    simp only [Site.withFutures_endpoint, hopen]
    rw [if_neg Bool.false_ne_true, if_neg Bool.false_ne_true, Act.bind_of_ok (run_settle ..),
      Act.bind_of_ok (run_discard ..)]
    exact ⟨_, rfl, .refused ⟨rfl, rfl, Array.toList_push .., id⟩⟩
  | true =>
    simp only [Site.withFutures_endpoint, hopen]
    rw [if_pos trivial, if_pos trivial, Act.bind_of_ok (Act.run_capture _ _)]
    -- Nothing that matters to the queue changes while the message is prepared.
    have hprepare := within_prepare message (afterIssue site)
    obtain ⟨ledger, fallback, hsite⟩ := hprepare
    unfold afterIssue at hsite
    cases hresult : (prepare message : SiteAct ε ω (Message × Message)).result (afterIssue site)
      with
    | error fault =>
      unfold afterIssue at hresult
      rw [hresult, hsite]
      dsimp only
      rw [Act.bind_of_ok (run_settle ..), Act.bind_of_ok (run_discard ..)]
      exact ⟨_, rfl, .refused ⟨rfl, rfl, Array.toList_push .., id⟩⟩
    | ok messages =>
      obtain ⟨admitted, rest⟩ := messages
      unfold afterIssue at hresult
      rw [hresult, hsite]
      dsimp only
      rw [Act.bind_of_ok (run_discard ..), Act.bind_of_ok (run_change ..)]
      refine ⟨_, rfl, ?_, rfl, rfl, by simp [settledIn, WriteEvent.settled?], ?_⟩
      · exact .single (.queued ..)
      · intro _ hclosed
        simp_all

/-! ## Flushing -/

section Flushing

variable [Endpoint.OpenWhileSending ε]

/-- The events of a flush are those of serving the queue. -/
theorem run_drain (site : Site ε ω) :
    ∃ left site', (drain site.channel.config.spinCount.toNat site.channel.config.maxWrites.toNat
        site.channel.pending : SiteAct ε ω (List PendingWrite)).run site = .ok left site' ∧
      Drained site.channel.config.spinCount.toNat site.channel.config.maxWrites.toNat
        site.channel.pending (flushEvents site) left ∧
      Serves (settledIn (flushEvents site)) site site' := by
  obtain ⟨left, history, site', htold, hdrain, hdrained, hserves⟩ :=
    drainTold_spec site.channel.config.spinCount.toNat site.channel.config.maxWrites.toNat
      site.channel.pending site
  have hevents : flushEvents site = history := by
    unfold flushEvents
    dsimp only
    rw [Act.result_of_ok htold]
  rw [hevents]
  exact ⟨left, site', hdrain, hdrained, hserves⟩

theorem advances_flush (site : Site ε ω) :
    Advances (flushEvents site) site ((flush : SiteAct ε ω Unit).after site) := by
  obtain ⟨left, served, hdrain, hdrained, hserves⟩ := run_drain site
  unfold flush
  rw [Act.after_bind_of_ok (run_current site), Act.after_bind_of_ok hdrain,
    Act.after_bind_of_ok (run_change ..)]
  -- Whether the interest in writing can be told or not, the queue is what was left of it.
  obtain ⟨native, hsite⟩ := within_setWriteInterest (!left.isEmpty)
    (served.withChannel { served.channel with pending := left })
  rw [hsite]
  refine ⟨hdrained.replay, ?_, ?_, hserves.settled, fun hidle hclosed => ?_⟩
  · rw [hdrained.issuedIn]; rfl
  · rw [hdrained.issuedIn]
    exact hserves.issued
  · have hpending := hidle (hserves.closed_before hclosed)
    rw [hpending] at hdrained
    exact hdrained.nil

end Flushing

/-! ## Closing -/

theorem run_failAll (fault : Fault) (queue : List PendingWrite) (site : Site ε ω) :
    ∃ site', (failAll fault queue : SiteAct ε ω Unit).run site = .ok () site' ∧
      Serves (queue.map fun write => (write.ticket, .failed fault)) site site' := by
  induction queue generalizing site with
  | nil => exact ⟨site, rfl, .refl site⟩
  | cons head rest ih =>
    rw [failAll, Act.bind_of_ok (run_settle ..), Act.bind_of_ok (run_discard ..)]
    obtain ⟨site', hrun, hserves⟩ := ih _
    refine ⟨site', hrun, ?_⟩
    exact (Serves.settle ..).trans hserves

/-- The queue is empty afterwards, and every promise of a message in it is settled. -/
theorem run_failPending (fault : Fault) (site : Site ε ω) :
    ∃ site', (failPending fault : SiteAct ε ω Unit).run site = .ok () site' ∧
      Serves (site.channel.pending.map fun write => (write.ticket, .failed fault))
        (site.withChannel { site.channel with pending := [] }) site' := by
  unfold failPending
  rw [Act.bind_of_ok (run_current site), Act.bind_of_ok (run_change ..)]
  exact run_failAll fault site.channel.pending _

theorem replay_abandoned (queue : List PendingWrite) :
    Replay queue (queue.map (.abandoned ·.ticket)) [] := by
  induction queue with
  | nil => exact .nil []
  | cons head rest ih => exact .cons (.abandoned ..) ih

theorem settledIn_abandoned (queue : List PendingWrite) :
    settledIn (queue.map (.abandoned ·.ticket)) =
      queue.map fun write => (write.ticket, .failed (.violation .channelClosed)) := by
  induction queue with
  | nil => rfl
  | cons head rest ih => exact congrArg (_ :: ·) ih

theorem Advances.abandoned {site site' : Site ε ω} (hpending : site'.channel.pending = [])
    (hissued : site'.host.futures.issued = site.host.futures.issued)
    (hsettled : site'.host.futures.settled.toList = site.host.futures.settled.toList ++
      site.channel.pending.map fun write => (write.ticket, .failed (.violation .channelClosed))) :
    Advances (site.channel.pending.map (.abandoned ·.ticket)) site site' := by
  have hno : issuedIn (site.channel.pending.map (.abandoned ·.ticket)) = [] := by
    induction site.channel.pending with
    | nil => rfl
    | cons head rest ih => exact ih
  constructor
  case replay => exact hpending ▸ replay_abandoned _
  case numbered => rw [hno]; rfl
  case issued => rw [hno]; exact hissued
  case settled => rw [settledIn_abandoned]; exact hsettled
  case idle => exact fun _ _ => hpending

/-- **Closing settles everything.** What a failing close has done up to its failure stays done. -/
theorem advances_close (site : Site ε ω) :
    Advances (leaveEvents site) site ((close : SiteAct ε ω Unit).after site) ∧
      (IdleWhenClosed site → ((close : SiteAct ε ω Unit).after site).channel.pending = []) := by
  unfold close leaveEvents
  rw [Act.after_bind_of_ok (run_isOpen _)]
  cases hopen : Endpoint.isOpen site.endpoint with
  | false =>
    rw [if_neg Bool.false_ne_true, if_neg Bool.false_ne_true]
    exact ⟨.refl site, fun hidle => hidle hopen⟩
  | true =>
    rw [if_pos rfl, if_pos rfl, Act.after_bind_of_ok (run_change ..)]
    obtain ⟨emptied, hrun, hserves⟩ := run_failPending (.violation .channelClosed)
      (site.withChannel
        { site.channel with connected := false, active := false, readPending := false })
    rw [Act.after_bind_of_ok hrun]
    -- From here on some steps can fail, but none of them touches the queue.
    have hrest : Act.Within (Act.Fixing waiting) (do
        detach
        forgetAddresses
        (Endpoint.close : NativeAct ε Unit)
        Native.writeLog .debug logTag "closed" : SiteAct ε ω Unit) :=
      Act.within_bind within_detach fun _ =>
        Act.within_bind (Act.within_modify fun _ => rfl) fun _ =>
          Act.within_bind (within_native_waiting _) fun _ => within_plain_waiting _
    obtain ⟨hpending, hfutures⟩ := Prod.mk.inj (hrest emptied)
    have hempty := hpending.trans hserves.pending
    refine ⟨.abandoned hempty ?_ ?_, fun _ => hempty⟩
    · rw [hfutures]; exact hserves.issued
    · rw [hfutures]; exact hserves.settled

/-- Once the queue is empty, no promise is left to be broken. -/
theorem waiting_drop (site : Site ε ω) (hidle : IdleWhenClosed site) :
    waiting ((drop : SiteAct ε ω Unit).after site) =
      waiting ((close : SiteAct ε ω Unit).after site) := by
  -- Whatever closing came to, there is nothing left that a promise could be broken for.
  have hrest : ∀ s : Site ε ω, s.channel.pending = [] →
      waiting ((do
        failPending .brokenPromise
        (Endpoint.drop : NativeAct ε Unit) : SiteAct ε ω Unit).after s) = waiting s := by
    intro s hempty
    have hrun : (failPending .brokenPromise : SiteAct ε ω Unit).run s =
        .ok () (s.withChannel { s.channel with pending := [] }) := by
      unfold failPending
      rw [Act.bind_of_ok (run_current s), hempty, Act.bind_of_ok (run_change ..)]
      rfl
    rw [Act.after_bind_of_ok hrun]
    refine (within_native_waiting _ _).trans ?_
    exact Prod.ext hempty.symm rfl
  have hempty := (advances_close site).2 hidle
  unfold drop
  rw [Act.after_bind_of_ok (Act.run_capture _ _)]
  cases (close : SiteAct ε ω Unit).result site with
  | ok _ => exact hrest _ hempty
  | error fault =>
    obtain ⟨native, hlog⟩ := run_writeLog .warn logTag
      ("close on destruction failed: " ++ fault.message) ((close : SiteAct ε ω Unit).after site)
    dsimp only
    rw [Act.after_bind_of_ok hlog]
    exact hrest _ hempty

/-! ## All of them -/

/-- **One operation.** Its events are all that happens to the messages of the channel. -/
theorem QueueOp.advances [Endpoint.OpenWhileSending ε] (op : QueueOp) (site : Site ε ω)
    (hidle : IdleWhenClosed site) : Advances (op.events site) site (op.run.after site) := by
  cases op with
  | write message =>
    obtain ⟨site', hrun, hadvances⟩ := run_write message site
    rw [run, Act.after_bind_pure, Act.after_of_ok hrun]
    exact hadvances
  | writeAndFlush message =>
    obtain ⟨site', hrun, hadvances⟩ := run_write message site
    rw [run, Act.after_bind_pure, Channel.writeAndFlush, Act.after_bind_of_ok hrun,
      Act.after_bind_pure, events, Act.after_of_ok hrun]
    exact hadvances.trans (advances_flush site')
  | flush => exact advances_flush site
  | close => exact (advances_close site).1
  | drop =>
    obtain ⟨hpending, hfutures⟩ := Prod.mk.inj (waiting_drop site hidle)
    obtain ⟨hadvances, hempty⟩ := advances_close site
    constructor
    case replay => exact hpending ▸ hadvances.replay
    case numbered => exact hadvances.numbered
    case issued => exact hfutures ▸ hadvances.issued
    case settled => exact hfutures ▸ hadvances.settled
    case idle => exact fun _ _ => hpending.trans (hempty hidle)

/-- Nothing waits once the channel is closed or out of use. -/
theorem QueueOp.pending_last {last : QueueOp} (hlast : last = .close ∨ last = .drop)
    (site : Site ε ω) (hidle : IdleWhenClosed site) :
    (last.run.after site).channel.pending = [] := by
  have hclose := (advances_close site).2 hidle
  rcases hlast with rfl | rfl
  · exact hclose
  · exact (congrArg Prod.fst (waiting_drop site hidle)).trans hclose

end UdpTransport.Channel
