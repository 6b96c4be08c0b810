import UdpTransport.Proofs.Along
import UdpTransport.Proofs.WriteQueue.Likeness

/-!
# What a channel asks of its endpoint

To see every send of a channel, its endpoint is tapped: a `Tapped` endpoint does what the one below
it does, and keeps each request together with its answer. A channel cannot tell the difference
(`Tapped.alike`).

What is seen there is what the history of the channel tells: each attempt with a message makes one
send, or none if there is nothing to send, and nothing else is ever asked (`calls_runAll`). The
limits of a flush, which its history keeps, are therefore limits on the sends
(`calls_flush_limited`).
-/

namespace UdpTransport

/-- One send that was asked of an endpoint, and what came of it. -/
structure Exchange where
  request : SendRequest
  answer : Except Fault Int

namespace Exchange

/-- The endpoint took no more than it was offered. -/
def InRange (exchange : Exchange) : Prop :=
  match exchange.answer with
  | .ok amount => 0 ≤ amount ∧ amount.toNat ≤ exchange.request.payload.toBytes.length
  | .error _ => False

instance : DecidablePred InRange
  | ⟨_, .ok _⟩ => inferInstanceAs (Decidable (_ ∧ _))
  | ⟨_, .error _⟩ => inferInstanceAs (Decidable False)

/-- An exchange in range took a number of the bytes that were offered. -/
theorem InRange.answer_eq {exchange : Exchange} (h : exchange.InRange) :
    ∃ amount, exchange.answer = .ok amount ∧ 0 ≤ amount ∧
      amount.toNat ≤ exchange.request.payload.toBytes.length := by
  obtain ⟨request, answer⟩ := exchange
  cases answer with
  | ok amount => exact ⟨amount, rfl, h⟩
  | error fault => exact h.elim

end Exchange

/-- An endpoint that keeps what was asked of it to send. -/
structure Tapped (ε : Type) where
  endpoint : ε
  sends : List Exchange := []

namespace Tapped

variable {ε α : Type}

/-- An operation of the endpoint below. -/
def through (act : NativeAct ε α) : NativeAct (Tapped ε) α :=
  Act.focus (fun s => (s.1.endpoint, s.2))
    (fun part s => ({ s.1 with endpoint := part.1 }, part.2)) act

/-- Keeps one more send. -/
def keep (exchange : Exchange) : NativeAct (Tapped ε) Unit :=
  modify fun s => ({ s.1 with sends := s.1.sends ++ [exchange] }, s.2)

instance [Endpoint ε] : Endpoint (Tapped ε) where
  isOpen tapped := Endpoint.isOpen tapped.endpoint
  descriptor tapped := Endpoint.descriptor tapped.endpoint
  localAddress := through Endpoint.localAddress
  remoteAddress := through Endpoint.remoteAddress
  bind address := through (Endpoint.bind address)
  connect address := through (Endpoint.connect address)
  disconnect := through Endpoint.disconnect
  close := through Endpoint.close
  send request := do
    let answer ← (through (Endpoint.send request)).capture
    keep ⟨request, answer⟩
    Act.ofExcept answer
  read access room := through (Endpoint.read access room)
  receive access room := through (Endpoint.receive access room)
  drop := through Endpoint.drop

/-- An operation that goes through to the endpoint below does there what it would do untapped. -/
theorem mirrors_through (act : NativeAct ε α) :
    Act.Mirrors (Prod.map Tapped.endpoint id) (through act) act := by
  intro s
  rw [through, Act.result_focus, Act.after_focus]
  exact ⟨rfl, rfl⟩

variable [Endpoint ε]

/-- A tapped endpoint answers as the one below does. -/
theorem result_send (request : SendRequest) (s : Tapped ε × Native) :
    (Endpoint.send request : NativeAct (Tapped ε) Int).result s =
      (Endpoint.send request : NativeAct ε Int).result (s.1.endpoint, s.2) := by
  refine (Act.result_congr (Act.bind_of_ok (Act.run_capture _ s))).trans ?_
  refine (Act.result_congr (Act.bind_of_ok rfl)).trans ?_
  rw [Act.result_ofExcept]
  exact Act.result_focus _ _ _ s

/-- The request and its answer are kept. -/
theorem after_send (request : SendRequest) (s : Tapped ε × Native) :
    (Endpoint.send request : NativeAct (Tapped ε) Int).after s =
      let below := (Endpoint.send request : NativeAct ε Int).after (s.1.endpoint, s.2)
      let exchange : Exchange :=
        ⟨request, (Endpoint.send request : NativeAct (Tapped ε) Int).result s⟩
      ({ endpoint := below.1, sends := s.1.sends ++ [exchange] }, below.2) := by
  refine (Act.after_bind_of_ok (Act.run_capture _ s)).trans ?_
  refine (Act.after_bind_of_ok rfl).trans ?_
  rw [Act.after_ofExcept, result_send, through, Act.after_focus, Act.result_focus]

/-- Nobody can tell a tapped endpoint from the one below. -/
theorem alike : Endpoint.Alike (Tapped.endpoint : Tapped ε → ε) where
  isOpen _ := rfl
  send request s := by
    rw [result_send, after_send]
    exact ⟨rfl, rfl⟩
  close := mirrors_through _
  drop := mirrors_through _

instance [Endpoint.OpenWhileSending ε] : Endpoint.OpenWhileSending (Tapped ε) where
  isOpen_send request s hopen := by
    rw [after_send]
    exact Endpoint.OpenWhileSending.isOpen_send request (s.1.endpoint, s.2) hopen

end Tapped

namespace Channel

variable {ε ω : Type}

/-! ## Calls -/

/-- A send in the course of a history: the attempt that it was made for, and what came of it. -/
structure Call where
  ticket : Ticket
  /-- The message as it was offered. -/
  message : Message
  request : SendRequest
  answer : Except Fault Int

namespace Call

/-- What is seen of a call at the endpoint. -/
def exchange (call : Call) : Exchange := ⟨call.request, call.answer⟩

/-- What a call means for its message. -/
def verdict (call : Call) : Attempt := .ofResult (call.answer >>= verdictOf call.message)

/-- The attempt that a call was made for. -/
def event (call : Call) : WriteEvent := .tried call.ticket call.message call.verdict

end Call

/-- What happens without anything being asked of the endpoint. -/
inductive Silent : WriteEvent → Prop where
  | queued (write : PendingWrite) : Silent (.queued write)
  | refused (ticket : Ticket) (fault : Fault) : Silent (.refused ticket fault)
  | abandoned (ticket : Ticket) : Silent (.abandoned ticket)
  /-- There is nothing to send. -/
  | nothing {message : Message} (ticket : Ticket) (h : requestOf message = .ok none) :
    Silent (.tried ticket message (.sent message))
  /-- What there is cannot be sent. -/
  | unsendable {message : Message} {fault : Fault} (ticket : Ticket)
    (h : requestOf message = .error fault) : Silent (.tried ticket message (.failed fault))

/-- Which calls a history makes. -/
inductive Traced : List WriteEvent → List Call → Prop where
  | nil : Traced [] []
  | call {call : Call} {history : List WriteEvent} {calls : List Call}
    (h : requestOf call.message = .ok (some call.request)) (later : Traced history calls) :
    Traced (call.event :: history) (call :: calls)
  | silent {event : WriteEvent} {history : List WriteEvent} {calls : List Call} (h : Silent event)
    (later : Traced history calls) : Traced (event :: history) calls

namespace Traced

theorem single {call : Call} (h : requestOf call.message = .ok (some call.request)) :
    Traced [call.event] [call] := .call h .nil

theorem append {first second : List WriteEvent} {calls later : List Call}
    (hfirst : Traced first calls) (hsecond : Traced second later) :
    Traced (first ++ second) (calls ++ later) := by
  induction hfirst with
  | nil => exact hsecond
  | call h _ ih => exact .call h ih
  | silent h _ ih => exact .silent h ih

/-- Where nothing is asked, no call is made. -/
theorem of_silent {history : List WriteEvent} (h : ∀ event ∈ history, Silent event) :
    Traced history [] := by
  induction history with
  | nil => exact .nil
  | cons event rest ih =>
    obtain ⟨hevent, hrest⟩ := List.forall_mem_cons.mp h
    exact .silent hevent (ih hrest)

/-- Every call is made in an attempt of its own. -/
theorem sublist_triedIn {history : List WriteEvent} {calls : List Call} (h : Traced history calls) :
    (calls.map Call.ticket).Sublist (triedIn history) := by
  induction h with
  | nil => exact .slnil
  | call _ _ ih => exact ih.cons_cons _
  | silent _ _ ih =>
    rw [triedIn, inOrder_cons]
    exact ih.trans (List.sublist_append_right ..)

end Traced

/-! ## Attempts -/

section Attempts

variable [Endpoint ε] (ticket : Ticket)

/-- An attempt makes the call that its message asks for, if any. -/
theorem traced_offer (message : Message) (s : Tapped ε × Native) :
    ∃ calls : List Call, ((offer message : NativeAct (Tapped ε) (Message × Bool)).after s).1.sends =
        s.1.sends ++ calls.map Call.exchange ∧
      Traced [.tried ticket message (.ofResult ((offer message :
        NativeAct (Tapped ε) (Message × Bool)).result s))] calls := by
  cases hrequest : requestOf message with
  | error fault =>
    rw [offer_of_error hrequest]
    exact ⟨[], (List.append_nil _).symm, .of_silent (by simpa using .unsendable ticket hrequest)⟩
  | ok request? =>
    cases request? with
    | none =>
      rw [offer_of_none hrequest]
      exact ⟨[], (List.append_nil _).symm, .of_silent (by simpa using .nothing ticket hrequest)⟩
    | some request =>
      rw [offer_of_some hrequest, Act.after_bind_ofExcept, Act.result_bind_ofExcept,
        Tapped.after_send]
      let call : Call := ⟨ticket, message, request,
        (Endpoint.send request : NativeAct (Tapped ε) Int).result s⟩
      have hcall : requestOf call.message = .ok (some call.request) := hrequest
      exact ⟨[call], rfl, .single hcall⟩

/-- Several attempts make their calls one after the other. -/
theorem traced_trySeveral (attempts : Nat) (message : Message) (s : Tapped ε × Native) :
    ∃ verdict tries s' calls,
      (trySeveral attempts message : NativeAct (Tapped ε) _).run s = .ok (verdict, tries) s' ∧
        s'.1.sends = s.1.sends ++ calls.map Call.exchange ∧ Traced (told ticket tries) calls := by
  induction attempts generalizing message s with
  | zero => exact ⟨.waiting message, [], s, [], rfl, (List.append_nil _).symm, .nil⟩
  | succ attempts ih =>
    obtain ⟨calls, hsends, htraced⟩ := traced_offer ticket message s
    have htry := run_tryOnce message s
    unfold trySeveral
    rw [Act.bind_of_ok htry]
    -- Only what waits is tried again, with what is left of it.
    cases hverdict : Attempt.ofResult ((offer message : NativeAct (Tapped ε) _).result s) with
    | sent left => exact ⟨_, _, _, calls, rfl, hsends, hverdict ▸ htraced⟩
    | failed fault => exact ⟨_, _, _, calls, rfl, hsends, hverdict ▸ htraced⟩
    | waiting left =>
      obtain ⟨verdict, tries, s', later, hrun, hlater, htracedLater⟩ :=
        ih left ((offer message : NativeAct (Tapped ε) _).after s)
      refine ⟨verdict, (message, .waiting left) :: tries, s', calls ++ later, Act.bind_of_ok hrun,
        ?_, ?_⟩
      · rw [hlater, hsends, List.map_append, List.append_assoc]
      · exact (hverdict ▸ htraced).append htracedLater

end Attempts

/-! ## The queue -/

section Queue

/-- The sends that were asked of the endpoint of a channel. -/
def sendsOf (site : Site (Tapped ε) ω) : List Exchange := site.endpoint.sends

variable {α : Type}

/-- What is done to memory and promises alone sends nothing. -/
theorem quiet_memory {act : SiteAct (Tapped ε) ω α} (h : Act.Within Site.MemoryOnly act) :
    Act.Within (Act.Fixing sendsOf) act := by
  intro site
  obtain ⟨ledger, fallback, hsite⟩ := h site
  rw [Act.Fixing, hsite]
  rfl

theorem quiet_futures (act : Act Futures α) :
    Act.Within (Act.Fixing sendsOf) (liftM act : SiteAct (Tapped ε) ω α) := by
  intro site
  rw [Act.Fixing, after_lift_futures]
  rfl

theorem quiet_discard (buffer : Buffer) :
    Act.Within (Act.Fixing sendsOf) (liftM (Ledger.discard buffer) : SiteAct (Tapped ε) ω Unit) :=
  quiet_memory (within_lift_ledger _)

/-- Nor does what the native side does without the endpoint. -/
theorem quiet_nativeOnly {act : SiteAct (Tapped ε) ω α} (h : Act.Within Site.NativeOnly act) :
    Act.Within (Act.Fixing sendsOf) act := by
  intro site
  obtain ⟨native, hsite⟩ := h site
  rw [Act.Fixing, hsite]
  rfl

theorem quiet_plain (act : Act Native α) :
    Act.Within (Act.Fixing sendsOf) (liftM act : SiteAct (Tapped ε) ω α) :=
  quiet_nativeOnly (within_lift_plain act)

/-- What is asked of the endpoint below, sends apart, is not kept. -/
theorem quiet_through (act : NativeAct ε α) :
    Act.Within (Act.Fixing sendsOf) (liftM (Tapped.through act) : SiteAct (Tapped ε) ω α) := by
  intro site
  rw [Act.Fixing, after_lift_native, Tapped.through, Act.after_focus]
  rfl

theorem quiet_failPending (fault : Fault) :
    Act.Within (Act.Fixing sendsOf) (failPending fault : SiteAct (Tapped ε) ω Unit) :=
  within_failPending quiet_futures quiet_discard (Act.within_modify fun _ => rfl) fault

variable [Endpoint ε]

/-- To write is not to send. -/
theorem quiet_write (message : Message) :
    Act.Within (Act.Fixing sendsOf) (write message : SiteAct (Tapped ε) ω Ticket) :=
  within_write_of (fun message => quiet_memory (within_prepare message)) quiet_discard
    quiet_futures (fun _ _ => rfl) message

/-- To close sends nothing of what was queued. -/
theorem quiet_close :
    Act.Within (Act.Fixing sendsOf) (close : SiteAct (Tapped ε) ω Unit) := by
  have hdetach : Act.Within (Act.Fixing sendsOf) (detach : SiteAct (Tapped ε) ω Unit) :=
    within_detach_of (Act.within_modify fun _ => rfl) fun _ _ => quiet_plain _
  exact within_close_of (Act.within_modify fun _ => rfl) (quiet_failPending _) hdetach
    (Act.within_modify fun _ => rfl) (quiet_through _) (quiet_plain _)

/-- To go out of use neither. -/
theorem quiet_drop : Act.Within (Act.Fixing sendsOf) (drop : SiteAct (Tapped ε) ω Unit) :=
  within_drop_of quiet_close (fun _ => quiet_plain _) (quiet_failPending _) (quiet_through _)

/-- A history makes calls, and these are the sends that were asked meanwhile. -/
def Calls (history : List WriteEvent) (site site' : Site (Tapped ε) ω) : Prop :=
  ∃ calls, Traced history calls ∧ sendsOf site' = sendsOf site ++ calls.map Call.exchange

namespace Calls

variable {site middle site' : Site (Tapped ε) ω} {first second history : List WriteEvent}

omit [Endpoint ε] in
theorem trans (hfirst : Calls first site middle) (hsecond : Calls second middle site') :
    Calls (first ++ second) site site' := by
  obtain ⟨calls, htraced, hsends⟩ := hfirst
  obtain ⟨later, htracedLater, hlater⟩ := hsecond
  refine ⟨calls ++ later, htraced.append htracedLater, ?_⟩
  rw [hlater, hsends, List.map_append, List.append_assoc]

omit [Endpoint ε] in
theorem of_silent (h : ∀ event ∈ history, Silent event) (hsends : sendsOf site' = sendsOf site) :
    Calls history site site' := ⟨[], .of_silent h, by rw [hsends]; exact (List.append_nil _).symm⟩

end Calls

/-- Working through the queue makes the calls of its attempts. -/
theorem calls_drainTold [Endpoint.OpenWhileSending ε] (attempts budget : Nat)
    (queue : List PendingWrite) (site : Site (Tapped ε) ω) :
    ∃ left history site', (drainTold attempts budget queue : SiteAct (Tapped ε) ω _).run site =
        .ok (left, history) site' ∧ Calls history site site' := by
  induction budget generalizing queue site with
  | zero => exact ⟨queue, [], site, rfl, .of_silent (by simp) rfl⟩
  | succ budget ih =>
    cases queue with
    | nil => exact ⟨[], [], site, rfl, .of_silent (by simp) rfl⟩
    | cons head rest =>
      obtain ⟨verdict, tries, part, calls, htold, hsends, htraced⟩ :=
        traced_trySeveral head.ticket attempts head.message (site.endpoint, site.host.native)
      obtain ⟨site₁, hconclude, -⟩ := run_conclude head verdict (site.withNative part)
      -- Promises are settled and memory is given back without the endpoint.
      have hfront : Calls (told head.ticket tries) site site₁ := by
        refine ⟨calls, htraced, ?_⟩
        have hquiet := within_conclude (R := Act.Fixing sendsOf) quiet_futures quiet_discard
          (fun _ _ _ => quiet_plain _) head verdict (site.withNative part : Site (Tapped ε) ω)
        rw [Act.after_of_ok hconclude] at hquiet
        exact hquiet.trans hsends
      by_cases hdecided : verdict.outcome?.isSome
      · obtain ⟨left, later, site', hrun, hlater⟩ := ih rest site₁
        exact ⟨left, told head.ticket tries ++ later, site',
          run_drainTold_decided htold hconclude hdecided hrun, hfront.trans hlater⟩
      · obtain ⟨left, rfl⟩ := Attempt.waiting_of_undecided hdecided
        exact ⟨⟨left, head.ticket⟩ :: rest, told head.ticket tries, site₁,
          run_drainTold_waiting htold hconclude, hfront⟩

/-- A write makes no call, whatever it is told of. -/
theorem calls_write (message : Message) (site : Site (Tapped ε) ω) :
    Calls (writeEvents message site) site
      ((write message : SiteAct (Tapped ε) ω Ticket).after site) := by
  refine .of_silent (fun event hevent => ?_) (quiet_write message site)
  unfold writeEvents at hevent
  split at hevent
  · split at hevent
    · cases List.mem_singleton.mp hevent
      exact .queued _
    · cases List.mem_singleton.mp hevent
      exact .refused ..
  · cases List.mem_singleton.mp hevent
    exact .refused ..

/-- A queue that is left makes none either. -/
theorem calls_leave {act : SiteAct (Tapped ε) ω Unit} (h : Act.Within (Act.Fixing sendsOf) act)
    (site : Site (Tapped ε) ω) : Calls (leaveEvents site) site (act.after site) := by
  refine .of_silent (fun event hevent => ?_) (h site)
  unfold leaveEvents at hevent
  split at hevent
  · obtain ⟨write, -, rfl⟩ := List.mem_map.mp hevent
    exact .abandoned _
  · cases hevent

variable [Endpoint.OpenWhileSending ε]

/-- A flush makes the calls that its history tells of, one send each. -/
theorem calls_flush (site : Site (Tapped ε) ω) :
    Calls (flushEvents site) site ((flush : SiteAct (Tapped ε) ω Unit).after site) := by
  obtain ⟨left, history, served, htold, hcalls⟩ :=
    calls_drainTold site.channel.config.spinCount.toNat site.channel.config.maxWrites.toNat
      site.channel.pending site
  obtain ⟨left', history', served', htold', hdrain, -⟩ :=
    drainTold_spec site.channel.config.spinCount.toNat site.channel.config.maxWrites.toNat
      site.channel.pending site
  cases htold.symm.trans htold'
  have hevents : flushEvents site = history := by
    unfold flushEvents
    dsimp only
    rw [Act.result_of_ok htold]
  -- After the queue, only the interest in writing is told.
  have hrest : sendsOf ((flush : SiteAct (Tapped ε) ω Unit).after site) = sendsOf served := by
    unfold flush
    rw [Act.after_bind_of_ok (run_current site), Act.after_bind_of_ok hdrain,
      Act.after_bind_of_ok (run_change ..)]
    exact quiet_nativeOnly (within_setWriteInterest _) _
  obtain ⟨calls, htraced, hsends⟩ := hcalls
  exact ⟨calls, hevents ▸ htraced, hrest.trans hsends⟩

/-- One operation asks of the endpoint what its events tell. -/
theorem calls_run (op : QueueOp) (site : Site (Tapped ε) ω) :
    Calls (op.events site) site (op.run.after site) := by
  cases op with
  | write message =>
    rw [QueueOp.run, Act.after_bind_pure]
    exact calls_write message site
  | writeAndFlush message =>
    obtain ⟨written, hrun, -⟩ := run_write message site
    have hwrite := calls_write message site
    rw [QueueOp.run, Act.after_bind_pure, writeAndFlush, Act.after_bind_of_ok hrun,
      Act.after_bind_pure, QueueOp.events]
    rw [Act.after_of_ok hrun] at hwrite ⊢
    exact hwrite.trans (calls_flush written)
  | flush => exact calls_flush site
  | close => exact calls_leave quiet_close site
  | drop => exact calls_leave quiet_drop site

/-- **Nothing is asked beside the attempts.** The sends that a tapped endpoint keeps are the calls
of the history. -/
theorem calls_runAll (ops : List QueueOp) (site : Site (Tapped ε) ω) :
    Calls (historyOf ops site) site (runAll ops site) := by
  induction ops generalizing site with
  | nil => exact .of_silent (fun _ hevent => absurd hevent List.not_mem_nil) rfl
  | cons op ops ih => exact (calls_run op site).trans (ih _)

/-- **A flush sends each message at most as often as it may be attempted**, whatever was done
before: what it asks of the endpoint are the calls of its attempts, and none is asked beside them.
-/
theorem calls_flush_limited (ops : List QueueOp) (site : Site (Tapped ε) ω)
    (hfresh : site.channel.pending = []) :
    let reached := runAll ops site
    ∃ calls, Traced (flushEvents reached) calls ∧
      sendsOf ((flush : SiteAct (Tapped ε) ω Unit).after reached) =
        sendsOf reached ++ calls.map Call.exchange ∧
      ∀ ticket, (calls.map Call.ticket).count ticket ≤
        reached.channel.config.spinCount.toNat := by
  intro reached
  obtain ⟨calls, htraced, hsends⟩ := calls_flush reached
  have haccounted := (advances_runAll ops site fun _ => hfresh).accounted hfresh
  have hlimits := (flush_limits reached haccounted.nodup_pending).2
  exact ⟨calls, htraced, hsends, fun ticket =>
    (htraced.sublist_triedIn.count_le ticket).trans (hlimits ticket)⟩

end Queue

end Channel

end UdpTransport
