import UdpTransport.Proofs.Interest.Bursts

/-!
# Interest along a run

`InterestOp` lists what the user of an attached channel does that has to do with its interest. The
main result, `inTune_runAll`, is that a channel that is in tune is in tune after any number of such
operations, bursts with misbehaving handlers among them.

A handler can also ask for the next burst while reading does not go on by itself. Such a request
outlasts the burst it is made in (`asked_readReady`): with the channel's own receive handle, the
burst hands on no further packet that could use it up.
-/

namespace UdpTransport.Channel

variable {ε ω α : Type} [Endpoint ε]

/-! ## Requests that outlast a burst -/

/-- Reading does not go on by itself, and a burst was asked for. -/
def Asked (site : Site ε ω) : Prop :=
  site.channel.config.autoRead = false ∧ site.channel.readPending = true

/-- Once it is noted in the world around the channel that a burst was asked for, the request
stands. -/
def Stands (noted : ω → Prop) (site : Site ε ω) : Prop := noted site.outside → Asked site

/-- What requests and notes of them are read off. -/
def request (site : Site ε ω) : ω × Bool × Bool :=
  (site.outside, site.channel.config.autoRead, site.channel.readPending)

omit [Endpoint ε] in
theorem stands_of_request {noted : ω → Prop} {act : SiteAct ε ω α}
    (h : Act.Within (Act.Fixing request) act) :
    Act.Within (Act.Keeping (Stands noted)) act := by
  intro site hstands hnoted
  have hrequest := h site
  simp only [Act.Fixing, request, Prod.mk.injEq] at hrequest
  obtain ⟨houtside, hauto, hpending⟩ := hrequest
  rw [houtside] at hnoted
  obtain ⟨hoff, hon⟩ := hstands hnoted
  exact ⟨hauto.trans hoff, hpending.trans hon⟩

omit [Endpoint ε] in
theorem within_request_native (act : NativeAct ε α) :
    Act.Within (Act.Fixing request) (liftM act : SiteAct ε ω α) := by
  intro site
  rw [Act.Fixing, after_lift_native]
  rfl

theorem unnoticed_request :
    Unnoticed (Act.Fixing request : Site ε ω → Site ε ω → Prop) .own where
  native _ := within_request_native _
  memory act := by
    refine (within_lift_ledger act).mono ?_
    rintro site _ ⟨ledger, fallback, rfl⟩
    rfl
  handle f := by
    refine Act.within_bind (Act.within_of_after fun _ => rfl) fun handle => ?_
    exact Act.within_modify fun _ => rfl
  addresses _ _ _ := rfl

theorem unnoticed_stands (noted : ω → Prop) :
    Unnoticed (Act.Keeping (Stands noted) : Site ε ω → Site ε ω → Prop) .own where
  native h := stands_of_request (unnoticed_request.native h)
  memory act := stands_of_request (unnoticed_request.memory act)
  handle f := stands_of_request (unnoticed_request.handle f)
  addresses _ _ _ := id

omit [Endpoint ε] in
theorem within_request_setReadInterest (wanted : Bool) :
    Act.Within (Act.Fixing request) (setReadInterest wanted : SiteAct ε ω Unit) :=
  within_setReadInterest_of fun _ _ => within_request_native _

theorem stands_read (noted : ω → Prop) :
    Act.Within (Act.Keeping (Stands noted)) (read : SiteAct ε ω Unit) := by
  refine within_read_of ?_ (stands_of_request (within_request_setReadInterest true))
  exact Act.within_modify fun site hstands hnoted => ⟨(hstands hnoted).1, rfl⟩

/-- A burst on the channel's own account goes on only if reading does so by itself. -/
theorem autoRead_of_goesOn {site site' : Site ε ω}
    (h : (goesOn .own : SiteAct ε ω Bool).run site = .ok true site') :
    site' = site ∧ site.channel.config.autoRead = true := by
  unfold goesOn at h
  rw [Act.bind_of_ok (run_isOpen site)] at h
  cases hopen : Endpoint.isOpen site.endpoint with
  | false =>
    rw [hopen] at h
    cases h
  | true =>
    rw [hopen, if_pos rfl] at h
    injection h with hgoes hsite
    refine ⟨hsite.symm, ?_⟩
    simp only [ReceiveHandle.continues, Bool.and_eq_true] at hgoes
    exact hgoes.1.1.1

section Outlasting

variable [Endpoint.Aloof ε] {handler : Handler ε ω} {noted : ω → Prop}

/-- Nothing is noted before a packet is handed on, and if a request stands after it then the loop is
over. -/
theorem stands_handOn
    (hhandler : ∀ callback, Act.Within (Act.Keeping (Stands noted)) (handler callback))
    (packet : Packet) {site : Site ε ω} (hbefore : ¬ noted site.outside) :
    Stands noted ((handOn handler .own packet).after site) ∧
      ∀ site', (handOn handler .own packet).run site = .ok true site' →
        ¬ noted site'.outside := by
  have htell : Act.Within (Act.Keeping (Stands noted)) (tell handler (.packet packet)) :=
    within_tell (unnoticed_stands noted).unseen _ (hhandler _)
  obtain ⟨_, counted, hcount⟩ := succeeds_changeHandle .own (·.count 1) site
  have houtside : counted.outside = site.outside := by
    have hfixed := unnoticed_request.handle (·.count 1) site
    rw [Act.after_of_ok hcount] at hfixed
    exact congrArg Prod.fst hfixed
  have hrun : (handOn handler .own packet).run site =
      (tell handler (.packet packet) >>= fun _ => goesOn .own).run (counted.withChannel
        { counted.channel with
          readPending := false, burstPackets := counted.channel.burstPackets + 1 }) := by
    unfold handOn
    rw [Act.bind_of_ok hcount, Act.bind_of_ok (run_change ..)]
  -- The pending read is cleared before the handler is called, so a read it asks for stands
  -- afterwards.
  have hstands : Stands noted (counted.withChannel
      { counted.channel with
        readPending := false, burstPackets := counted.channel.burstPackets + 1 }) :=
    fun hnoted => absurd (houtside ▸ hnoted) hbefore
  have htold := htell _ hstands
  rw [Act.after_congr hrun]
  constructor
  · refine Act.within_bind htell (fun _ => ?_) _ hstands
    exact Act.within_of_after fun site => by
      obtain ⟨on, hgoes, _⟩ := run_goesOn .own site
      exact Act.after_of_ok hgoes
  · intro site' hgoes hnoted
    rw [hrun] at hgoes
    obtain ⟨_, told, hfirst, hlater⟩ := Act.bind_ok_iff.mp hgoes
    obtain ⟨rfl, hauto⟩ := autoRead_of_goesOn hlater
    rw [Act.after_of_ok hfirst] at htold
    exact absurd (hauto.symm.trans (htold hnoted).1) Bool.noConfusion

/-- The loop ends with the packet that a request is made at. -/
theorem stands_readAll
    (hhandler : ∀ callback, Act.Within (Act.Keeping (Stands noted)) (handler callback))
    (allocator : AllocatorId) (connected : Bool) (bound : Nat) {site : Site ε ω}
    (hbefore : ¬ noted site.outside) :
    Stands noted ((readAll handler .own allocator connected bound).after site) := by
  -- What is noted is noted by a handler. While none was called nothing is, and after the first call
  -- that noted something the loop does not go on.
  induction bound generalizing site with
  | zero => exact fun hnoted => absurd hnoted hbefore
  | succ bound ih =>
    have hfetch := within_fetch unnoticed_request.unseen allocator connected site
    cases hfetched : (fetch .own allocator connected : SiteAct ε ω (Option Packet)).run site with
    | error fault fetched =>
      rw [Act.after_of_error hfetched] at hfetch
      have hone : (readOne handler .own allocator connected).run site = .error fault fetched :=
        Act.bind_of_error hfetched
      unfold readAll
      rw [Act.after_of_error (Act.bind_of_error hone)]
      intro hnoted
      rw [show fetched.outside = site.outside from congrArg Prod.fst hfetch] at hnoted
      exact absurd hnoted hbefore
    | ok packet? fetched =>
      rw [Act.after_of_ok hfetched] at hfetch
      have hquiet : ¬ noted fetched.outside := by
        rw [show fetched.outside = site.outside from congrArg Prod.fst hfetch]
        exact hbefore
      cases packet? with
      | none =>
        have hone : (readOne handler .own allocator connected).run site = .ok false fetched :=
          (Act.bind_of_ok hfetched).trans rfl
        unfold readAll
        rw [Act.after_bind_of_ok hone]
        exact fun hnoted => absurd hnoted hquiet
      | some packet =>
        obtain ⟨hstands, hgoes⟩ := stands_handOn hhandler packet hquiet
        have hone : (readOne handler .own allocator connected).run site =
            (handOn handler .own packet).run fetched := Act.bind_of_ok hfetched
        unfold readAll
        cases hhanded : (handOn handler .own packet).run fetched with
        | error fault handed =>
          rw [Act.after_of_error hhanded] at hstands
          rw [Act.after_of_error (Act.bind_of_error (hone.trans hhanded))]
          exact hstands
        | ok on handed =>
          rw [Act.after_of_ok hhanded] at hstands
          rw [Act.after_bind_of_ok (hone.trans hhanded)]
          cases on with
          | false => exact hstands
          | true => exact ih (hgoes handed hhanded)

/-- **A request outlasts its burst.** If the handler makes a note only of requests that stand, then
a request that it made at any callback still stands when the burst is over. -/
theorem asked_readReady
    (hhandler : ∀ callback, Act.Within (Act.Keeping (Stands noted)) (handler callback))
    {site : Site ε ω} (hbefore : ¬ noted site.outside) :
    Stands noted ((readReady handler : SiteAct ε ω Unit).after site) := by
  have hunseen : Unseen (Act.Keeping (Stands noted) : Site ε ω → Site ε ω → Prop) .own :=
    (unnoticed_stands noted).unseen
  have hwithdraw : Act.Within (Act.Keeping (Stands noted))
      (setReadInterest false : SiteAct ε ω Unit) :=
    stands_of_request (within_request_setReadInterest false)
  have hsettle : Act.Within (Act.Keeping (Stands noted)) (settleInterest : SiteAct ε ω Unit) :=
    within_settling hunseen.log hwithdraw
  unfold readReady
  rw [Act.after_bind_of_ok (run_prepareHandle site)]
  generalize hprepared : site.withChannel { site.channel with handle := some (ownHandle site) } =
    prepared
  have hquiet : ¬ noted prepared.outside := hprepared ▸ hbefore
  have hhandle : prepared.channel.handle = some (ownHandle site) := hprepared ▸ rfl
  obtain ⟨held, hheld⟩ := run_holdsBack_self prepared
  unfold readReadyWith
  rw [Act.after_bind_of_ok hheld]
  cases held with
  | true => exact hwithdraw prepared fun hnoted => absurd hnoted hquiet
  | false =>
    rw [if_neg Bool.false_ne_true, Act.after_bind_of_ok (run_current prepared),
      Act.after_bind_of_ok (run_beginBurst hhandle), Act.after_ensuring]
    -- The burst begins without a note, so all that counts is what is noted in the course of it.
    refine hsettle _ ?_
    obtain ⟨bound, hburst⟩ := after_burst handler .own prepared.channel.config.allocator
      (prepared.withChannel
        { prepared.channel with
          handle := some ((ownHandle site).reset (policy prepared.host (ownHandle site).policy))
          burstPackets := 0 })
    rw [hburst]
    refine within_concluding hunseen (stands_read noted) (fun callback => ?_) _ _
      (stands_readAll hhandler _ _ bound hquiet)
    exact within_tell hunseen _ (hhandler callback)

end Outlasting

/-! ## Operations -/

/-- What the user of an attached channel does that has to do with its interest. -/
inductive InterestOp (ε ω : Type) where
  | read
  | setAutoRead (on : Bool)
  | write (message : Message)
  | flush
  | writeAndFlush (message : Message)
  | readReady (handler : Handler ε ω)
  /-- A burst with a receive handle that does not belong to the channel. -/
  | readReadyWith (handler : Handler ε ω) (handle : LentHandle ω)

namespace InterestOp

/-- Performs an operation. -/
def run : InterestOp ε ω → SiteAct ε ω Unit
  | read => Channel.read
  | setAutoRead on => Channel.setAutoRead on
  | write message => do
    let _ ← Channel.write message
  | flush => Channel.flush
  | writeAndFlush message => do
    let _ ← Channel.writeAndFlush message
  | readReady handler => Channel.readReady handler
  | readReadyWith handler handle => Channel.readReadyWith handler (.lent handle)

/-- The handler of a burst keeps to what is permitted. -/
def Mannered : InterestOp ε ω → Prop
  | readReady handler | readReadyWith handler _ => ∀ callback, Permitted (handler callback)
  | _ => True

/-- Whether an operation ends with a flush. -/
def flushes : InterestOp ε ω → Bool
  | flush | writeAndFlush _ => true
  | _ => false

end InterestOp

/-- Performs operations one after the other; what one fails with stops none of the others. -/
def runOps : List (InterestOp ε ω) → Site ε ω → Site ε ω
  | [], site => site
  | op :: ops, site => runOps ops (op.run.after site)

variable [Endpoint.Aloof ε] {registration : Registration}

theorem InterestOp.tuned {asked settled : Prop} {op : InterestOp ε ω}
    (hmannered : op.Mannered) :
    Act.Within (Act.Keeping (Tuned registration asked settled)) op.run := by
  cases op with
  | read => exact tuned_read
  | setAutoRead on => exact tuned_setAutoRead on
  | write message => exact Act.within_bind (tuned_write message) fun _ => Act.within_pure ()
  | flush => exact fun site h => (tuned_flush h).1
  | writeAndFlush message =>
    refine Act.within_bind ?_ fun _ => Act.within_pure ()
    refine Act.within_bind (tuned_write message) fun ticket => ?_
    exact Act.within_bind (fun site h => (tuned_flush h).1) fun _ => Act.within_pure ticket
  | readReady handler => exact tuned_readReady hmannered
  | readReadyWith handler handle => exact tuned_readReadyWith hmannered (.lent handle)

theorem tuned_runOps {ops : List (InterestOp ε ω)} (hmannered : ∀ op ∈ ops, op.Mannered)
    {site : Site ε ω} (h : Tuned registration True True site) :
    Tuned registration True True (runOps ops site) := by
  induction ops generalizing site with
  | nil => exact h
  | cons op ops ih =>
    have hop := InterestOp.tuned (hmannered op List.mem_cons_self) site h
    exact ih (fun other hmem => hmannered other (List.mem_cons_of_mem _ hmem)) hop

/-- Where an operation ends with a flush, the interest in writing tells how the queue stands. -/
theorem InterestOp.waits_writing {op : InterestOp ε ω} (hflushes : op.flushes = true)
    {site : Site ε ω} (h : Tuned registration True True site) :
    (stance (op.run.after site)).waits registration .writing = true ↔
      (op.run.after site).channel.pending ≠ [] := by
  cases op with
  | flush => exact (tuned_flush h).2
  | writeAndFlush message =>
    obtain ⟨written, hrun, _⟩ := run_write message site
    have hwritten := tuned_write message site h
    rw [Act.after_of_ok hrun] at hwritten
    have hafter : (InterestOp.writeAndFlush message).run.after site =
        (Channel.flush : SiteAct ε ω Unit).after written := by
      show ((Channel.writeAndFlush message : SiteAct ε ω Ticket) >>= fun _ => pure ()).after
        site = _
      rw [Act.after_bind_pure]
      unfold Channel.writeAndFlush
      rw [Act.after_bind_of_ok hrun]
      exact Act.after_bind_pure _ _ _
    rw [hafter]
    exact (tuned_flush hwritten).2
  | read => cases hflushes
  | setAutoRead on => cases hflushes
  | write message => cases hflushes
  | readReady handler => cases hflushes
  | readReadyWith handler handle => cases hflushes

/-- **Interest follows the channel.** Let a channel be in tune with its registration, and let any
operations be done to it, the last of them `last`. Whether or not they fail, reading is waited for
exactly if it goes on by itself or was asked for, and writing only if messages are queued. So a
channel that reads by itself is never left without interest in reading; after a flush, writing is
waited for exactly if messages are left; and a request to read that a handler made in the last
burst, while reading did not go on by itself, still stands and is waited for. -/
theorem inTune_runAll {ops : List (InterestOp ε ω)} {last : InterestOp ε ω}
    (hmannered : ∀ op ∈ ops, op.Mannered) (hlast : last.Mannered) {site : Site ε ω}
    (h : Tuned registration True True site) :
    let before := runOps ops site
    let reached := last.run.after before
    Tuned registration True True reached ∧
      ((stance reached).waits registration .reading = true ↔
        reached.channel.config.autoRead = true ∨ reached.channel.readPending = true) ∧
      ((stance reached).waits registration .writing = true → reached.channel.pending ≠ []) ∧
      (last.flushes = true →
        ((stance reached).waits registration .writing = true ↔ reached.channel.pending ≠ [])) ∧
      ∀ handler, last = .readReady handler → ∀ noted : ω → Prop, ¬ noted before.outside →
        (∀ callback, Act.Within (Act.Keeping (Stands noted)) (handler callback)) →
        noted reached.outside →
          Asked reached ∧ (stance reached).waits registration .reading = true := by
  intro before reached
  have hbefore : Tuned registration True True before := tuned_runOps hmannered h
  have hreached : Tuned registration True True reached := InterestOp.tuned hlast before hbefore
  refine ⟨hreached, hreached.reading_iff, hreached.writing, fun hflushes => ?_, ?_⟩
  · exact InterestOp.waits_writing hflushes hbefore
  · rintro handler rfl noted hquiet hkeeps hnoted
    have hasked : Asked reached := asked_readReady hkeeps hquiet hnoted
    exact ⟨hasked, hreached.asked trivial hasked.2⟩

/-- A handler that asks for the next burst at every packet, makes a note if the request stands, and
then fails. -/
def insisting : Handler ε Bool := fun callback =>
  match callback with
  | .packet _ => do
    read
    modify fun site =>
      { site with
        outside := site.outside || (!site.channel.config.autoRead && site.channel.readPending) }
    throw .brokenPromise
  | _ => pure ()

omit [Endpoint.Aloof ε] in
theorem permitted_insisting (callback : Callback) :
    Permitted (insisting callback : SiteAct ε Bool Unit) := by
  cases callback with
  | packet packet =>
    refine .bind .read fun _ => .bind (.aside (Act.within_modify fun _ => rfl)) fun _ => ?_
    exact .aside (Act.within_throw _)
  | readComplete => exact .aside (Act.within_pure ())
  | failure fault => exact .aside (Act.within_pure ())

omit [Endpoint.Aloof ε] in
theorem stands_insisting (callback : Callback) :
    Act.Within (Act.Keeping (Stands (· = true))) (insisting callback : SiteAct ε Bool Unit) := by
  cases callback with
  | packet packet =>
    refine Act.within_bind (stands_read _) fun _ => ?_
    refine Act.within_bind (Act.within_modify fun site hstands hnoted => ?_) fun _ =>
      Act.within_throw _
    simp only [Bool.or_eq_true, Bool.and_eq_true, Bool.not_eq_true'] at hnoted
    exact hnoted.elim hstands id
  | readComplete => exact Act.within_pure ()
  | failure fault => exact Act.within_pure ()

/-- A channel that does not read by itself, but was asked to, writes a message that its peer does
not take. In the burst that follows, the handler asks for the next one and fails. -/
theorem inTune_insisting :
    let message : Message :=
      .buffer (.ofComponents [{ Component.borrow 0 [1, 2] with kind := .direct }])
    let site : Site MemoryEndpoint Bool :=
      { channel :=
          { name := "a", config := { allocator := 0, policy := 0, autoRead := false }
            registration := some .observer, readPending := true }
        endpoint :=
          { channel := "a", accept := 0, inbound := [.datagram [7] .unspecified none none] }
        host :=
          { native := { journal := #[.readInterest "a" true] }
            ledger := ⟨[{ kind := .direct }]⟩ }
        outside := false }
    let before := runOps [.writeAndFlush message] site
    let reached := (InterestOp.readReady insisting).run.after before
    Tuned .observer True True site ∧ before.outside = false ∧ reached.outside = true ∧
      Asked reached ∧ (stance reached).waits .observer .reading = true ∧
      (stance reached).waits .observer .writing = true ∧
      reached.channel.pending.isEmpty = false := by
  intro message site before reached
  have hsite : Tuned .observer True True site := by
    refine ⟨⟨rfl, rfl, rfl, trivial, ?_⟩, by decide, by decide, by decide, by decide⟩
    intro answer hmem
    cases hmem
  have hops : ∀ op ∈ ([.writeAndFlush message] : List (InterestOp MemoryEndpoint Bool)),
      op.Mannered := by
    intro op hmem
    rw [List.mem_singleton.mp hmem]
    trivial
  have hlast : (InterestOp.readReady insisting : InterestOp MemoryEndpoint Bool).Mannered :=
    permitted_insisting
  have hquiet : before.outside = false := by decide +kernel
  have hnoted : reached.outside = true := by decide +kernel
  -- The peer accepts nothing, so the message stays queued and the interest in writing stands too.
  have hwaits : (stance reached).waits .observer .writing = true := by decide +kernel
  have hleft : reached.channel.pending.isEmpty = false := by decide +kernel
  obtain ⟨_, _, _, _, hasked⟩ := inTune_runAll hops hlast hsite
  have hstill : ¬ before.outside = true := by
    rw [hquiet]
    decide
  obtain ⟨hstands, hreading⟩ := hasked insisting rfl (· = true) hstill stands_insisting hnoted
  exact ⟨hsite, hquiet, hnoted, hstands, hreading, hwaits, hleft⟩

end UdpTransport.Channel
