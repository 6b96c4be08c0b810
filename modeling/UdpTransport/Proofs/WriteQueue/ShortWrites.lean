import UdpTransport.Proofs.Outbound.Remainder
import UdpTransport.Proofs.WriteQueue.Pursuits

/-!
# Short writes

An endpoint may take a part of what it is offered, or nothing. How far a message has come is kept in
its payload alone, across attempts and flushes. **The main result is `conveyed_runAll`**: whatever
is done with the write queue and whatever the endpoint answers, the calls that are made for one
message go on where the calls before stopped, so that no byte is left out and none is offered again
once it was taken.

What holds of the calls for one message is a matter of that message and the answers alone
(`Pursued.metered` for a payload in one stretch of memory, `Pursued.repeated` for several).
-/

namespace UdpTransport.Channel

/-! ## One stretch of memory -/

namespace Call

/-- How many bytes the endpoint took. -/
def amount (call : Call) : Nat :=
  match call.answer with
  | .ok amount => amount.toNat
  | .error _ => 0

/-- The message without what the endpoint took. -/
def rest (call : Call) : Message :=
  call.message.withContent (call.message.content.takeFrom call.amount)

end Call

/-- How many bytes were taken at some calls together. -/
def amounts (calls : List Call) : Nat := (calls.map Call.amount).sum

@[simp] theorem amounts_cons (call : Call) (calls : List Call) :
    amounts (call :: calls) = call.amount + amounts calls := List.sum_cons

/-- A call for a message after a number of its bytes was taken. -/
structure Continues (message : Message) (access : Access) (before : Nat) (call : Call) : Prop where
  /-- All other bytes are offered, to the same destination. -/
  request : call.request =
    { payload := .single access (message.content.toBytes.drop before)
      recipient := message.recipient
      segmentSize := message.segmentSize }
  unread : call.message.content.readable = message.content.readable - before
  unfinished : before < message.content.readable
  /-- What is taken is gone, and the message is done with iff that was the last of it. -/
  left : ∃ left : Message, left.content.readable = call.message.content.readable - call.amount ∧
    call.verdict =
      if before + call.amount = message.content.readable then .sent left else .waiting left

/-- The calls for a message in one stretch of memory. -/
structure Metered (message : Message) (access : Access) (calls : List Call) (verdict : Attempt) :
    Prop where
  continues : ∀ {first later : List Call} {call : Call}, calls = first ++ call :: later →
    Continues message access (amounts first) call
  within : amounts calls ≤ message.content.readable
  /-- In the end the message is sent, or waits with what was not taken of it. -/
  ends : ∃ left : Message, left.content.toBytes = message.content.toBytes.drop (amounts calls) ∧
    left.recipient = message.recipient ∧ left.segmentSize = message.segmentSize ∧
    verdict = if amounts calls = message.content.readable then .sent left else .waiting left

section Single

variable {call : Call} {c : Component} {access : Access} {calls : List Call} {verdict : Attempt}
  {message : Message}

theorem readable_pos_of_single (h : message.content.readableComponents = [c]) :
    0 < message.content.readable := by
  have hmem : c ∈ message.content.readableComponents := h ▸ List.mem_singleton_self c
  have hbytes := Component.isReadable_iff.mp (List.mem_filter.mp hmem).2
  rw [← Buffer.length_toBytes, Buffer.toBytes_of_single h]
  exact List.length_pos_iff.mpr hbytes

variable (h : requestOf call.message = .ok (some call.request))
  (hsingle : call.message.content.readableComponents = [c]) (hsize : c.readable ≤ maxInt32)

theorem ne_empty_of_single (h : message.content.readableComponents = [c]) : message ≠ .empty := by
  rintro rfl
  cases h

include hsingle

theorem content_rest : call.rest.content = call.message.content.takeFrom call.amount :=
  Message.content_withContent _ _ (ne_empty_of_single hsingle)

theorem readable_rest :
    call.rest.content.readable = call.message.content.readable - call.amount := by
  rw [content_rest hsingle, Buffer.readable_takeFrom hsingle]

theorem toBytes_rest :
    call.rest.content.toBytes = call.message.content.toBytes.drop call.amount := by
  rw [content_rest hsingle, Buffer.toBytes_takeFrom hsingle]

include h hsize

/-- **One call.** All that is left is offered, and what is taken of it is gone. -/
theorem continues_call (hrange : call.exchange.InRange) :
    Continues call.message (accessOf c) 0 call ∧ call.amount ≤ call.message.content.readable ∧
      call.verdict = if call.amount = call.message.content.readable then .sent call.rest
        else .waiting call.rest := by
  have hrequest := requestOf_single hsingle hsize
  rw [h] at hrequest
  have hrequest := Option.some.inj (Except.ok.inj hrequest)
  obtain ⟨amount, hanswer, hle, hoffered⟩ : ∃ amount, call.answer = .ok amount ∧ 0 ≤ amount ∧
    amount.toNat ≤ call.request.payload.toBytes.length := hrange.answer_eq
  have hamount : call.amount = amount.toNat := by
    unfold Call.amount
    rw [hanswer]
  -- The system takes no more than it was offered.
  have hwithin : amount.toNat ≤ call.message.content.readable := by
    rw [hrequest] at hoffered
    exact Nat.le_trans hoffered (Nat.le_of_eq (Buffer.length_toBytes _))
  have hverdict : call.verdict = if call.amount = call.message.content.readable
      then .sent call.rest else .waiting call.rest := by
    unfold Call.verdict Call.rest
    rw [hanswer, hamount]
    show Attempt.ofResult (verdictOf call.message amount) = _
    rw [verdictOf_single hsingle hle hwithin]
    split
    · rename_i hall
      rw [decide_eq_true hall]
      rfl
    · rename_i hnot
      rw [decide_eq_false hnot]
      rfl
  refine ⟨⟨hrequest, rfl, readable_pos_of_single hsingle, call.rest, readable_rest hsingle, ?_⟩,
    hamount ▸ hwithin, hverdict⟩
  rw [Nat.zero_add]
  exact hverdict

omit h hsize in
/-- A call that goes on with the rest of a message goes on with the message. -/
theorem Continues.of_rest (hwithin : call.amount ≤ call.message.content.readable) {before : Nat}
    {next : Call} (hnext : Continues call.rest access before next) :
    Continues call.message access (call.amount + before) next := by
  have hreadable := readable_rest hsingle
  have hunfinished := hnext.unfinished
  obtain ⟨left, hleft, hverdict⟩ := hnext.left
  rw [hreadable] at hunfinished hverdict
  constructor
  case request =>
    rw [hnext.request, toBytes_rest hsingle, List.drop_drop, Call.rest,
      Message.recipient_withContent, Message.segmentSize_withContent]
  case unread => rw [hnext.unread, hreadable, Nat.sub_sub]
  case unfinished => omega
  case left =>
    refine ⟨left, hleft, hverdict.trans (if_congr ?_ rfl rfl)⟩
    omega

/-- The calls that go on with the rest of a message, after the call that left it. -/
theorem Metered.of_rest (hrange : call.exchange.InRange)
    (hlater : Metered call.rest (accessOf c) calls verdict) :
    Metered call.message (accessOf c) (call :: calls) verdict := by
  obtain ⟨hfirst, hamount, -⟩ := continues_call h hsingle hsize hrange
  have hreadable := readable_rest hsingle
  have hwithin := hlater.within
  rw [hreadable] at hwithin
  constructor
  case continues =>
    -- The call in question is the first, or one of those for the rest.
    rintro (_ | ⟨head, first⟩) later next hcalls
    · cases hcalls
      exact hfirst
    · cases hcalls
      exact .of_rest hsingle hamount (hlater.continues rfl)
  case within =>
    rw [amounts_cons]
    omega
  case ends =>
    obtain ⟨left, hbytes, hrecipient, hsegments, hverdict⟩ := hlater.ends
    refine ⟨left, ?_, hrecipient.trans (Message.recipient_withContent ..),
      hsegments.trans (Message.segmentSize_withContent ..), hverdict.trans (if_congr ?_ rfl rfl)⟩
    · rw [hbytes, toBytes_rest hsingle, List.drop_drop, amounts_cons]
    · rw [hreadable, amounts_cons]
      omega

/-- A single call may be all. -/
theorem Metered.of_call (hrange : call.exchange.InRange) :
    Metered call.message (accessOf c) [call] call.verdict := by
  obtain ⟨hfirst, hamount, hverdict⟩ := continues_call h hsingle hsize hrange
  have htotal : amounts [call] = call.amount := Nat.add_zero _
  constructor
  case continues =>
    rintro (_ | ⟨head, first⟩) later next hcalls
    · cases hcalls
      exact hfirst
    · exact absurd hcalls (by simp)
  case within => exact htotal ▸ hamount
  case ends =>
    refine ⟨call.rest, ?_, Message.recipient_withContent .., Message.segmentSize_withContent .., ?_⟩
    · rw [toBytes_rest hsingle, htotal]
    · rw [htotal]
      exact hverdict

omit h hsize in
/-- What a call leaves is in one stretch as well, handed over in the same way. -/
theorem single_rest (hamount : call.amount < call.message.content.readable) :
    call.rest.content.readableComponents = [c.consume call.amount] := by
  have hreadable : call.message.content.readable = c.readable := by
    rw [← Buffer.length_toBytes, Buffer.toBytes_of_single hsingle, Component.length_readableBytes]
  have hleft : (c.consume call.amount).isReadable := by
    rw [Component.isReadable, Component.readable_consume, bne_iff_ne]
    omega
  rw [content_rest hsingle, Buffer.readableComponents_takeFrom hsingle,
    List.filter_cons_of_pos hleft, List.filter_nil]

end Single

/-- **No byte is lost, and none is sent twice.** -/
theorem Pursued.metered {message : Message} {calls : List Call} {verdict : Attempt} {c : Component}
    (hpursued : Pursued message calls verdict)
    (hsingle : message.content.readableComponents = [c]) (hsize : c.readable ≤ maxInt32)
    (hrange : ∀ call ∈ calls, call.exchange.InRange) :
    Metered message (accessOf c) calls verdict := by
  induction hpursued generalizing c with
  | untried message =>
    refine ⟨fun hcalls => ?_, Nat.zero_le _, message, rfl, rfl, rfl, ?_⟩
    · exact absurd hcalls (by simp)
    · exact (if_neg (Nat.ne_of_lt (readable_pos_of_single hsingle))).symm
  | silent hsilent =>
    -- There is something to send, and it can be sent.
    have hrequest := requestOf_single hsingle hsize
    cases hsilent with
    | nothing ticket h =>
      rw [h] at hrequest
      cases hrequest
    | unsendable ticket h =>
      rw [h] at hrequest
      cases hrequest
  | decided h _ => exact .of_call h hsingle hsize (hrange _ (List.mem_singleton_self _))
  | @again call left calls verdict h hleft later ih =>
    obtain ⟨hcall, hrest⟩ := List.forall_mem_cons.mp hrange
    obtain ⟨-, hamount, hverdict⟩ := continues_call h hsingle hsize hcall
    rw [hleft] at hverdict
    split at hverdict
    · cases hverdict
    · -- What is left is in one stretch as well, so that the later calls are metered from there.
      rename_i hmore
      cases hverdict
      have hsize' : (c.consume call.amount).readable ≤ maxInt32 := by
        rw [Component.readable_consume]
        omega
      have hnext : Metered call.rest (accessOf (c.consume call.amount)) calls verdict :=
        ih (single_rest hsingle (by omega)) hsize' hrest
      exact .of_rest h hsingle hsize hcall hnext

/-! ## Several stretches of memory -/

/-- The calls for a message in several stretches of memory: each offers the whole message. -/
structure Repeated (message : Message) (calls : List Call) : Prop where
  whole : ∀ call ∈ calls, call.message = message ∧ call.request.datagram =
    ⟨message.content.toBytes, message.recipient, message.segmentSize⟩
  gather : ∀ call ∈ calls, call.request.payload.isVectorized = true
  /-- If nothing is taken, nothing is lost. -/
  waits : ∀ call ∈ calls, call.answer = .ok 0 → call.verdict = .waiting message

section Several

variable {call : Call} (hseveral : 1 < call.message.content.readableComponents.length)

include hseveral

/-- What the endpoint takes of a gather is all of it, and the message stays what it is. -/
theorem verdict_of_several {amount : Int} (h : call.answer = .ok amount) :
    call.verdict = if 0 < amount then .sent call.message else .waiting call.message := by
  unfold Call.verdict
  rw [h]
  show Attempt.ofResult (verdictOf call.message amount) = _
  rw [verdictOf_several hseveral]
  split
  · rename_i hpos
    rw [decide_eq_true hpos]
    rfl
  · rename_i hnot
    rw [decide_eq_false hnot]
    rfl

theorem left_of_several {left : Message} (h : call.verdict = .waiting left) :
    left = call.message := by
  cases hanswer : call.answer with
  | error fault =>
    unfold Call.verdict at h
    rw [hanswer] at h
    cases h
  | ok amount =>
    rw [verdict_of_several hseveral hanswer] at h
    split at h
    · cases h
    · exact (Attempt.waiting.inj h).symm

/-- One call is one send of everything, whatever was answered before. -/
theorem repeated_call
    (hwords : ∀ c ∈ call.message.content.readableComponents, c.readable < UInt64.size)
    (h : requestOf call.message = .ok (some call.request)) : Repeated call.message [call] := by
  obtain ⟨hdatagram, hvectorized⟩ := datagram_of_several hseveral hwords h
  constructor
  case whole => simpa using hdatagram
  case gather => simpa using hvectorized
  case waits =>
    intro other hother hanswer
    cases List.mem_singleton.mp hother
    exact (verdict_of_several hseveral hanswer).trans (if_neg (Int.lt_irrefl 0))

end Several

theorem Repeated.append {message : Message} {calls later : List Call}
    (h : Repeated message calls) (hlater : Repeated message later) :
    Repeated message (calls ++ later) where
  whole := List.forall_mem_append.mpr ⟨h.whole, hlater.whole⟩
  gather := List.forall_mem_append.mpr ⟨h.gather, hlater.gather⟩
  waits := List.forall_mem_append.mpr ⟨h.waits, hlater.waits⟩

/-- **A gather is offered as a whole** until it is taken as a whole. -/
theorem Pursued.repeated {message : Message} {calls : List Call} {verdict : Attempt}
    (hpursued : Pursued message calls verdict)
    (hseveral : 1 < message.content.readableComponents.length)
    (hwords : ∀ c ∈ message.content.readableComponents, c.readable < UInt64.size) :
    Repeated message calls := by
  have hnone {message : Message} : Repeated message [] := ⟨by simp, by simp, by simp⟩
  induction hpursued with
  | untried message => exact hnone
  | silent => exact hnone
  | decided h _ => exact repeated_call hseveral hwords h
  | @again call left calls verdict h hleft _ ih =>
    -- What is left is the message itself.
    cases left_of_several hseveral hleft
    exact (repeated_call hseveral hwords h).append (ih hseveral hwords)

/-! ## All runs -/

variable {ε ω : Type}

/-- A channel whose endpoint is tapped. -/
def tap (site : Site ε ω) : Site (Tapped ε) ω :=
  { site with endpoint := { endpoint := site.endpoint } }

/-- What becomes of a message in one stretch of memory, by the calls made for it. -/
structure Conveyed (write : PendingWrite) (access : Access) (calls : List Call)
    (site reached : Site ε ω) : Prop where
  /-- Each call offers what the calls before it did not take. -/
  continues : ∀ {first later : List Call} {call : Call}, calls = first ++ call :: later →
    Continues write.message access (amounts first) call
  within : amounts calls ≤ write.message.content.readable
  /-- The promise is kept iff all was taken. -/
  done_iff : (write.ticket, .done) ∈ settledBetween site reached ↔
    amounts calls = write.message.content.readable
  /-- What was not taken waits, unless the channel was closed. -/
  waits : amounts calls < write.message.content.readable →
    (∃ left, ⟨left, write.ticket⟩ ∈ reached.channel.pending ∧
      left.content.toBytes = write.message.content.toBytes.drop (amounts calls) ∧
      left.recipient = write.message.recipient ∧ left.segmentSize = write.message.segmentSize) ∨
    (write.ticket, .failed (.violation .channelClosed)) ∈ settledBetween site reached

/-- The promise of a message that was left waiting is not kept. -/
theorem Concluded.not_done {ticket : Ticket} {history : List WriteEvent} {last : List PendingWrite}
    {left : Message} (h : Concluded ticket history last (.waiting left))
    (hnodup : ((settledIn history).map (·.1) ++ last.map (·.ticket)).Nodup) :
    (ticket, .done) ∉ settledIn history := by
  intro hdone
  -- A promise is settled once, and not while its message is in the queue.
  cases h with
  | settled houtcome => cases houtcome
  | queued hqueued =>
    exact List.disjoint_of_nodup_append hnodup (List.mem_map_of_mem hdone)
      (List.mem_map_of_mem hqueued)
  | abandoned _ habandoned =>
    have hfailed : (ticket, .failed (.violation .channelClosed)) ∈ settledIn history :=
      (mem_inOrder _).mpr ⟨_, habandoned, rfl⟩
    have hsame := List.inj_on_of_nodup_map (List.nodup_append.mp hnodup).1 hdone hfailed rfl
    cases hsame

/-- What the calls for a message come to is what becomes of its promise. -/
theorem Metered.conveyed {write : PendingWrite} {access : Access} {calls : List Call}
    {verdict : Attempt} {site reached : Site ε ω} {history : List WriteEvent}
    (hmetered : Metered write.message access calls verdict)
    (hconcluded : Concluded write.ticket history reached.channel.pending verdict)
    (hsettled : settledBetween site reached = settledIn history)
    (hnodup : ((settledIn history).map (·.1) ++ reached.channel.pending.map (·.ticket)).Nodup) :
    Conveyed write access calls site reached := by
  obtain ⟨left, hbytes, hrecipient, hsegments, hverdict⟩ := hmetered.ends
  refine ⟨hmetered.continues, hmetered.within, ?_, fun hmore => ?_⟩
  · rw [hsettled]
    -- A ticket is settled once, so a message that is not all out cannot have been told done.
    by_cases hall : amounts calls = write.message.content.readable
    · rw [hverdict, if_pos hall] at hconcluded
      cases hconcluded with
      | settled houtcome hmem =>
        cases houtcome
        exact iff_of_true hmem hall
    · rw [hverdict, if_neg hall] at hconcluded
      exact iff_of_false (hconcluded.not_done hnodup) hall
  · rw [hsettled]
    rw [hverdict, if_neg (Nat.ne_of_lt hmore)] at hconcluded
    cases hconcluded with
    | settled houtcome => cases houtcome
    | queued hqueued => exact .inl ⟨left, hqueued, hbytes, hrecipient, hsegments⟩
    | abandoned _ habandoned => exact .inr ((mem_inOrder _).mpr ⟨_, habandoned, rfl⟩)

/-- **No byte is lost or sent twice under short writes.** The sends that the endpoint of a channel
sees are the calls of its attempts. Those for a message in one stretch of memory go on where the
calls before stopped, whatever the endpoint takes, across attempts and flushes; the promise is kept
as soon as all was taken. A message in several stretches is offered as a whole each time. -/
theorem conveyed_runAll [Endpoint ε] [Endpoint.OpenWhileSending ε] (ops : List QueueOp)
    (site : Site ε ω) (hfresh : site.channel.pending = []) :
    (runAll ops (tap site)).mapEndpoint Tapped.endpoint = runAll ops site ∧
    ∃ calls, Traced (historyOf ops site) calls ∧
      (runAll ops (tap site)).endpoint.sends = calls.map Call.exchange ∧
      ∀ write, .queued write ∈ historyOf ops site →
        (∀ c, write.message.content.readableComponents = [c] → c.readable ≤ maxInt32 →
          (∀ call ∈ callsFor write.ticket calls, call.exchange.InRange) →
          Conveyed write (accessOf c) (callsFor write.ticket calls) site (runAll ops site)) ∧
        (1 < write.message.content.readableComponents.length →
          (∀ c ∈ write.message.content.readableComponents, c.readable < UInt64.size) →
          Repeated write.message (callsFor write.ticket calls)) := by
  have hhistory : historyOf ops (tap site) = historyOf ops site :=
    (historyOf_mapEndpoint Tapped.alike ops (tap site)).symm
  obtain ⟨calls, htraced, hsends⟩ := calls_runAll ops (tap site)
  rw [hhistory] at htraced
  have hadvances := advances_runAll ops site fun _ => hfresh
  have hreplay : Replay [] (historyOf ops site) (runAll ops site).channel.pending :=
    hfresh ▸ hadvances.replay
  have hissued := hadvances.pairwise_issuedIn.imp Nat.ne_of_lt
  refine ⟨(runAll_mapEndpoint Tapped.alike ops (tap site)).symm, calls, htraced, hsends,
    fun write hwrite => ?_⟩
  -- A ticket is given out once, so the calls made for it are those of this write.
  obtain ⟨verdict, hpursued, hconcluded⟩ := hreplay.pursued htraced
    (hissued.sublist (queuedIn_sublist_issuedIn _)) (.inr hwrite)
  refine ⟨fun c hsingle hsize hrange => ?_, fun hseveral hwords => ?_⟩
  · exact (hpursued.metered hsingle hsize hrange).conveyed hconcluded hadvances.settledBetween_eq
      (hreplay.nodup_settled hissued)
  · exact hpursued.repeated hseveral hwords

/-- Three bytes go out in three sends and two flushes, one of which takes nothing. -/
theorem conveyed_three_bytes :
    let message : Message :=
      .buffer (.ofComponents [{ Component.borrow 0 [1, 2, 3] with kind := .direct }])
    let site : Site MemoryEndpoint Unit :=
      { channel := { name := "a", config := { allocator := 0, policy := 0, spinCount := 2 } }
        endpoint := { channel := "a", results := [.taken 1, .taken 0, .taken 2] }
        host := {}
        outside := () }
    let ops := [.writeAndFlush message, .flush]
    site.channel.pending = [] ∧
      ((runAll ops (tap site)).endpoint.sends.map fun exchange => exchange.request.payload) =
        [.single .address [1, 2, 3], .single .address [2, 3], .single .address [2, 3]] ∧
      ∃ calls, (runAll ops (tap site)).endpoint.sends = calls.map Call.exchange ∧
        Conveyed ⟨message, 0⟩ .address calls site (runAll ops site) ∧
        (0, .done) ∈ settledBetween site (runAll ops site) := by
  intro message site ops
  obtain ⟨-, calls, htraced, hsends, hconveyed⟩ := conveyed_runAll ops site rfl
  have hqueued : .queued ⟨message, 0⟩ ∈ historyOf ops site := List.mem_cons_self
  have hown : callsFor 0 calls = calls := callsFor_own fun call hcall => by
    have htried : triedIn (historyOf ops site) = [0, 0, 0] := rfl
    have hticket := htried ▸ htraced.mem_triedIn hcall
    simpa using hticket
  have hrange : ∀ call ∈ calls, call.exchange.InRange := by
    intro call hcall
    have hall : ∀ exchange ∈ (runAll ops (tap site)).endpoint.sends, exchange.InRange := by decide
    exact hall call.exchange (hsends ▸ List.mem_map_of_mem hcall)
  obtain ⟨hsingle, -⟩ := hconveyed _ hqueued
  refine ⟨rfl, by decide, calls, hsends, ?_, by decide⟩
  rw [← hown]
  exact hsingle _ rfl (by decide) (hown.symm ▸ hrange)

end UdpTransport.Channel
