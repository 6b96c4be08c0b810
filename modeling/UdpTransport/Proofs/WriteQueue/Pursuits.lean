import UdpTransport.Proofs.WriteQueue.Tapping

/-!
# The calls for one message

A message may be tried many times before it leaves the queue, in several flushes and with other
things done between them. `Replay.pursued` tells the calls of a whole history apart by the messages
that they are made for: each call for a message is made with what the one before left of it, and
none is made once the message is decided (`Pursued`).
-/

namespace UdpTransport.Channel

/-- The calls made for one message. -/
def callsFor (ticket : Ticket) (calls : List Call) : List Call :=
  calls.filter (·.ticket = ticket)

/-- How the calls for one message go: each is made with what the one before left, and none is made
once the message is decided. -/
inductive Pursued : Message → List Call → Attempt → Prop where
  | untried (message : Message) : Pursued message [] (.waiting message)
  | silent {ticket : Ticket} {message : Message} {verdict : Attempt}
    (h : Silent (.tried ticket message verdict)) : Pursued message [] verdict
  | decided {call : Call} (h : requestOf call.message = .ok (some call.request))
    (hdecided : call.verdict.outcome?.isSome) : Pursued call.message [call] call.verdict
  | again {call : Call} {left : Message} {calls : List Call} {verdict : Attempt}
    (h : requestOf call.message = .ok (some call.request)) (hleft : call.verdict = .waiting left)
    (later : Pursued left calls verdict) : Pursued call.message (call :: calls) verdict

/-- What the verdict on a message comes to in a history and the queue at its end. -/
inductive Concluded (ticket : Ticket) (history : List WriteEvent) (last : List PendingWrite) :
    Attempt → Prop where
  | settled {verdict : Attempt} {outcome : Outcome} (h : verdict.outcome? = some outcome)
    (hsettled : (ticket, outcome) ∈ settledIn history) : Concluded ticket history last verdict
  | queued {left : Message} (h : ⟨left, ticket⟩ ∈ last) :
    Concluded ticket history last (.waiting left)
  | abandoned (left : Message) (h : .abandoned ticket ∈ history) :
    Concluded ticket history last (.waiting left)

section Calls

variable {ticket other : Ticket} {message : Message} {verdict : Attempt}
  {queue last : List PendingWrite} {history : List WriteEvent} {calls own later : List Call}

theorem Concluded.cons (h : Concluded ticket history last verdict) (event : WriteEvent) :
    Concluded ticket (event :: history) last verdict := by
  cases h with
  | settled houtcome hsettled =>
    refine .settled houtcome ?_
    rw [settledIn, inOrder_cons]
    exact List.mem_append_right _ hsettled
  | queued h => exact .queued h
  | abandoned left h => exact .abandoned left (List.mem_cons_of_mem _ h)

theorem callsFor_append (ticket : Ticket) (calls later : List Call) :
    callsFor ticket (calls ++ later) = callsFor ticket calls ++ callsFor ticket later :=
  List.filter_append ..

theorem callsFor_own (h : ∀ call ∈ own, call.ticket = ticket) : callsFor ticket own = own :=
  List.filter_eq_self.mpr fun call hmem => decide_eq_true (h call hmem)

theorem callsFor_other (h : ∀ call ∈ own, call.ticket = ticket) (hne : other ≠ ticket) :
    callsFor other own = [] :=
  List.filter_eq_nil_iff.mpr fun call hmem heq =>
    hne ((of_decide_eq_true heq).symm.trans (h call hmem))

/-- Calls are made for messages that are tried. -/
theorem Traced.mem_triedIn (h : Traced history calls) {call : Call} (hcall : call ∈ calls) :
    call.ticket ∈ triedIn history :=
  h.sublist_triedIn.mem (List.mem_map_of_mem hcall)

/-- No call is made for a message that is neither in the queue nor comes into it. -/
theorem callsFor_eq_nil (hreplay : Replay queue history last) (htraced : Traced history calls)
    (h : ticket ∉ queue.map (·.ticket) ++ queuedIn history) : callsFor ticket calls = [] := by
  refine List.filter_eq_nil_iff.mpr fun call hcall heq => h ?_
  rw [← of_decide_eq_true heq]
  exact hreplay.tried_mem (htraced.mem_triedIn hcall)

/-- What happens to no message makes no call. -/
theorem Traced.of_untried {event : WriteEvent} (h : Traced (event :: history) calls)
    (huntried : event.tried? = none) : Traced history calls := by
  cases h with
  | call => cases huntried
  | silent _ later => exact later

/-- An attempt makes the first calls, all for its message. If it decides the message, these are all;
if it leaves something, the message is pursued with what is left. -/
theorem Traced.of_tried (h : Traced (.tried ticket message verdict :: history) calls) :
    ∃ own later, calls = own ++ later ∧ Traced history later ∧
      (∀ call ∈ own, call.ticket = ticket) ∧
      (verdict.outcome?.isSome → Pursued message own verdict) ∧
      ∀ left, verdict = .waiting left → ∀ {tail last}, Pursued left tail last →
        Pursued message (own ++ tail) last := by
  generalize hevent : WriteEvent.tried ticket message verdict = event at h
  cases h with
  | @call call _ later hrequest hlater =>
    cases hevent
    refine ⟨[call], later, rfl, hlater, by simp, fun hdecided => .decided hrequest hdecided, ?_⟩
    exact fun left hleft tail last htail => .again hrequest hleft htail
  | silent hsilent hlater =>
    subst hevent
    refine ⟨[], calls, rfl, hlater, by simp, fun _ => .silent hsilent, ?_⟩
    rintro left rfl
    cases hsilent

/-- The others in the queue and those that come later are pursued as if the calls for the front had
not been made. -/
theorem pursued_behind {behind : List PendingWrite} {write : PendingWrite}
    (hwrite : write ∈ behind ∨ .queued write ∈ history)
    (hnodup : (ticket :: (behind.map (·.ticket) ++ queuedIn history)).Nodup)
    (htraced : Traced (.tried ticket message verdict :: history) calls)
    (hlater : ∀ {later}, Traced history later → ∃ verdict,
      Pursued write.message (callsFor write.ticket later) verdict ∧
        Concluded write.ticket history last verdict) :
    ∃ last', Pursued write.message (callsFor write.ticket calls) last' ∧
      Concluded write.ticket (.tried ticket message verdict :: history) last last' := by
  have hmem : write.ticket ∈ behind.map (·.ticket) ++ queuedIn history := by
    rcases hwrite with hmem | hqueued
    · exact List.mem_append_left _ (List.mem_map_of_mem hmem)
    · exact List.mem_append_right _ ((mem_inOrder _).mpr ⟨_, hqueued, rfl⟩)
  have hne : write.ticket ≠ ticket := fun heq => (List.nodup_cons.mp hnodup).1 (heq ▸ hmem)
  obtain ⟨own, later, rfl, htraced, hown, -⟩ := htraced.of_tried
  obtain ⟨last', hpursued, hconcluded⟩ := hlater htraced
  rw [callsFor_append, callsFor_other hown hne, List.nil_append]
  exact ⟨last', hpursued, hconcluded.cons _⟩

/-- A message that is decided by an attempt is not pursued any further. -/
theorem pursued_of_decided {behind : List PendingWrite} {outcome : Outcome}
    (htraced : Traced (.tried ticket message verdict :: history) calls)
    (hreplay : Replay behind history last)
    (hnodup : (ticket :: (behind.map (·.ticket) ++ queuedIn history)).Nodup)
    (houtcome : verdict.outcome? = some outcome) :
    Pursued message (callsFor ticket calls) verdict := by
  obtain ⟨own, later, rfl, hlater, hown, hdecided, -⟩ := htraced.of_tried
  rw [callsFor_append, callsFor_own hown,
    callsFor_eq_nil hreplay hlater (List.nodup_cons.mp hnodup).1,
    List.append_nil]
  exact hdecided (by rw [houtcome]; rfl)

/-- **Each message is pursued on its own.** The calls of a history, told apart by their messages, go
on where the calls before stopped. -/
theorem Replay.pursued (hreplay : Replay queue history last) (htraced : Traced history calls)
    (hnodup : (queue.map (·.ticket) ++ queuedIn history).Nodup) {write : PendingWrite}
    (hwrite : write ∈ queue ∨ .queued write ∈ history) :
    ∃ verdict, Pursued write.message (callsFor write.ticket calls) verdict ∧
      Concluded write.ticket history last verdict := by
  -- The induction follows the queue: each event is about its front, its end, or neither.
  induction hreplay generalizing calls write with
  | nil queue =>
    cases htraced
    exact ⟨_, .untried _, .queued (hwrite.resolve_right List.not_mem_nil)⟩
  | @cons queue middle last event rest hstep hrest ih =>
    cases hstep with
    | queued queue new =>
      have hlater : write ∈ queue ++ [new] ∨ .queued write ∈ rest := by
        rcases hwrite with hmem | hqueued
        · exact .inl (List.mem_append_left _ hmem)
        · rcases List.mem_cons.mp hqueued with heq | hqueued
          · cases heq
            exact .inl (List.mem_append_right _ (List.mem_singleton_self _))
          · exact .inr hqueued
      obtain ⟨verdict, hpursued, hconcluded⟩ :=
        ih (htraced.of_untried rfl) (by simpa using hnodup) hlater
      exact ⟨verdict, hpursued, hconcluded.cons _⟩
    | refused queue ticket fault =>
      have hlater : write ∈ queue ∨ .queued write ∈ rest := by simpa using hwrite
      obtain ⟨verdict, hpursued, hconcluded⟩ := ih (htraced.of_untried rfl) hnodup hlater
      exact ⟨verdict, hpursued, hconcluded.cons _⟩
    | abandoned ticket message behind =>
      have hlater := htraced.of_untried rfl
      obtain ⟨hfresh, hnodup⟩ := List.nodup_cons.mp hnodup
      rcases (by simpa [or_assoc] using hwrite :
        write = ⟨message, ticket⟩ ∨ write ∈ middle ∨ .queued write ∈ rest) with rfl | hwrite
      · refine ⟨.waiting message, ?_, .abandoned _ List.mem_cons_self⟩
        rw [callsFor_eq_nil hrest hlater hfresh]
        exact .untried message
      · obtain ⟨verdict, hpursued, hconcluded⟩ := ih hlater hnodup hwrite
        exact ⟨verdict, hpursued, hconcluded.cons _⟩
    | waiting ticket message left behind =>
      rcases (by simpa [or_assoc] using hwrite :
        write = ⟨message, ticket⟩ ∨ write ∈ behind ∨ .queued write ∈ rest) with rfl | hwrite
      · obtain ⟨own, later, rfl, hlater, hown, -, hagain⟩ := htraced.of_tried
        obtain ⟨verdict, hpursued, hconcluded⟩ := ih hlater hnodup (.inl List.mem_cons_self)
        refine ⟨verdict, ?_, hconcluded.cons _⟩
        rw [callsFor_append, callsFor_own hown]
        exact hagain left rfl hpursued
      · exact pursued_behind hwrite hnodup htraced fun hlater =>
          ih hlater hnodup (hwrite.imp_left (List.mem_cons_of_mem _))
    | sent ticket message left behind =>
      rcases (by simpa [or_assoc] using hwrite :
        write = ⟨message, ticket⟩ ∨ write ∈ middle ∨ .queued write ∈ rest) with rfl | hwrite
      · exact ⟨.sent left, pursued_of_decided htraced hrest hnodup rfl,
          .settled rfl List.mem_cons_self⟩
      · exact pursued_behind hwrite hnodup htraced fun hlater =>
          ih hlater (List.nodup_cons.mp hnodup).2 hwrite
    | failed ticket message fault behind =>
      rcases (by simpa [or_assoc] using hwrite :
        write = ⟨message, ticket⟩ ∨ write ∈ middle ∨ .queued write ∈ rest) with rfl | hwrite
      · exact ⟨.failed fault, pursued_of_decided htraced hrest hnodup rfl,
          .settled rfl List.mem_cons_self⟩
      · exact pursued_behind hwrite hnodup htraced fun hlater =>
          ih hlater (List.nodup_cons.mp hnodup).2 hwrite

end Calls

end UdpTransport.Channel
