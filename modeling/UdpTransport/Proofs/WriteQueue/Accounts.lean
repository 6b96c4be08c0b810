import UdpTransport.Proofs.WriteQueue.Operations

/-!
# The accounts of the write queue

A user writes, flushes, closes and drops in any order, the endpoint takes what it likes of each
send, and operations may fail. `runAll` is the state that this ends in and `historyOf` what happened
to the messages. **The main result is `accounted_runAll`**: in every state that can be reached

- each promise made is either settled, once, or belongs to a message that is still in the queue;
- messages are attempted and leave the queue in the order in which they were written;
- what a promise is settled with is what the last attempt with its message came to, or that the
  channel was closed;
- a flush stays within the limits that the channel is set to, and nothing waits any longer once the
  channel is closed or out of use.

What the history tells of attempts is what the endpoint is asked: an endpoint that keeps all sends
has kept those of the attempts, in order, and no others (`calls_runAll`), so the limit on attempts
in a flush is one on sends (`calls_flush_limited`).
-/

namespace UdpTransport.Channel

variable {ε ω : Type} [Endpoint ε]

/-- The site after some operations, those that fail included. -/
def runAll : List QueueOp → Site ε ω → Site ε ω
  | [], site => site
  | op :: ops, site => runAll ops (op.run.after site)

/-- What some operations do to messages. -/
def historyOf : List QueueOp → Site ε ω → List WriteEvent
  | [], _ => []
  | op :: ops, site => op.events site ++ historyOf ops (op.run.after site)

/-- A whole run is accounted for by its history. -/
theorem advances_runAll [Endpoint.OpenWhileSending ε] (ops : List QueueOp) (site : Site ε ω)
    (hidle : IdleWhenClosed site) :
    Advances (historyOf ops site) site (runAll ops site) := by
  induction ops generalizing site with
  | nil => exact .refl site
  | cons op ops ih =>
    have hstep := op.advances site hidle
    exact hstep.trans (ih _ (hstep.idle hidle))

/-- The promises made between two states. -/
def promisedBetween (site site' : Site ε ω) : List Ticket :=
  List.range' site.host.futures.issued (site'.host.futures.issued - site.host.futures.issued)

/-- What promises were settled with between two states, in order. -/
def settledBetween (site site' : Site ε ω) : List (Ticket × Outcome) :=
  site'.host.futures.settled.toList.drop site.host.futures.settled.size

/-- The books of a channel between a state in which nothing waits and a later one. -/
structure Accounted (history : List WriteEvent) (site site' : Site ε ω) : Prop where
  /-- Promises are made for the messages of the history, in the order of the writes. -/
  promised : issuedIn history = promisedBetween site site'
  /-- What was settled before stays. -/
  settled : site'.host.futures.settled.toList =
    site.host.futures.settled.toList ++ settledBetween site site'
  /-- No promise is settled twice. -/
  once : ((settledBetween site site').map (·.1)).Nodup
  /-- Only promises made are settled. -/
  made : ∀ entry ∈ settledBetween site site', entry.1 ∈ promisedBetween site site'
  /-- The open promises are those of the messages in the queue, in the order of the writes. -/
  unsettled : (promisedBetween site site').filter
    (· ∉ (settledBetween site site').map (·.1)) = site'.channel.pending.map (·.ticket)
  /-- What was queued has left the queue in this order, or is still there in this order. -/
  inOrder : queuedIn history = removedIn history ++ site'.channel.pending.map (·.ticket)
  /-- The promises of queued messages are settled in the order in which these leave. -/
  completed : ((settledBetween site site').map (·.1)).filter (· ∈ queuedIn history) =
    removedIn history
  /-- No message is tried after one that was written later. -/
  attempted : (triedIn history).Pairwise (· ≤ ·)
  /-- An attempt is made with the message at the front, as the attempts before left it. -/
  front : ∀ {first second : List WriteEvent} {ticket : Ticket} {message : Message}
    {verdict : Attempt}, history = first ++ .tried ticket message verdict :: second →
    ∃ behind, Replay [] first (⟨message, ticket⟩ :: behind)
  /-- A promise is kept iff an attempt sent its message. -/
  done_iff : ∀ ticket, (ticket, .done) ∈ settledBetween site site' ↔
    ∃ message left, .tried ticket message (.sent left) ∈ history
  /-- The promise of a queued message fails iff an attempt failed in this way, or the message was
  in the queue when the channel was closed. -/
  failed_iff : ∀ ticket ∈ queuedIn history, ∀ fault,
    (ticket, .failed fault) ∈ settledBetween site site' ↔
      (∃ message, .tried ticket message (.failed fault) ∈ history) ∨
        fault = .violation .channelClosed ∧ .abandoned ticket ∈ history

namespace Advances

variable {history : List WriteEvent} {site site' : Site ε ω}

theorem settledBetween_eq (h : Advances history site site') :
    settledBetween site site' = settledIn history := by
  unfold settledBetween
  rw [h.settled, List.drop_left' (Array.length_toList ..)]

theorem promisedBetween_eq (h : Advances history site site') :
    promisedBetween site site' = issuedIn history := by
  have hcount : site'.host.futures.issued - site.host.futures.issued =
      (issuedIn history).length := by
    have hissued := h.issued
    omega
  unfold promisedBetween
  rw [hcount, ← h.numbered]

/-- Promises are numbered upwards. -/
theorem pairwise_issuedIn (h : Advances history site site') :
    (issuedIn history).Pairwise (· < ·) := by
  rw [h.numbered]
  exact List.pairwise_lt_range'

/-- A history that starts with an empty queue balances the books. -/
theorem accounted (h : Advances history site site') (hfresh : site.channel.pending = []) :
    Accounted history site site' := by
  have hreplay : Replay [] history site'.channel.pending := hfresh ▸ h.replay
  have hsorted := h.pairwise_issuedIn
  have hnodup : (issuedIn history).Nodup := hsorted.imp Nat.ne_of_lt
  have hmade := hreplay.perm_issued
  -- What is seen of the site is what the history says, and that is the replay's.
  constructor
  case promised => exact h.promisedBetween_eq.symm
  case settled => rw [h.settledBetween_eq, h.settled]
  case once =>
    rw [h.settledBetween_eq]
    exact (List.nodup_append.mp (hreplay.nodup_settled hnodup)).1
  case made =>
    intro entry hmem
    rw [h.settledBetween_eq] at hmem
    rw [h.promisedBetween_eq]
    exact hmade.symm.subset (List.mem_append_left _ (List.mem_map_of_mem hmem))
  case unsettled =>
    rw [h.settledBetween_eq, h.promisedBetween_eq]
    exact hreplay.unsettled hsorted
  case inOrder => simpa using hreplay.tickets
  case completed =>
    rw [h.settledBetween_eq]
    exact hreplay.settled_queued hnodup
  case attempted =>
    exact hreplay.pairwise_tried (hsorted.sublist (queuedIn_sublist_issuedIn history))
  case front =>
    rintro first second ticket message verdict rfl
    obtain ⟨behind, hfirst, _⟩ := hreplay.front
    exact ⟨behind, hfirst⟩
  case done_iff =>
    intro ticket
    rw [h.settledBetween_eq]
    exact done_mem_settledIn
  case failed_iff =>
    intro ticket hqueued fault
    -- A queued message was not turned down, so that way to fail is out.
    have hnot : .refused ticket fault ∉ history := fun hrefused =>
      not_mem_queuedIn_of_refused hnodup hrefused hqueued
    rw [h.settledBetween_eq, failed_mem_settledIn]
    simp [hnot]

end Advances

/-- The messages in the queue have promises of their own. -/
theorem Accounted.nodup_pending {ε ω : Type} {history : List WriteEvent} {site site' : Site ε ω}
    (h : Accounted history site site') : (site'.channel.pending.map (·.ticket)).Nodup := by
  rw [← h.unsettled]
  exact (List.nodup_range' ..).filter _

/-- **A flush keeps its limits**: how many messages it completes, and how often it tries each. -/
theorem flush_limits [Endpoint.OpenWhileSending ε] (site : Site ε ω)
    (hdistinct : (site.channel.pending.map (·.ticket)).Nodup) :
    (settledBetween site ((flush : SiteAct ε ω Unit).after site)).length ≤
        site.channel.config.maxWrites.toNat ∧
      ∀ ticket, (triedIn (flushEvents site)).count ticket ≤
        site.channel.config.spinCount.toNat := by
  obtain ⟨left, site', _, hdrained, _⟩ := run_drain site
  constructor
  · rw [(advances_flush site).settledBetween_eq]
    exact hdrained.length_settledIn_le
  · intro ticket
    have hcount := hdrained.count_triedIn_le hdistinct ticket
    split at hcount
    · exact hcount
    · exact Nat.le_trans hcount (Nat.zero_le _)

/-- **The end of a channel settles what waits**, as the closing of the channel. -/
theorem settledBetween_last [Endpoint.OpenWhileSending ε] (site : Site ε ω)
    (hidle : IdleWhenClosed site) {last : QueueOp} (hlast : last = .close ∨ last = .drop) :
    settledBetween site (last.run.after site) = site.channel.pending.map
        (fun write => (write.ticket, .failed (.violation .channelClosed))) ∧
      (last.run.after site).channel.pending = [] := by
  have hevents : last.events site = leaveEvents site := by rcases hlast with rfl | rfl <;> rfl
  refine ⟨?_, QueueOp.pending_last hlast site hidle⟩
  rw [(last.advances site hidle).settledBetween_eq, hevents, leaveEvents]
  split
  · exact settledIn_abandoned _
  · rw [hidle (by simp_all)]
    rfl

/-- **Nothing is lost, duplicated or overtaken.** Whatever the user of a channel does with its write
queue and whatever becomes of the sends, the books balance in the state reached. From there a flush
keeps its limits, the end of the channel settles what waits, and a write returns the next
promise. The attempts counted here are the sends that are made (`calls_flush_limited`). -/
theorem accounted_runAll [Endpoint.OpenWhileSending ε] (ops : List QueueOp) (site : Site ε ω)
    (hfresh : site.channel.pending = []) :
    let reached := runAll ops site
    Accounted (historyOf ops site) site reached ∧
      (settledBetween reached ((flush : SiteAct ε ω Unit).after reached)).length ≤
        reached.channel.config.maxWrites.toNat ∧
      (∀ ticket, (triedIn (flushEvents reached)).count ticket ≤
        reached.channel.config.spinCount.toNat) ∧
      (∀ last : QueueOp, last = .close ∨ last = .drop →
        settledBetween reached (last.run.after reached) = reached.channel.pending.map
            (fun write => (write.ticket, .failed (.violation .channelClosed))) ∧
          (last.run.after reached).channel.pending = []) ∧
      ∀ message, ∃ next, (write message : SiteAct ε ω Ticket).run reached =
        .ok reached.host.futures.issued next := by
  intro reached
  have hidle : IdleWhenClosed site := fun _ => hfresh
  have hadvances := advances_runAll ops site hidle
  have haccounted := hadvances.accounted hfresh
  obtain ⟨hsettled, htried⟩ := flush_limits reached haccounted.nodup_pending
  refine ⟨haccounted, hsettled, htried, fun last hlast => ?_, fun message => ?_⟩
  · exact settledBetween_last reached (hadvances.idle hidle) hlast
  · obtain ⟨next, hrun, _⟩ := run_write message reached
    exact ⟨next, hrun⟩

/-- Three writes to a peer that first takes nothing, then one message, and then fails. The last
message is still in the queue when the channel is closed. -/
theorem accounted_three_writes :
    let message : Message :=
      .buffer (.ofComponents [{ Component.borrow 0 [1, 2] with kind := .direct }])
    let site : Site MemoryEndpoint Unit :=
      { channel := { name := "a", config := { allocator := 0, policy := 0, spinCount := 1 } }
        endpoint :=
          { channel := "a", results := [.taken 0, .taken 2, .failed (.native "sendmsg" 1)] }
        host := {}
        outside := () }
    let ops := [.writeAndFlush message, .write message, .flush, .write message, .close]
    site.channel.pending = [] ∧ Accounted (historyOf ops site) site (runAll ops site) ∧
      settledBetween site (runAll ops site) = [(0, .done), (1, .failed (.native "sendmsg" 1)),
        (2, .failed (.violation .channelClosed))] := by
  intro message site ops
  exact ⟨rfl, (accounted_runAll ops site rfl).1, by decide⟩

end UdpTransport.Channel
