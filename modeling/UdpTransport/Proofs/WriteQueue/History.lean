import Mathlib.Data.List.Sort
import UdpTransport.Channel.WriteQueue

/-!
# Histories of the write queue

What happens to the messages of a channel is a list of `WriteEvent`s: a message is queued, or turned
down at once; an attempt is made to send the message at the front; a message is given up because the
channel is closed. `WriteStep` says what one event does to a queue that is served strictly from the
front, and `Replay` what a history does. A history that replays says by itself that messages are
attempted in the order in which they were written:

- `Replay.tickets`: what was queued is what left the queue, followed by what is in it.
- `Replay.perm_issued`: the promises made are those settled and those of the messages still queued.
- `Replay.front`: an attempt is made with the message at the front, as the attempts before left it.
-/

namespace UdpTransport.Channel

/-- Something that happened to the messages of a channel. -/
inductive WriteEvent where
  /-- A message was queued. -/
  | queued (write : PendingWrite)
  /-- A message was turned down. -/
  | refused (ticket : Ticket) (fault : Fault)
  /-- One attempt to send a message, and what came of it. -/
  | tried (ticket : Ticket) (message : Message) (verdict : Attempt)
  /-- A message was still queued when the channel was closed. -/
  | abandoned (ticket : Ticket)

namespace WriteEvent

/-- The promise that an event makes. -/
@[simp] def issued? : WriteEvent → Option Ticket
  | queued write => some write.ticket
  | refused ticket _ => some ticket
  | _ => none

/-- The message that an event puts into the queue. -/
@[simp] def queued? : WriteEvent → Option Ticket
  | queued write => some write.ticket
  | _ => none

/-- The message that an event attempts to send. -/
@[simp] def tried? : WriteEvent → Option Ticket
  | tried ticket _ _ => some ticket
  | _ => none

/-- The message that an event takes out of the queue. -/
@[simp] def removed? : WriteEvent → Option Ticket
  | tried ticket _ (.sent _) | tried ticket _ (.failed _) | abandoned ticket => some ticket
  | _ => none

/-- The promise that an event settles, and how. -/
@[simp] def settled? : WriteEvent → Option (Ticket × Outcome)
  | refused ticket fault | tried ticket _ (.failed fault) => some (ticket, .failed fault)
  | tried ticket _ (.sent _) => some (ticket, .done)
  | abandoned ticket => some (ticket, .failed (.violation .channelClosed))
  | _ => none

end WriteEvent

/-- What the events of a history say in some respect, in order. -/
def inOrder {α : Type} (look : WriteEvent → Option α) (history : List WriteEvent) : List α :=
  history.filterMap look

section InOrder

variable {α : Type} (look : WriteEvent → Option α)

@[simp] theorem inOrder_nil : inOrder look [] = [] := rfl

@[simp] theorem inOrder_cons (event : WriteEvent) (rest : List WriteEvent) :
    inOrder look (event :: rest) = (look event).toList ++ inOrder look rest := by
  unfold inOrder
  rw [List.filterMap_cons]
  cases look event <;> rfl

@[simp] theorem inOrder_append (first second : List WriteEvent) :
    inOrder look (first ++ second) = inOrder look first ++ inOrder look second :=
  List.filterMap_append

theorem mem_inOrder {history : List WriteEvent} {a : α} :
    a ∈ inOrder look history ↔ ∃ event ∈ history, look event = some a := List.mem_filterMap

end InOrder

/-- The promises made in a history. -/
abbrev issuedIn (history : List WriteEvent) : List Ticket := inOrder WriteEvent.issued? history

/-- The messages queued in a history. -/
abbrev queuedIn (history : List WriteEvent) : List Ticket := inOrder WriteEvent.queued? history

/-- The messages that a history attempts to send, once for each attempt. -/
abbrev triedIn (history : List WriteEvent) : List Ticket := inOrder WriteEvent.tried? history

/-- The messages that left the queue in a history. -/
abbrev removedIn (history : List WriteEvent) : List Ticket := inOrder WriteEvent.removed? history

/-- The promises settled in a history. -/
abbrev settledIn (history : List WriteEvent) : List (Ticket × Outcome) :=
  inOrder WriteEvent.settled? history

theorem issuedIn_append (first second : List WriteEvent) :
    issuedIn (first ++ second) = issuedIn first ++ issuedIn second := inOrder_append ..

theorem triedIn_append (first second : List WriteEvent) :
    triedIn (first ++ second) = triedIn first ++ triedIn second := inOrder_append ..

theorem settledIn_append (first second : List WriteEvent) :
    settledIn (first ++ second) = settledIn first ++ settledIn second := inOrder_append ..

/-- What an event does to a queue that is served from the front. -/
inductive WriteStep : List PendingWrite → WriteEvent → List PendingWrite → Prop where
  | queued (queue : List PendingWrite) (write : PendingWrite) :
      WriteStep queue (.queued write) (queue ++ [write])
  | refused (queue : List PendingWrite) (ticket : Ticket) (fault : Fault) :
      WriteStep queue (.refused ticket fault) queue
  /-- The message waits for the next attempt, with what the attempt left of it. -/
  | waiting (ticket : Ticket) (message left : Message) (rest : List PendingWrite) :
      WriteStep (⟨message, ticket⟩ :: rest) (.tried ticket message (.waiting left))
        (⟨left, ticket⟩ :: rest)
  | sent (ticket : Ticket) (message left : Message) (rest : List PendingWrite) :
      WriteStep (⟨message, ticket⟩ :: rest) (.tried ticket message (.sent left)) rest
  | failed (ticket : Ticket) (message : Message) (fault : Fault) (rest : List PendingWrite) :
      WriteStep (⟨message, ticket⟩ :: rest) (.tried ticket message (.failed fault)) rest
  | abandoned (ticket : Ticket) (message : Message) (rest : List PendingWrite) :
      WriteStep (⟨message, ticket⟩ :: rest) (.abandoned ticket) rest

/-- What a history does to a queue. -/
inductive Replay : List PendingWrite → List WriteEvent → List PendingWrite → Prop where
  | nil (queue : List PendingWrite) : Replay queue [] queue
  | cons {queue middle last : List PendingWrite} {event : WriteEvent} {rest : List WriteEvent} :
      WriteStep queue event middle → Replay middle rest last → Replay queue (event :: rest) last

namespace Replay

variable {queue middle last : List PendingWrite} {first second history : List WriteEvent}

theorem single {event : WriteEvent} (h : WriteStep queue event last) :
    Replay queue [event] last := .cons h (.nil last)

theorem append (hfirst : Replay queue first middle) (hsecond : Replay middle second last) :
    Replay queue (first ++ second) last := by
  induction hfirst with
  | nil => exact hsecond
  | cons hstep _ ih => exact .cons hstep (ih hsecond)

/-- In the middle of a history the queue is what the first part makes of it. -/
theorem split (h : Replay queue (first ++ second) last) :
    ∃ middle, Replay queue first middle ∧ Replay middle second last := by
  induction first generalizing queue with
  | nil => exact ⟨queue, .nil queue, h⟩
  | cons event rest ih =>
    cases h with
    | cons hstep hrest =>
      obtain ⟨middle, hfirst, hsecond⟩ := ih hrest
      exact ⟨middle, .cons hstep hfirst, hsecond⟩

/-! ## Order -/

/-- **First in, first out.** The messages queued are those that left, in the same order, followed by
those that are still there. -/
theorem tickets (h : Replay queue history last) :
    queue.map (·.ticket) ++ queuedIn history = removedIn history ++ last.map (·.ticket) := by
  induction h with
  | nil queue => simp
  | cons hstep _ ih => cases hstep <;> simp_all

/-- An attempt is made with the message at the front of the queue, and all messages queued before it
have left. -/
theorem front {ticket : Ticket} {message : Message} {verdict : Attempt}
    (h : Replay [] (first ++ .tried ticket message verdict :: second) last) :
    ∃ rest, Replay [] first (⟨message, ticket⟩ :: rest) ∧
      queuedIn first = removedIn first ++ ticket :: rest.map (·.ticket) := by
  obtain ⟨middle, hfirst, hsecond⟩ := h.split
  cases hsecond with
  | cons hstep _ =>
    have hmiddle : ∃ rest, middle = ⟨message, ticket⟩ :: rest := by
      cases hstep <;> exact ⟨_, rfl⟩
    obtain ⟨rest, rfl⟩ := hmiddle
    exact ⟨rest, hfirst, by simpa using hfirst.tickets⟩

/-! ## Accounting -/

/-- The promises made in a history are those that it settles and those of the messages that it
leaves in the queue. -/
theorem perm_issued (h : Replay queue history last) :
    (queue.map (·.ticket) ++ issuedIn history).Perm
      ((settledIn history).map (·.1) ++ last.map (·.ticket)) := by
  induction h with
  | nil queue => simp
  | cons hstep _ ih =>
    -- Only a refusal settles a promise that never stood in the queue.
    cases hstep with
    | queued queue write => simpa using ih
    | refused queue ticket fault => simpa using List.perm_middle.trans (ih.cons ticket)
    | waiting ticket message left rest => simpa using ih
    | sent ticket message left rest => simpa using ih
    | failed ticket message fault rest => simpa using ih
    | abandoned ticket message rest => simpa using ih

/-- No promise is settled twice, and none is settled whose message is still queued. -/
theorem nodup_settled (h : Replay [] history last) (hissued : (issuedIn history).Nodup) :
    ((settledIn history).map (·.1) ++ last.map (·.ticket)).Nodup := by
  have hperm := h.perm_issued
  rw [List.map_nil, List.nil_append] at hperm
  exact hperm.nodup_iff.mp hissued

/-- The messages left in the queue are in the order in which they were queued. -/
theorem sublist_queued (h : Replay [] history last) :
    (last.map (·.ticket)).Sublist (queuedIn history) := by
  have hqueued : queuedIn history = removedIn history ++ last.map (·.ticket) := by
    simpa using h.tickets
  rw [hqueued]
  exact List.sublist_append_right ..

end Replay

/-- The messages queued are among those for which a promise was made. -/
theorem queuedIn_sublist_issuedIn (history : List WriteEvent) :
    (queuedIn history).Sublist (issuedIn history) := by
  induction history with
  | nil => exact List.Sublist.refl _
  | cons event rest ih =>
    cases event with
    | queued write => exact ih.cons_cons write.ticket
    | refused ticket fault => exact ih.cons ticket
    | tried => exact ih
    | abandoned => exact ih

/-- **The open promises are those of the queue.** If promises are made in increasing order, the
promises not settled are those of the messages in the queue, in the order of writing. -/
theorem Replay.unsettled {last : List PendingWrite} {history : List WriteEvent}
    (h : Replay [] history last) (hissued : (issuedIn history).Pairwise (· < ·)) :
    (issuedIn history).filter (· ∉ (settledIn history).map (·.1)) = last.map (·.ticket) := by
  have hnodup : (issuedIn history).Nodup := hissued.imp Nat.ne_of_lt
  have hperm := h.perm_issued
  rw [List.map_nil, List.nil_append] at hperm
  have hapart := List.disjoint_of_nodup_append (h.nodup_settled hnodup)
  have hsub : (last.map (·.ticket)).Sublist (issuedIn history) :=
    h.sublist_queued.trans (queuedIn_sublist_issuedIn history)
  -- Both lists increase, so it is enough that they have the same members.
  refine (hissued.filter _).eq_of_mem_iff (hissued.sublist hsub) fun ticket => ?_
  constructor
  · intro hmem
    obtain ⟨hticket, hopen⟩ := List.mem_filter.mp hmem
    rcases List.mem_append.mp (hperm.mem_iff.mp hticket) with hsettled | hqueued
    · simp_all
    · exact hqueued
  · intro hmem
    refine List.mem_filter.mpr ⟨hsub.subset hmem, ?_⟩
    have hnot : ticket ∉ (settledIn history).map (·.1) := fun hsettled => hapart hsettled hmem
    simpa using hnot

/-! ## Attempts -/

/-- Only messages that are in the queue, or come into it, are tried. -/
theorem Replay.tried_mem {queue last : List PendingWrite} {history : List WriteEvent}
    (h : Replay queue history last) {ticket : Ticket} (htried : ticket ∈ triedIn history) :
    ticket ∈ queue.map (·.ticket) ++ queuedIn history := by
  induction h with
  | nil queue => simp at htried
  | cons hstep _ ih =>
    cases hstep <;> simp at htried ih ⊢ <;> grind

/-- If messages are numbered in the order of writing, no message is tried after a later one. -/
theorem Replay.pairwise_tried {queue last : List PendingWrite} {history : List WriteEvent}
    (h : Replay queue history last)
    (hsorted : (queue.map (·.ticket) ++ queuedIn history).Pairwise (· < ·)) :
    (triedIn history).Pairwise (· ≤ ·) := by
  induction h with
  | nil queue => exact .nil
  | @cons queue middle last event rest hstep hrest ih =>
    -- Whatever is tried later stands in the queue now or is queued later.
    have hlater : ∀ ticket ∈ triedIn rest, ticket ∈ middle.map (·.ticket) ++ queuedIn rest :=
      fun ticket => hrest.tried_mem
    cases hstep with
    | queued queue write =>
      refine ih ?_
      simpa using hsorted
    | refused queue ticket fault => exact ih hsorted
    | waiting ticket message left rest' =>
      refine List.pairwise_cons.mpr ⟨fun other hother => ?_, ih hsorted⟩
      rcases List.mem_cons.mp (hlater other hother) with rfl | hbehind
      · exact Nat.le_refl other
      · exact Nat.le_of_lt ((List.pairwise_cons.mp hsorted).1 other hbehind)
    | sent ticket message left rest' =>
      -- The front has left, and all that is tried later was written after it.
      obtain ⟨hfront, hbehind⟩ := List.pairwise_cons.mp hsorted
      refine List.pairwise_cons.mpr ⟨fun other hother => ?_, ih hbehind⟩
      exact Nat.le_of_lt (hfront other (hlater other hother))
    | failed ticket message fault rest' =>
      obtain ⟨hfront, hbehind⟩ := List.pairwise_cons.mp hsorted
      refine List.pairwise_cons.mpr ⟨fun other hother => ?_, ih hbehind⟩
      exact Nat.le_of_lt (hfront other (hlater other hother))
    | abandoned ticket message rest' => exact ih (List.pairwise_cons.mp hsorted).2

/-! ## Outcomes -/

/-- A message that was turned down is not queued. -/
theorem not_mem_queuedIn_of_refused {history : List WriteEvent}
    (hnodup : (issuedIn history).Nodup) {ticket : Ticket} {fault : Fault}
    (hrefused : .refused ticket fault ∈ history) : ticket ∉ queuedIn history := by
  have hissued : ∀ {rest : List WriteEvent}, .refused ticket fault ∈ rest →
      ticket ∈ issuedIn rest := fun hmem => (mem_inOrder _).mpr ⟨_, hmem, rfl⟩
  induction history with
  | nil => exact absurd hrefused List.not_mem_nil
  | cons event rest ih =>
    cases event with
    | queued write =>
      obtain ⟨hfresh, hrest⟩ := List.nodup_cons.mp hnodup
      have hlater : .refused ticket fault ∈ rest := by simpa using hrefused
      have hne : ticket ≠ write.ticket := by
        rintro rfl
        exact hfresh (hissued hlater)
      exact fun hmem => (List.mem_cons.mp hmem).elim hne (ih hrest hlater)
    | refused other reason =>
      obtain ⟨hfresh, hrest⟩ := List.nodup_cons.mp hnodup
      rcases List.mem_cons.mp hrefused with heq | hlater
      · cases heq
        exact fun hmem => hfresh ((queuedIn_sublist_issuedIn rest).subset hmem)
      · exact ih hrest hlater
    | tried => exact ih hnodup (by simpa using hrefused)
    | abandoned => exact ih hnodup (by simpa using hrefused)

/-- The promises of queued messages are settled in the order in which the messages leave. -/
theorem Replay.settled_queued {last : List PendingWrite} {history : List WriteEvent}
    (h : Replay [] history last) (hnodup : (issuedIn history).Nodup) :
    ((settledIn history).map (·.1)).filter (· ∈ queuedIn history) = removedIn history := by
  have hqueued : queuedIn history = removedIn history ++ last.map (·.ticket) := by
    simpa using h.tickets
  have hremoved : ∀ ticket ∈ removedIn history, ticket ∈ queuedIn history := fun ticket hmem =>
    hqueued ▸ List.mem_append_left _ hmem
  have hrefused : ∀ ticket fault, .refused ticket fault ∈ history → ticket ∉ queuedIn history :=
    fun _ _ => not_mem_queuedIn_of_refused hnodup
  -- All that the induction needs of the queued messages are these two facts.
  generalize queuedIn history = inQueue at hremoved hrefused ⊢
  clear h hnodup hqueued
  induction history with
  | nil => rfl
  | cons event rest ih =>
    have hrest := ih (fun ticket hmem => hremoved ticket (by simp [hmem])) fun ticket fault hmem =>
      hrefused ticket fault (List.mem_cons_of_mem _ hmem)
    cases event with
    | queued write => exact hrest
    | refused ticket fault =>
      have hout := hrefused ticket fault List.mem_cons_self
      simpa [hout] using hrest
    | tried ticket message verdict =>
      cases verdict with
      | waiting left => exact hrest
      | sent left =>
        have hin := hremoved ticket (by simp)
        simpa [hin] using hrest
      | failed fault =>
        have hin := hremoved ticket (by simp)
        simpa [hin] using hrest
    | abandoned ticket =>
      have hin := hremoved ticket (by simp)
      simpa [hin] using hrest

/-- A promise is kept by the attempt that sent its message. -/
theorem done_mem_settledIn {history : List WriteEvent} {ticket : Ticket} :
    (ticket, .done) ∈ settledIn history ↔
      ∃ message left, .tried ticket message (.sent left) ∈ history := by
  rw [mem_inOrder]
  constructor
  · rintro ⟨event, hmem, hsettled⟩
    unfold WriteEvent.settled? at hsettled
    split at hsettled <;> simp_all
    exact ⟨_, _, hmem⟩
  · rintro ⟨message, left, hmem⟩
    exact ⟨_, hmem, rfl⟩

/-- A promise fails in one of three ways. -/
theorem failed_mem_settledIn {history : List WriteEvent} {ticket : Ticket} {fault : Fault} :
    (ticket, .failed fault) ∈ settledIn history ↔
      .refused ticket fault ∈ history ∨
        (∃ message, .tried ticket message (.failed fault) ∈ history) ∨
        fault = .violation .channelClosed ∧ .abandoned ticket ∈ history := by
  rw [mem_inOrder]
  constructor
  · rintro ⟨event, hmem, hsettled⟩
    unfold WriteEvent.settled? at hsettled
    split at hsettled <;> simp_all
    exact .inr (.inl ⟨_, hmem⟩)
  · rintro (hmem | ⟨message, hmem⟩ | ⟨rfl, hmem⟩)
    · exact ⟨_, hmem, rfl⟩
    · exact ⟨_, hmem, rfl⟩
    · exact ⟨_, hmem, rfl⟩

end UdpTransport.Channel
