import UdpTransport.Proofs.Endpoints
import UdpTransport.Proofs.Outbound.Offer
import UdpTransport.Proofs.WriteQueue.History

/-!
# The attempts of a flush

A flush shows what became of each message, but not how often it was tried. Here its loops are run
with a record of every attempt: `trySeveral` for one message and `drainTold` for the queue. They do
what the loops of the write queue do, and what they record follows from the settings alone:

- `trySeveral_spec`: the attempts with one message end at the first one that is decided, and are no
  more than the settings allow (`Tries`).
- `drainTold_spec`: the queue is served from the front (`Drained`), and each message that leaves it
  has its promise settled as the record says (`Serves`).
-/

namespace UdpTransport.Channel

variable {ε ω : Type} [Endpoint ε]

/-! ## One message -/

/-- One attempt to send a message; that it failed is a verdict as well. -/
def tryOnce (message : Message) : NativeAct ε Attempt := do
  return .ofResult (← (offer message : NativeAct ε (Message × Bool)).capture)

/-- The attempts that one flush makes with a message: the last verdict, and each attempt with the
message that it was made with. -/
def trySeveral : (attempts : Nat) → Message → NativeAct ε (Attempt × List (Message × Attempt))
  | 0, message => pure (.waiting message, [])
  | attempts + 1, message => do
    match ← (tryOnce message : NativeAct ε Attempt) with
    | .waiting left =>
      let (verdict, later) ← trySeveral attempts left
      pure (verdict, (message, .waiting left) :: later)
    | verdict => pure (verdict, [(message, verdict)])

/-- How up to `attempts` attempts with a message can go: each begins with what the one before left,
and the first verdict other than waiting is the last one. -/
inductive Tries : (attempts : Nat) → Message → Attempt → List (Message × Attempt) → Prop where
  | none (attempts : Nat) (message : Message) : Tries attempts message (.waiting message) []
  | again {attempts : Nat} {message left : Message} {verdict : Attempt}
      {later : List (Message × Attempt)} (h : Tries attempts left verdict later) :
      Tries (attempts + 1) message verdict ((message, .waiting left) :: later)
  | sent (attempts : Nat) (message left : Message) :
      Tries (attempts + 1) message (.sent left) [(message, .sent left)]
  | failed (attempts : Nat) (message : Message) (fault : Fault) :
      Tries (attempts + 1) message (.failed fault) [(message, .failed fault)]

/-- One attempt never fails. -/
theorem run_tryOnce (message : Message) (s : ε × Native) :
    (tryOnce message : NativeAct ε Attempt).run s =
      .ok (.ofResult ((offer message : NativeAct ε _).result s))
        ((offer message : NativeAct ε _).after s) := by
  unfold tryOnce
  rw [Act.bind_of_ok (Act.run_capture _ s)]
  rfl

/-- Nor do several. -/
theorem run_attempt (attempts : Nat) (message : Message) (s : ε × Native) :
    (attempt attempts message : NativeAct ε Attempt).run s =
      .ok (.ofResult ((spin attempts message : NativeAct ε _).result s))
        ((spin attempts message : NativeAct ε _).after s) := by
  unfold attempt
  rw [Act.bind_of_ok (Act.run_capture _ s)]
  rfl

/-- Recording the attempts changes nothing else. -/
theorem trySeveral_spec (attempts : Nat) (message : Message) (s : ε × Native) :
    ∃ verdict tries s',
      (trySeveral attempts message : NativeAct ε _).run s = .ok (verdict, tries) s' ∧
        (attempt attempts message : NativeAct ε Attempt).run s = .ok verdict s' ∧
        Tries attempts message verdict tries := by
  -- The induction is the loop itself: what an attempt leaves is what the next one is made with.
  induction attempts generalizing message s with
  | zero => exact ⟨.waiting message, [], s, rfl, rfl, .none 0 message⟩
  | succ attempts ih =>
    unfold trySeveral
    rw [Act.bind_of_ok (run_tryOnce message s), run_attempt]
    cases h : (offer message : NativeAct ε (Message × Bool)).run s with
    | error fault s' =>
      -- A failure is a verdict as well, so no attempt comes after it.
      have hspin : (spin (attempts + 1) message : NativeAct ε _).run s = .error fault s' :=
        Act.bind_of_error h
      rw [Act.result_of_error h, Act.after_of_error h, Act.result_of_error hspin,
        Act.after_of_error hspin]
      exact ⟨.failed fault, [(message, .failed fault)], s', rfl, rfl, .failed ..⟩
    | ok outcome s' =>
      obtain ⟨left, done⟩ := outcome
      rw [Act.result_of_ok h, Act.after_of_ok h]
      cases done with
      | true =>
        have hspin : (spin (attempts + 1) message : NativeAct ε _).run s = .ok (left, true) s' :=
          Act.bind_of_ok h
        rw [Act.result_of_ok hspin, Act.after_of_ok hspin]
        exact ⟨.sent left, [(message, .sent left)], s', rfl, rfl, .sent ..⟩
      | false =>
        have hspin : (spin (attempts + 1) message : NativeAct ε _).run s =
            (spin attempts left : NativeAct ε _).run s' := Act.bind_of_ok h
        obtain ⟨verdict, tries, s'', htries, hverdict, hshape⟩ := ih left s'
        rw [Act.result_congr hspin, Act.after_congr hspin, ← run_attempt]
        exact ⟨verdict, (message, .waiting left) :: tries, s'', Act.bind_of_ok htries, hverdict,
          .again hshape⟩

/-- What every send does to the endpoint, every series of attempts does. -/
theorem within_attempt {R : ε × Native → ε × Native → Prop} [IsPreorder (ε × Native) R]
    (hsend : ∀ request, Act.Within R (Endpoint.send request : NativeAct ε Int))
    (attempts : Nat) (message : Message) :
    Act.Within R (attempt attempts message : NativeAct ε Attempt) := by
  have hspin : Act.Within R (spin attempts message : NativeAct ε (Message × Bool)) := by
    induction attempts generalizing message with
    | zero => exact Act.within_pure (message, false)
    | succ attempts ih =>
      refine Act.within_bind (within_offer hsend message) fun (left, done) => ?_
      cases done with
      | true => exact Act.within_pure (left, true)
      | false => exact ih left
  exact Act.within_bind (Act.within_capture hspin) fun _ => Act.within_pure _

/-- The attempts with the message of a ticket, as events. -/
def told (ticket : Ticket) (tries : List (Message × Attempt)) : List WriteEvent :=
  tries.map fun (message, verdict) => .tried ticket message verdict

/-- The outcome that a verdict gives the promise of its message, if it decides anything. -/
def Attempt.outcome? : Attempt → Option Outcome
  | .sent _ => some .done
  | .failed fault => some (.failed fault)
  | .waiting _ => none

/-- The queue after a verdict on its front. -/
def Attempt.leave (ticket : Ticket) (rest : List PendingWrite) : Attempt → List PendingWrite
  | .waiting left => ⟨left, ticket⟩ :: rest
  | _ => rest

/-- What a verdict settles. -/
def Attempt.settles (ticket : Ticket) (verdict : Attempt) : List (Ticket × Outcome) :=
  verdict.outcome?.toList.map (ticket, ·)

namespace Tries

variable {attempts : Nat} {message : Message} {verdict : Attempt}
  {tries : List (Message × Attempt)}

theorem length_le (h : Tries attempts message verdict tries) : tries.length ≤ attempts := by
  induction h with
  | none attempts message => exact Nat.zero_le attempts
  | again _ ih => exact Nat.succ_le_succ ih
  | sent attempts => exact Nat.succ_le_succ (Nat.zero_le attempts)
  | failed attempts => exact Nat.succ_le_succ (Nat.zero_le attempts)

theorem replay (h : Tries attempts message verdict tries) (ticket : Ticket)
    (rest : List PendingWrite) :
    Replay (⟨message, ticket⟩ :: rest) (told ticket tries) (verdict.leave ticket rest) := by
  induction h with
  | none attempts message => exact .nil _
  | again _ ih => exact .cons (.waiting ..) ih
  | sent attempts message left => exact .single (.sent ..)
  | failed attempts message fault => exact .single (.failed ..)

theorem settledIn_told (h : Tries attempts message verdict tries) (ticket : Ticket) :
    settledIn (told ticket tries) = verdict.settles ticket := by
  induction h with
  | none attempts message => rfl
  | again _ ih => exact ih
  | sent attempts message left => rfl
  | failed attempts message fault => rfl

end Tries

theorem triedIn_told (ticket : Ticket) (tries : List (Message × Attempt)) :
    triedIn (told ticket tries) = List.replicate tries.length ticket := by
  induction tries with
  | nil => rfl
  | cons entry rest ih =>
    show ticket :: triedIn (told ticket rest) = _
    rw [ih]
    rfl

/-! ## The queue -/

/-- Works through the front of a queue and records the attempts. -/
def drainTold (attempts : Nat) :
    (budget : Nat) → List PendingWrite → SiteAct ε ω (List PendingWrite × List WriteEvent)
  | 0, queue => pure (queue, [])
  | _, [] => pure ([], [])
  | budget + 1, head :: rest => do
    let (verdict, tries) ←
      (trySeveral attempts head.message : NativeAct ε (Attempt × List (Message × Attempt)))
    conclude head verdict
    match verdict with
    | .waiting left => pure (⟨left, head.ticket⟩ :: rest, told head.ticket tries)
    | _ =>
      let (left, later) ← drainTold attempts budget rest
      pure (left, told head.ticket tries ++ later)

/-- How serving the front of a queue within a budget can go. -/
inductive Drained (attempts : Nat) :
    (budget : Nat) → List PendingWrite → List WriteEvent → List PendingWrite → Prop where
  | stop (budget : Nat) (queue : List PendingWrite) : Drained attempts budget queue [] queue
  | waits {budget : Nat} {head : PendingWrite} {rest : List PendingWrite} {left : Message}
      {tries : List (Message × Attempt)} (h : Tries attempts head.message (.waiting left) tries) :
      Drained attempts (budget + 1) (head :: rest) (told head.ticket tries)
        (⟨left, head.ticket⟩ :: rest)
  | goes {budget : Nat} {head : PendingWrite} {rest left : List PendingWrite} {verdict : Attempt}
      {tries : List (Message × Attempt)} {later : List WriteEvent}
      (h : Tries attempts head.message verdict tries) (hdecided : verdict.outcome?.isSome)
      (hlater : Drained attempts budget rest later left) :
      Drained attempts (budget + 1) (head :: rest) (told head.ticket tries ++ later) left

namespace Drained

variable {attempts budget : Nat} {queue left : List PendingWrite} {history : List WriteEvent}

theorem replay (h : Drained attempts budget queue history left) : Replay queue history left := by
  induction h with
  | stop budget queue => exact .nil queue
  | @waits budget head rest left tries htries => exact htries.replay head.ticket rest
  | @goes budget head rest left verdict tries later htries hdecided _ ih =>
    have hleave : verdict.leave head.ticket rest = rest := by
      cases verdict with
      | waiting => exact absurd hdecided (by simp [Attempt.outcome?])
      | sent => rfl
      | failed => rfl
    exact (hleave ▸ htries.replay head.ticket rest).append ih

/-- Serving the queue makes no promises. -/
theorem issuedIn (h : Drained attempts budget queue history left) : issuedIn history = [] := by
  have htold : ∀ ticket tries, Channel.issuedIn (told ticket tries) = [] := by
    intro ticket tries
    induction tries with
    | nil => rfl
    | cons entry rest ih => exact ih
  induction h with
  | stop budget queue => rfl
  | waits htries => exact htold ..
  | goes _ _ _ ih => rw [issuedIn_append, htold, ih]; rfl

theorem nil (h : Drained attempts budget [] history left) : left = [] := by
  cases h
  rfl

/-- At most as many messages are decided as the budget allows. -/
theorem length_settledIn_le (h : Drained attempts budget queue history left) :
    (settledIn history).length ≤ budget := by
  induction h with
  | stop budget queue => exact Nat.zero_le budget
  | waits htries =>
    rw [htries.settledIn_told]
    exact Nat.zero_le _
  | @goes budget head rest left verdict tries later htries _ _ ih =>
    have hone : (verdict.settles head.ticket).length ≤ 1 := by
      cases verdict <;> simp [Attempt.settles, Attempt.outcome?]
    rw [settledIn_append, htries.settledIn_told, List.length_append]
    omega

/-- A message is tried at most as often as the settings allow. -/
theorem count_triedIn_le (h : Drained attempts budget queue history left)
    (hdistinct : (queue.map (·.ticket)).Nodup) (ticket : Ticket) :
    (triedIn history).count ticket ≤
      if ticket ∈ queue.map (·.ticket) then attempts else 0 := by
  induction h with
  | stop budget queue => simp [triedIn]
  | @waits budget head rest left tries htries =>
    have hlength := htries.length_le
    rw [triedIn_told, List.count_replicate]
    by_cases hhead : head.ticket = ticket
    · simp [hhead, hlength]
    · simp [hhead]
  | @goes budget head rest left verdict tries later htries _ _ ih =>
    have hlength := htries.length_le
    obtain ⟨hfresh, hrest⟩ := List.nodup_cons.mp hdistinct
    have hlater := ih hrest
    rw [triedIn_append, List.count_append, triedIn_told, List.count_replicate]
    -- A decided front is not in the rest of the queue, so it is not tried again.
    by_cases hhead : head.ticket = ticket
    · subst hhead
      rw [if_neg hfresh] at hlater
      simp
      omega
    · have hother : ticket ≠ head.ticket := fun heq => hhead heq.symm
      simp_all

end Drained

/-! ## What serving the queue does to its site -/

/-- Promises are settled, an open endpoint stays open, and the queue is not touched. -/
structure Serves (entries : List (Ticket × Outcome)) (site site' : Site ε ω) : Prop where
  pending : site'.channel.pending = site.channel.pending
  issued : site'.host.futures.issued = site.host.futures.issued
  settled : site'.host.futures.settled.toList = site.host.futures.settled.toList ++ entries
  stays : Endpoint.isOpen site.endpoint = true → Endpoint.isOpen site'.endpoint = true

namespace Serves

variable {site middle site' : Site ε ω} {first second : List (Ticket × Outcome)}

theorem refl (site : Site ε ω) : Serves [] site site := ⟨rfl, rfl, by simp, id⟩

theorem trans (hfirst : Serves first site middle) (hsecond : Serves second middle site') :
    Serves (first ++ second) site site' where
  pending := hsecond.pending.trans hfirst.pending
  issued := hsecond.issued.trans hfirst.issued
  settled := by rw [hsecond.settled, hfirst.settled, List.append_assoc]
  stays := hsecond.stays ∘ hfirst.stays

/-- A promise is settled and the memory of its message is given back. -/
theorem settle (ticket : Ticket) (outcome : Outcome) (ledger : Ledger) (site : Site ε ω) :
    Serves [(ticket, outcome)] site ((site.withFutures
      { site.host.futures with
        settled := site.host.futures.settled.push (ticket, outcome) }).withLedger ledger) :=
  ⟨rfl, rfl, Array.toList_push .., id⟩

/-- What is closed afterwards was closed before. -/
theorem closed_before (h : Serves first site site')
    (hclosed : Endpoint.isOpen site'.endpoint = false) :
    Endpoint.isOpen site.endpoint = false := by
  cases hopen : Endpoint.isOpen site.endpoint with
  | false => rfl
  | true => exact absurd (h.stays hopen) (by simp [hclosed])

end Serves

/-- Settling the front succeeds, and settles what the verdict says. -/
theorem run_conclude (head : PendingWrite) (verdict : Attempt) (site : Site ε ω) :
    ∃ site', (conclude head verdict : SiteAct ε ω Unit).run site = .ok () site' ∧
      Serves (verdict.settles head.ticket) site site' := by
  cases verdict with
  | waiting left => exact ⟨site, rfl, .refl site⟩
  | sent left =>
    simp only [conclude]
    rw [Act.bind_of_ok (run_settle ..), run_discard]
    exact ⟨_, rfl, .settle ..⟩
  | failed fault =>
    obtain ⟨native, hlog⟩ := run_writeLog .warn logTag
      ("dropping outbound message: " ++ fault.message) site
    simp only [conclude]
    rw [Act.bind_of_ok hlog, Act.bind_of_ok (run_settle ..), run_discard]
    exact ⟨_, rfl, rfl, rfl, Array.toList_push .., id⟩

section Front

variable {attempts budget : Nat} {head : PendingWrite} {rest : List PendingWrite}
  {verdict : Attempt} {tries : List (Message × Attempt)} {part : ε × Native}
  {site site₁ : Site ε ω}

/-- Once the front of the queue is decided, the rest of the queue is served. -/
theorem run_drain_decided
    (hattempt : (attempt attempts head.message : NativeAct ε Attempt).run
      (site.endpoint, site.host.native) = .ok verdict part)
    (hconclude : (conclude head verdict : SiteAct ε ω Unit).run (site.withNative part) =
      .ok () site₁)
    (hdecided : verdict.outcome?.isSome) :
    (drain attempts (budget + 1) (head :: rest) : SiteAct ε ω _).run site =
      (drain attempts budget rest).run site₁ := by
  rw [drain, Act.bind_of_ok (lift_native_ok hattempt), Act.bind_of_ok hconclude]
  cases verdict with
  | waiting => exact absurd hdecided (by simp [Attempt.outcome?])
  | sent => rfl
  | failed => rfl

theorem run_drainTold_decided
    (htold : (trySeveral attempts head.message : NativeAct ε _).run
      (site.endpoint, site.host.native) = .ok (verdict, tries) part)
    (hconclude : (conclude head verdict : SiteAct ε ω Unit).run (site.withNative part) =
      .ok () site₁)
    (hdecided : verdict.outcome?.isSome) {left : List PendingWrite} {later : List WriteEvent}
    {site₂ : Site ε ω}
    (hlater : (drainTold attempts budget rest : SiteAct ε ω _).run site₁ =
      .ok (left, later) site₂) :
    (drainTold attempts (budget + 1) (head :: rest) : SiteAct ε ω _).run site =
      .ok (left, told head.ticket tries ++ later) site₂ := by
  rw [drainTold, Act.bind_of_ok (lift_native_ok htold), Act.bind_of_ok hconclude]
  cases verdict with
  | waiting => exact absurd hdecided (by simp [Attempt.outcome?])
  | sent => exact Act.bind_of_ok hlater
  | failed => exact Act.bind_of_ok hlater

/-- A front that waits holds up the rest of the queue. -/
theorem run_drainTold_waiting {left : Message}
    (htold : (trySeveral attempts head.message : NativeAct ε _).run
      (site.endpoint, site.host.native) = .ok (.waiting left, tries) part)
    (hconclude : (conclude head (.waiting left) : SiteAct ε ω Unit).run (site.withNative part) =
      .ok () site₁) :
    (drainTold attempts (budget + 1) (head :: rest) : SiteAct ε ω _).run site =
      .ok (⟨left, head.ticket⟩ :: rest, told head.ticket tries) site₁ := by
  rw [drainTold, Act.bind_of_ok (lift_native_ok htold), Act.bind_of_ok hconclude]
  rfl

end Front

/-- A verdict that decides nothing lets the message wait. -/
theorem Attempt.waiting_of_undecided {verdict : Attempt} (h : ¬ verdict.outcome?.isSome) :
    ∃ left, verdict = .waiting left := by
  cases verdict with
  | waiting left => exact ⟨left, rfl⟩
  | sent => exact absurd rfl h
  | failed => exact absurd rfl h

/-- Recording the attempts changes nothing else, and what is recorded is what was done. -/
theorem drainTold_spec [Endpoint.OpenWhileSending ε] (attempts budget : Nat)
    (queue : List PendingWrite) (site : Site ε ω) :
    ∃ left history site',
      (drainTold attempts budget queue : SiteAct ε ω _).run site = .ok (left, history) site' ∧
        (drain attempts budget queue : SiteAct ε ω _).run site = .ok left site' ∧
        Drained attempts budget queue history left ∧ Serves (settledIn history) site site' := by
  induction budget generalizing queue site with
  | zero => exact ⟨queue, [], site, rfl, rfl, .stop 0 queue, .refl site⟩
  | succ budget ih =>
    cases queue with
    | nil => exact ⟨[], [], site, rfl, rfl, .stop _ [], .refl site⟩
    | cons head rest =>
      obtain ⟨verdict, tries, part, htold, hattempt, htries⟩ :=
        trySeveral_spec attempts head.message (site.endpoint, site.host.native)
      obtain ⟨site₁, hconclude, hserves⟩ :=
        run_conclude head verdict (site.withNative part : Site ε ω)
      -- The attempts settle nothing and leave an open endpoint open.
      have hopen : Serves [] site (site.withNative part) := by
        refine ⟨rfl, rfl, by simp, fun hopen => ?_⟩
        have hpart : (attempt attempts head.message : NativeAct ε _).after
            (site.endpoint, site.host.native) = part := Act.after_of_ok hattempt
        have hkeeps := within_attempt (R := Act.Keeping fun s => Endpoint.isOpen s.1 = true)
          Endpoint.OpenWhileSending.isOpen_send attempts head.message
          (site.endpoint, site.host.native) hopen
        rwa [hpart] at hkeeps
      have hfront := hopen.trans hserves
      by_cases hdecided : verdict.outcome?.isSome
      · -- The front has left, and the rest of the queue is served with the rest of the budget.
        obtain ⟨left, later, site', hlaterTold, hlater, hdrained, hlaterServes⟩ := ih rest site₁
        refine ⟨left, told head.ticket tries ++ later, site',
          run_drainTold_decided htold hconclude hdecided hlaterTold,
          (run_drain_decided hattempt hconclude hdecided).trans hlater,
          .goes htries hdecided hdrained, ?_⟩
        rw [settledIn_append, htries.settledIn_told]
        exact hfront.trans hlaterServes
      · -- The front waits, and so does everything behind it.
        obtain ⟨left, rfl⟩ := Attempt.waiting_of_undecided hdecided
        refine ⟨⟨left, head.ticket⟩ :: rest, told head.ticket tries, site₁,
          run_drainTold_waiting htold hconclude, ?_, .waits htries, ?_⟩
        · rw [drain, Act.bind_of_ok (lift_native_ok hattempt), Act.bind_of_ok hconclude]
          rfl
        · rw [htries.settledIn_told]
          exact hfront

end UdpTransport.Channel
