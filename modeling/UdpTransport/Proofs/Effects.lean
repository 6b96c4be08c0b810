import Mathlib.Order.Defs.Unbundled
import Mathlib.Tactic.Simps.Basic
import UdpTransport.Channel.State

/-!
# How computations run

Every operation of the transport is an `Act`, and most statements about it are about the state that
it ends in, on both ways out. This module says what the building blocks do with a state:

- `Act.after` and `Act.result` are the two sides of a run: the state at the end, whether or not the
  computation failed, and what it gave.
- `Act.bind_of_ok` and `Act.bind_of_error` peel one step off a sequence.
- `Act.Within R` says that a computation relates each state to the one that it ends in, failed or
  not. For a preorder it is enough to look at the steps (`within_bind` and its relatives).
- `Site.withNative`, `Site.withLedger` and `Site.withFutures` are the site after an operation on one
  of its parts; `lift_native`, `lift_ledger` and `lift_futures` run such an operation.
-/

namespace UdpTransport

namespace Act

variable {σ τ α β : Type}

/-- The state that a computation ends in, whether or not it fails. -/
def after (act : Act σ α) (s : σ) : σ :=
  match act.run s with
  | .ok _ s' => s'
  | .error _ s' => s'

/-- What a computation gives, its failure included. -/
def result (act : Act σ α) (s : σ) : Except Fault α :=
  match act.run s with
  | .ok a _ => .ok a
  | .error fault _ => .error fault

/-- A run that succeeds names the state after it. -/
theorem after_of_ok {act : Act σ α} {s s' : σ} {a : α} (h : act.run s = .ok a s') :
    act.after s = s' := by
  simp [after, h]

/-- So does one that fails: the state of a failed step is kept. -/
theorem after_of_error {act : Act σ α} {s s' : σ} {fault : Fault}
    (h : act.run s = .error fault s') : act.after s = s' := by
  simp [after, h]

/-- A run that succeeds names its result. -/
theorem result_of_ok {act : Act σ α} {s s' : σ} {a : α} (h : act.run s = .ok a s') :
    act.result s = .ok a := by
  simp [result, h]

/-- A run that fails names its fault. -/
theorem result_of_error {act : Act σ α} {s s' : σ} {fault : Fault}
    (h : act.run s = .error fault s') : act.result s = .error fault := by
  simp [result, h]

/-- Result and state after make up the run again, if it succeeded. -/
theorem run_of_result {act : Act σ α} {s : σ} {a : α} (h : act.result s = .ok a) :
    act.run s = .ok a (act.after s) := by
  cases hrun : act.run s with
  | ok b s' =>
    rw [result_of_ok hrun] at h
    cases h
    rw [after_of_ok hrun]
  | error fault s' =>
    rw [result_of_error hrun] at h
    cases h

/-- The same of a run that failed. -/
theorem error_of_result {act : Act σ α} {s : σ} {fault : Fault} (h : act.result s = .error fault) :
    act.run s = .error fault (act.after s) := by
  cases hrun : act.run s with
  | ok a s' =>
    rw [result_of_ok hrun] at h
    cases h
  | error other s' =>
    rw [result_of_error hrun] at h
    cases h
    rw [after_of_error hrun]

/-- Two runs that agree leave the same state. -/
theorem after_congr {first second : Act σ α} {s t : σ} (h : first.run s = second.run t) :
    first.after s = second.after t := by
  unfold after
  rw [h]

/-- Two runs that agree have the same result. -/
theorem result_congr {first second : Act σ α} {s t : σ} (h : first.run s = second.run t) :
    first.result s = second.result t := by
  unfold result
  rw [h]

/-! ## Sequences -/

/-- After a step that succeeds the sequence goes on in its state. -/
theorem bind_of_ok {act : Act σ α} {next : α → Act σ β} {s s' : σ} {a : α}
    (h : act.run s = .ok a s') : (act >>= next).run s = (next a).run s' := by
  rw [EStateM.run_bind, h]

/-- A step that fails is the end of the sequence. -/
theorem bind_of_error {act : Act σ α} {next : α → Act σ β} {s s' : σ} {fault : Fault}
    (h : act.run s = .error fault s') : (act >>= next).run s = .error fault s' := by
  rw [EStateM.run_bind, h]

/-- A sequence that succeeds has succeeded in both parts. -/
theorem bind_ok_iff {act : Act σ α} {next : α → Act σ β} {s s' : σ} {b : β} :
    (act >>= next).run s = .ok b s' ↔
      ∃ a middle, act.run s = .ok a middle ∧ (next a).run middle = .ok b s' := by
  constructor
  · intro hrun
    cases h : act.run s with
    | ok a middle => exact ⟨a, middle, rfl, bind_of_ok h ▸ hrun⟩
    | error fault middle => simp [bind_of_error h] at hrun
  · rintro ⟨a, middle, hact, hnext⟩
    rw [bind_of_ok hact, hnext]

/-- A sequence that fails has failed in one of its parts. -/
theorem bind_error_iff {act : Act σ α} {next : α → Act σ β} {s s' : σ} {fault : Fault} :
    (act >>= next).run s = .error fault s' ↔
      act.run s = .error fault s' ∨
        ∃ a middle, act.run s = .ok a middle ∧ (next a).run middle = .error fault s' := by
  constructor
  · intro hrun
    cases h : act.run s with
    | ok a middle => exact .inr ⟨a, middle, rfl, bind_of_ok h ▸ hrun⟩
    | error other middle =>
      rw [bind_of_error h] at hrun
      cases hrun
      exact .inl rfl
  · rintro (hact | ⟨a, middle, hact, hnext⟩)
    · exact bind_of_error hact
    · rw [bind_of_ok hact, hnext]

/-- The state after a sequence whose first step succeeded is that after the rest of it. -/
theorem after_bind_of_ok {act : Act σ α} {next : α → Act σ β} {s s' : σ} {a : α}
    (h : act.run s = .ok a s') : (act >>= next).after s = (next a).after s' :=
  after_congr (bind_of_ok h)

/-- Two sequences give the same if their parts do. -/
theorem result_bind_congr {act : Act σ α} {act' : Act τ α} {next : α → Act σ β}
    {next' : α → Act τ β} {s : σ} {t : τ} (first : act.result s = act'.result t)
    (later : ∀ a s' t', act.run s = .ok a s' → act'.run t = .ok a t' →
      (next a).result s' = (next' a).result t') :
    (act >>= next).result s = (act' >>= next').result t := by
  cases h : act.run s with
  | ok a s' =>
    have h' : act'.run t = .ok a (act'.after t) := run_of_result (first ▸ result_of_ok h)
    rw [result_congr (bind_of_ok h), result_congr (bind_of_ok h'), later a s' _ h h']
  | error fault s' =>
    have h' : act'.run t = .error fault (act'.after t) :=
      error_of_result (first ▸ result_of_error h)
    rw [result_of_error (bind_of_error h), result_of_error (bind_of_error h')]

/-- To give another value changes nothing. -/
theorem after_bind_pure (act : Act σ α) (f : α → β) (s : σ) :
    (act >>= fun a => pure (f a)).after s = act.after s := by
  cases h : act.run s with
  | ok a s' => rw [after_bind_of_ok h, after_of_ok h]; rfl
  | error fault s' => rw [after_of_error (bind_of_error h), after_of_error h]

/-- A last step that only computes maps the result. -/
theorem result_bind_pure (act : Act σ α) (f : α → β) (s : σ) :
    (act >>= fun a => pure (f a)).result s = (act.result s).map f := by
  cases h : act.run s with
  | ok a s' => rw [result_congr (bind_of_ok h), result_of_ok h]; rfl
  | error fault s' => rw [result_of_error (bind_of_error h), result_of_error h]; rfl

@[simp] theorem run_throw (fault : Fault) (s : σ) :
    (throw fault : Act σ α).run s = .error fault s := rfl

/-- Capturing never fails and ends in the same state. -/
@[simp] theorem run_capture (act : Act σ α) (s : σ) :
    act.capture.run s = .ok (act.result s) (act.after s) := by
  cases h : act.run s with
  | ok a s' => rw [run_capture_ok h, result_of_ok h, after_of_ok h]
  | error fault s' => rw [run_capture_error h, result_of_error h, after_of_error h]

/-- A value that was computed beforehand leaves the state alone. -/
theorem after_ofExcept (value : Except Fault α) (s : σ) :
    (ofExcept value : Act σ α).after s = s := by
  cases value <;> rfl

/-- Its result is the value. -/
theorem result_ofExcept (value : Except Fault α) (s : σ) :
    (ofExcept value : Act σ α).result s = value := by
  cases value <;> rfl

/-- To make something of a value, or to fail at it, changes nothing. -/
theorem after_bind_ofExcept (act : Act σ α) (f : α → Except Fault β) (s : σ) :
    (act >>= fun a => ofExcept (f a)).after s = act.after s := by
  cases h : act.run s with
  | ok a s' => rw [after_bind_of_ok h, after_of_ok h, after_ofExcept]
  | error fault s' => rw [after_of_error (bind_of_error h), after_of_error h]

/-- A last step that checks the result takes its place. -/
theorem result_bind_ofExcept (act : Act σ α) (f : α → Except Fault β) (s : σ) :
    (act >>= fun a => ofExcept (f a)).result s = act.result s >>= f := by
  cases h : act.run s with
  | ok a s' =>
    rw [result_congr (bind_of_ok h), result_of_ok h, result_ofExcept]
    rfl
  | error fault s' =>
    rw [result_of_error (bind_of_error h), result_of_error h]
    rfl

/-- A checked value succeeds only if it was there, and where it was computed. -/
theorem ofExcept_ok_iff {value : Except Fault α} {s s' : σ} {a : α} :
    (ofExcept value : Act σ α).run s = .ok a s' ↔ value = .ok a ∧ s' = s := by
  cases value with
  | ok b =>
    constructor
    · intro h
      cases h
      exact ⟨rfl, rfl⟩
    · rintro ⟨⟨⟩, rfl⟩
      rfl
  | error fault =>
    constructor
    · intro h
      cases h
    · rintro ⟨⟨⟩, -⟩

/-- A computation that never fails. -/
def Succeeds (act : Act σ α) : Prop := ∀ s, ∃ a s', act.run s = .ok a s'

/-- A plain value never fails. -/
theorem succeeds_pure (a : α) : Succeeds (pure a : Act σ α) := fun s => ⟨a, s, rfl⟩

/-- Steps that never fail make up a sequence that never fails. -/
theorem succeeds_bind {act : Act σ α} {next : α → Act σ β} (first : Succeeds act)
    (later : ∀ a, Succeeds (next a)) : Succeeds (act >>= next) := by
  intro s
  obtain ⟨a, middle, hact⟩ := first s
  rw [bind_of_ok hact]
  exact later a middle

/-- A change of the state never fails. -/
theorem succeeds_modify (f : σ → σ) : Succeeds (modify f : Act σ Unit) := fun _ => ⟨(), _, rfl⟩

/-- The closing step has the last word on the state. -/
theorem after_ensuring (act : Act σ α) (closing : Act σ Unit) (s : σ) :
    (act.ensuring closing).after s = closing.after (act.after s) := by
  unfold ensuring
  rw [after_bind_of_ok (run_capture act s)]
  cases h : closing.run (act.after s) with
  | ok _ closed => rw [after_bind_of_ok h, after_of_ok h, after_ofExcept]
  | error fault closed => rw [after_of_error (bind_of_error h), after_of_error h]

/-! ## Parts of the state -/

/-- A step on a part succeeds as it does on the part alone, and its part is put back. -/
theorem focus_ok {part : σ → τ} {replace : τ → σ → σ} {act : Act τ α} {s : σ} {a : α} {t : τ}
    (h : act.run (part s) = .ok a t) : (focus part replace act).run s = .ok a (replace t s) := by
  show (match act.run (part s) with | .ok a t => _ | .error fault t => _) = _
  rw [h]

/-- One that fails puts its part back as well. -/
theorem focus_error {part : σ → τ} {replace : τ → σ → σ} {act : Act τ α} {s : σ} {fault : Fault}
    {t : τ} (h : act.run (part s) = .error fault t) :
    (focus part replace act).run s = .error fault (replace t s) := by
  show (match act.run (part s) with | .ok a t => _ | .error fault t => _) = _
  rw [h]

/-- An operation on a part of the state changes that part as it does alone. -/
theorem after_focus (part : σ → τ) (replace : τ → σ → σ) (act : Act τ α) (s : σ) :
    (focus part replace act).after s = replace (act.after (part s)) s := by
  cases h : act.run (part s) with
  | ok a t => rw [after_of_ok (focus_ok h), after_of_ok h]
  | error fault t => rw [after_of_error (focus_error h), after_of_error h]

/-- What a step on a part results in does not depend on the rest of the state. -/
theorem result_focus (part : σ → τ) (replace : τ → σ → σ) (act : Act τ α) (s : σ) :
    (focus part replace act).result s = act.result (part s) := by
  cases h : act.run (part s) with
  | ok a t => rw [result_of_ok (focus_ok h), result_of_ok h]
  | error fault t => rw [result_of_error (focus_error h), result_of_error h]

/-! ## Relations that hold along every run -/

/-- Every run relates the state that it starts in to the one that it ends in. -/
def Within (R : σ → σ → Prop) (act : Act σ α) : Prop := ∀ s, R s (act.after s)

section Within

variable {R : σ → σ → Prop}

/-- To catch the fault of a step changes nothing about its effects. -/
theorem within_capture {act : Act σ α} (h : Within R act) : Within R act.capture := by
  intro s
  rw [after_of_ok (run_capture act s)]
  exact h s

/-- A change holds a relation if it relates every state to its change. -/
theorem within_modify {f : σ → σ} (h : ∀ s, R s (f s)) : Within R (modify f : Act σ Unit) := h

/-- A weaker relation holds as well. -/
theorem Within.mono {R' : σ → σ → Prop} {act : Act σ α} (h : Within R act)
    (himp : ∀ s s', R s s' → R' s s') : Within R' act := fun s => himp s _ (h s)

variable [IsPreorder σ R]

/-- A step that leaves the state alone keeps every reflexive relation. -/
theorem within_of_after {act : Act σ α} (h : ∀ s, act.after s = s) : Within R act := by
  intro s
  rw [h]
  exact refl_of R s

theorem within_pure (a : α) : Within R (pure a : Act σ α) := within_of_after fun _ => rfl

theorem within_get : Within R (get : Act σ σ) := within_of_after fun _ => rfl

theorem within_throw (fault : Fault) : Within R (throw fault : Act σ α) :=
  within_of_after fun _ => rfl

theorem within_ofExcept (value : Except Fault α) : Within R (ofExcept value : Act σ α) :=
  within_of_after (after_ofExcept value)

/-- The relation of a sequence is that of its steps, by transitivity. -/
theorem within_bind {act : Act σ α} {next : α → Act σ β} (first : Within R act)
    (later : ∀ a, Within R (next a)) : Within R (act >>= next) := by
  intro s
  cases h : act.run s with
  | ok a s' =>
    have hfirst : R s s' := after_of_ok h ▸ first s
    rw [after_bind_of_ok h]
    exact trans_of R hfirst (later a s')
  | error fault s' =>
    rw [after_of_error (bind_of_error h), ← after_of_error h]
    exact first s

/-- The same is done for the items of a list, one after the other. -/
theorem within_for {ι : Type} {act : ι → Act σ Unit} (h : ∀ item, Within R (act item))
    (items : List ι) :
    Within R (forIn items PUnit.unit fun item _ => do
      act item
      pure (ForInStep.yield PUnit.unit)) := by
  induction items with
  | nil => exact within_pure _
  | cons item rest ih =>
    rw [List.forIn_cons, bind_assoc]
    exact within_bind (h item) fun _ => ih

end Within

/-- What is looked at of a state is the same in the later one. -/
def Fixing (look : σ → τ) (s s' : σ) : Prop := look s' = look s

instance (look : σ → τ) : IsPreorder σ (Fixing look) where
  refl _ := rfl
  trans _ _ _ first later := Eq.trans later first

/-- What holds of a state still holds of the later one. -/
def Keeping (p : σ → Prop) (s s' : σ) : Prop := p s → p s'

instance (p : σ → Prop) : IsPreorder σ (Keeping p) where
  refl _ := id
  trans _ _ _ first later := later ∘ first

end Act

/-! ## The parts of a site -/

namespace Site

variable {ε ω : Type}

/-- The site after an operation on its endpoint and the native side. -/
@[simps] def withNative (site : Site ε ω) (part : ε × Native) : Site ε ω :=
  { site with endpoint := part.1, host := { site.host with native := part.2 } }

/-- The site after an operation on the ledger. -/
@[simps] def withLedger (site : Site ε ω) (ledger : Ledger) : Site ε ω :=
  { site with host := { site.host with ledger := ledger } }

/-- The site after an operation on the futures. -/
@[simps] def withFutures (site : Site ε ω) (futures : Futures) : Site ε ω :=
  { site with host := { site.host with futures := futures } }

/-- The site after a change of its channel. -/
@[simps] def withChannel (site : Site ε ω) (channel : Channel) : Site ε ω :=
  { site with channel := channel }

/-- Nothing changes but the native side. -/
def NativeOnly (site site' : Site ε ω) : Prop :=
  ∃ native, site' = site.withNative (site.endpoint, native)

instance : IsPreorder (Site ε ω) NativeOnly where
  refl site := ⟨site.host.native, rfl⟩
  trans := by
    rintro site _ _ ⟨_, rfl⟩ ⟨native, rfl⟩
    exact ⟨native, rfl⟩

/-- Nothing changes but whose memory is whose: the ledger, and the allocator that the channel keeps
for copies. -/
def MemoryOnly (site site' : Site ε ω) : Prop :=
  ∃ ledger fallback,
    site' = (site.withLedger ledger).withChannel { site.channel with fallback := fallback }

instance : IsPreorder (Site ε ω) MemoryOnly where
  refl site := ⟨site.host.ledger, site.channel.fallback, rfl⟩
  trans := by
    rintro site _ _ ⟨_, _, rfl⟩ ⟨ledger, fallback, rfl⟩
    exact ⟨ledger, fallback, rfl⟩

end Site

namespace Channel

variable {ε ω α : Type}

@[simp] theorem run_current (site : Site ε ω) :
    (current : SiteAct ε ω Channel).run site = .ok site.channel site := rfl

@[simp] theorem run_change (f : Channel → Channel) (site : Site ε ω) :
    (change f : SiteAct ε ω Unit).run site = .ok () (site.withChannel (f site.channel)) := rfl

@[simp] theorem run_isOpen [Endpoint ε] (site : Site ε ω) :
    (isOpen : SiteAct ε ω Bool).run site = .ok (Endpoint.isOpen site.endpoint) site := rfl

/-! ## Operations on a part -/

/-- A native step that succeeds does so at the site of the endpoint. -/
theorem lift_native_ok {act : NativeAct ε α} {site : Site ε ω} {a : α} {part : ε × Native}
    (h : act.run (site.endpoint, site.host.native) = .ok a part) :
    (liftM act : SiteAct ε ω α).run site = .ok a (site.withNative part) :=
  Act.focus_ok h

/-- A native step of a site that succeeded did so on the endpoint, and changed nothing around it. -/
theorem lift_native_inv {act : NativeAct ε α} {site site' : Site ε ω} {a : α}
    (h : (liftM act : SiteAct ε ω α).run site = .ok a site') :
    ∃ part, act.run (site.endpoint, site.host.native) = .ok a part ∧
      site' = site.withNative part := by
  cases hact : act.run (site.endpoint, site.host.native) with
  | ok a' part =>
    rw [lift_native_ok hact] at h
    cases h
    exact ⟨part, rfl, rfl⟩
  | error fault part =>
    have hlifted : (liftM act : SiteAct ε ω α).run site = .error fault (site.withNative part) :=
      Act.focus_error hact
    rw [hlifted] at h
    cases h

/-- Its result is the one at the endpoint. -/
theorem result_lift_native (act : NativeAct ε α) (site : Site ε ω) :
    (liftM act : SiteAct ε ω α).result site = act.result (site.endpoint, site.host.native) :=
  Act.result_focus _ _ act site

/-- All that it changes is the endpoint and the native world. -/
theorem after_lift_native (act : NativeAct ε α) (site : Site ε ω) :
    (liftM act : SiteAct ε ω α).after site =
      site.withNative (act.after (site.endpoint, site.host.native)) :=
  Act.after_focus _ _ act site

/-- The native side does not reach into an endpoint. -/
theorem after_lift_plain (act : Act Native α) (s : ε × Native) :
    (liftM act : NativeAct ε α).after s = (s.1, act.after s.2) :=
  Act.after_focus _ _ act s

/-- What uses the native world without the endpoint is native only. -/
theorem within_lift_plain (act : Act Native α) :
    Act.Within Site.NativeOnly (liftM act : SiteAct ε ω α) := by
  intro site
  refine ⟨act.after site.host.native, ?_⟩
  exact (after_lift_native (liftM act : NativeAct ε α) site).trans (by rw [after_lift_plain])

/-- A step on the ledger succeeds at the site as it does on the ledger. -/
theorem lift_ledger_ok {act : Act Ledger α} {site : Site ε ω} {a : α} {ledger : Ledger}
    (h : act.run site.host.ledger = .ok a ledger) :
    (liftM act : SiteAct ε ω α).run site = .ok a (site.withLedger ledger) :=
  Act.focus_ok h

/-- And it fails there as it does on the ledger. -/
theorem lift_ledger_error {act : Act Ledger α} {site : Site ε ω} {fault : Fault} {ledger : Ledger}
    (h : act.run site.host.ledger = .error fault ledger) :
    (liftM act : SiteAct ε ω α).run site = .error fault (site.withLedger ledger) :=
  Act.focus_error h

/-- One that succeeded at a site did so on the ledger, and changed nothing else. -/
theorem lift_ledger_inv {act : Act Ledger α} {site site' : Site ε ω} {a : α}
    (h : (liftM act : SiteAct ε ω α).run site = .ok a site') :
    ∃ ledger, act.run site.host.ledger = .ok a ledger ∧ site' = site.withLedger ledger := by
  cases hact : act.run site.host.ledger with
  | ok a' ledger =>
    rw [lift_ledger_ok hact] at h
    cases h
    exact ⟨ledger, rfl, rfl⟩
  | error fault ledger =>
    rw [lift_ledger_error hact] at h
    cases h

/-- All that it changes is the ledger. -/
theorem after_lift_ledger (act : Act Ledger α) (site : Site ε ω) :
    (liftM act : SiteAct ε ω α).after site = site.withLedger (act.after site.host.ledger) :=
  Act.after_focus _ _ act site

/-- What happens on the ledger is memory only. -/
theorem within_lift_ledger (act : Act Ledger α) :
    Act.Within Site.MemoryOnly (liftM act : SiteAct ε ω α) := fun site =>
  ⟨act.after site.host.ledger, site.channel.fallback, after_lift_ledger act site⟩

/-- A step on the promises succeeds at the site as it does on them. -/
theorem lift_futures_ok {act : Act Futures α} {site : Site ε ω} {a : α} {futures : Futures}
    (h : act.run site.host.futures = .ok a futures) :
    (liftM act : SiteAct ε ω α).run site = .ok a (site.withFutures futures) :=
  Act.focus_ok h

/-- All that it changes is the promises. -/
theorem after_lift_futures (act : Act Futures α) (site : Site ε ω) :
    (liftM act : SiteAct ε ω α).after site = site.withFutures (act.after site.host.futures) :=
  Act.after_focus _ _ act site

/-- Promises are numbered in the order in which they are made. -/
theorem run_issue (site : Site ε ω) :
    (liftM Futures.issue : SiteAct ε ω Ticket).run site =
      .ok site.host.futures.issued (site.withFutures
        { site.host.futures with issued := site.host.futures.issued + 1 }) :=
  lift_futures_ok rfl

/-- To settle a promise adds its outcome, and cannot fail. -/
theorem run_settle (ticket : Ticket) (outcome : Outcome) (site : Site ε ω) :
    (liftM (Futures.settle ticket outcome) : SiteAct ε ω Unit).run site =
      .ok () (site.withFutures
        { site.host.futures with settled := site.host.futures.settled.push (ticket, outcome) }) :=
  lift_futures_ok rfl

/-- Giving memory back succeeds. -/
theorem run_discard (buffer : Buffer) (site : Site ε ω) :
    (liftM (Ledger.discard buffer) : SiteAct ε ω Unit).run site =
      .ok () (site.withLedger (Ledger.release buffer.components site.host.ledger)) :=
  lift_ledger_ok rfl

/-- Logging succeeds and changes nothing but the native side. -/
theorem run_writeLog (level : Log.Level) (tag text : String) (site : Site ε ω) :
    ∃ native, (liftM (Native.writeLog level tag text) : SiteAct ε ω Unit).run site =
      .ok () (site.withNative (site.endpoint, native)) := by
  have bare : ∃ native',
      (Native.writeLog level tag text).run site.host.native = .ok () native' := by
    unfold Native.writeLog
    rw [Act.bind_of_ok (EStateM.run_get _)]
    split
    · cases site.host.native.log.sink with
      | journal => exact ⟨_, rfl⟩
      | console => exact ⟨_, rfl⟩
    · exact ⟨_, rfl⟩
  obtain ⟨native', h⟩ := bare
  refine ⟨native', ?_⟩
  have inner : (liftM (Native.writeLog level tag text) : NativeAct ε Unit).run
      (site.endpoint, site.host.native) = .ok () (site.endpoint, native') := Act.focus_ok h
  exact lift_native_ok inner

end Channel

end UdpTransport
