import UdpTransport.Channel.Lifecycle
import UdpTransport.Proofs.Effects

/-!
# Computations that go alike

Two computations on different states go alike if they give the same from states that match, and
leave states that match (`Act.Matches`). Where one state is a function of the other, the one
computation mirrors the other (`Act.Mirrors`). It is enough to look at the steps.

A channel over one endpoint is mirrored by a channel over another one as far as both endpoints
answer alike; what a channel does without its endpoint is mirrored in any case.
-/

namespace UdpTransport

namespace Act

variable {σ τ σ' τ' α β : Type}

/-! ## Matching states -/

/-- From states that match, two computations give the same and leave states that match. -/
def Matches (R : σ → τ → Prop) (act : Act σ α) (act' : Act τ α) : Prop :=
  ∀ s t, R s t → act'.result t = act.result s ∧ R (act.after s) (act'.after t)

section Matches

variable {R : σ → τ → Prop} {act : Act σ α} {act' : Act τ α}

/-- Values that are there match. -/
theorem matches_pure (a : α) : Matches R (pure a) (pure a) := fun _ _ h => ⟨rfl, h⟩

/-- So do faults. -/
theorem matches_throw (fault : Fault) : Matches R (throw fault : Act σ α) (throw fault) :=
  fun _ _ h => ⟨rfl, h⟩

/-- And values that were checked. -/
theorem matches_ofExcept (value : Except Fault α) :
    Matches R (ofExcept value) (ofExcept value) := by
  cases value with
  | ok a => exact matches_pure a
  | error fault => exact matches_throw fault

/-- Sequences match if their steps do, and if what follows depends only on the value. -/
theorem matches_bind {next : α → Act σ β} {next' : α → Act τ β} (first : Matches R act act')
    (later : ∀ a, Matches R (next a) (next' a)) : Matches R (act >>= next) (act' >>= next') := by
  intro s t hst
  obtain ⟨hresult, hafter⟩ := first s t hst
  cases hrun : act.run s with
  | ok a s' =>
    rw [result_of_ok hrun] at hresult
    rw [after_of_ok hrun] at hafter
    have hrun' := run_of_result hresult
    rw [result_congr (bind_of_ok hrun), result_congr (bind_of_ok hrun'), after_bind_of_ok hrun,
      after_bind_of_ok hrun']
    exact later a s' _ hafter
  | error fault s' =>
    rw [result_of_error hrun] at hresult
    rw [after_of_error hrun] at hafter
    have hrun' := error_of_result hresult
    rw [result_of_error (bind_of_error hrun), result_of_error (bind_of_error hrun'),
      after_of_error (bind_of_error hrun), after_of_error (bind_of_error hrun')]
    exact ⟨rfl, hafter⟩

/-- The two branches of a question that is the same for both. -/
theorem matches_ite {c : Prop} [Decidable c] {other : Act σ α} {other' : Act τ α}
    (first : Matches R act act') (second : Matches R other other') :
    Matches R (if c then act else other) (if c then act' else other') := by
  split
  · exact first
  · exact second

/-- Results that are the same are caught alike. -/
theorem matches_capture (h : Matches R act act') : Matches R act.capture act'.capture := by
  intro s t hst
  obtain ⟨hresult, hafter⟩ := h s t hst
  rw [result_of_ok (run_capture act s), result_of_ok (run_capture act' t),
    after_of_ok (run_capture act s), after_of_ok (run_capture act' t), hresult]
  exact ⟨rfl, hafter⟩

/-- Closing steps that go alike go alike after anything that does. -/
theorem matches_ensuring {closing : Act σ Unit} {closing' : Act τ Unit} (h : Matches R act act')
    (hclosing : Matches R closing closing') :
    Matches R (act.ensuring closing) (act'.ensuring closing') :=
  matches_bind (matches_capture h) fun result =>
    matches_bind hclosing fun _ => matches_ofExcept result

end Matches

/-! ## Mirrored states -/

/-- A computation does what another one does, on states that `f` makes of its own. -/
def Mirrors (f : σ → τ) (act : Act σ α) (act' : Act τ α) : Prop :=
  ∀ s, act'.result (f s) = act.result s ∧ act'.after (f s) = f (act.after s)

variable {f : σ → τ} {act : Act σ α} {act' : Act τ α}

/-- To mirror is to match along a function. -/
theorem mirrors_iff : Mirrors f act act' ↔ Matches (fun s t => t = f s) act act' := by
  constructor
  · rintro h s _ rfl
    exact h s
  · intro h s
    exact h s (f s) rfl

theorem mirrors_pure (a : α) : Mirrors f (pure a) (pure a) := fun _ => ⟨rfl, rfl⟩

theorem mirrors_throw (fault : Fault) :
    Mirrors f (throw fault : Act σ α) (throw fault) := fun _ => ⟨rfl, rfl⟩

theorem mirrors_ofExcept (value : Except Fault α) : Mirrors f (ofExcept value) (ofExcept value) :=
  mirrors_iff.mpr (matches_ofExcept value)

/-- Changes that commute with the mirror are mirrored. -/
theorem mirrors_modify {g : σ → σ} {g' : τ → τ} (h : ∀ s, g' (f s) = f (g s)) :
    Mirrors f (modify g : Act σ Unit) (modify g') := fun s => ⟨rfl, h s⟩

/-- Mirrors are a case of matching, and inherit its rules. -/
theorem mirrors_bind {next : α → Act σ β} {next' : α → Act τ β} (first : Mirrors f act act')
    (later : ∀ a, Mirrors f (next a) (next' a)) : Mirrors f (act >>= next) (act' >>= next') :=
  mirrors_iff.mpr (matches_bind (mirrors_iff.mp first) fun a => mirrors_iff.mp (later a))

/-- What is done may depend on the state, if it is alike for like states. -/
theorem mirrors_get {next : σ → Act σ β} {next' : τ → Act τ β}
    (h : ∀ s, Mirrors f (next s) (next' (f s))) : Mirrors f (get >>= next) (get >>= next') := by
  intro s
  rw [result_congr (bind_of_ok (EStateM.run_get s)), after_bind_of_ok (EStateM.run_get s),
    result_congr (bind_of_ok (EStateM.run_get (f s))), after_bind_of_ok (EStateM.run_get (f s))]
  exact h s s

theorem mirrors_ite {c : Prop} [Decidable c] {other : Act σ α} {other' : Act τ α}
    (first : Mirrors f act act') (second : Mirrors f other other') :
    Mirrors f (if c then act else other) (if c then act' else other') :=
  mirrors_iff.mpr (matches_ite (mirrors_iff.mp first) (mirrors_iff.mp second))

theorem mirrors_capture (h : Mirrors f act act') : Mirrors f act.capture act'.capture :=
  mirrors_iff.mpr (matches_capture (mirrors_iff.mp h))

/-- Like parts of like states are worked on alike. -/
theorem mirrors_focus {g : σ' → τ'} {part : σ → σ'} {part' : τ → τ'} {replace : σ' → σ → σ}
    {replace' : τ' → τ → τ} {act : Act σ' α} {act' : Act τ' α} (h : Mirrors g act act')
    (hpart : ∀ s, part' (f s) = g (part s))
    (hreplace : ∀ t s, replace' (g t) (f s) = f (replace t s)) :
    Mirrors f (focus part replace act) (focus part' replace' act') := by
  intro s
  obtain ⟨hresult, hafter⟩ := h (part s)
  rw [result_focus, result_focus, after_focus, after_focus, hpart, ← hreplace, hresult, hafter]
  exact ⟨rfl, rfl⟩

/-- Every computation mirrors itself. -/
theorem mirrors_id (act : Act σ α) : Mirrors id act act := fun _ => ⟨rfl, rfl⟩

end Act

/-! ## Channels over other endpoints -/

/-- A channel over another endpoint. -/
def Site.mapEndpoint {ε ε' ω : Type} (φ : ε → ε') (site : Site ε ω) : Site ε' ω :=
  { site with endpoint := φ site.endpoint }

namespace Channel

variable {ε ε' ω α : Type} (φ : ε → ε')

/-- What is done over one endpoint is done over the other. -/
abbrev Mirrored (act : SiteAct ε ω α) (act' : SiteAct ε' ω α) : Prop :=
  Act.Mirrors (Site.mapEndpoint φ) act act'

variable {φ}

/-- Endpoints that answer alike do so at their sites. -/
theorem mirrored_native {act : NativeAct ε α} {act' : NativeAct ε' α}
    (h : Act.Mirrors (Prod.map φ id) act act') :
    Mirrored φ (liftM act : SiteAct ε ω α) (liftM act') :=
  Act.mirrors_focus h (fun _ => rfl) fun _ _ => rfl

/-- The rest of the native world is the same on both sides. -/
theorem mirrored_plain (act : Act Native α) :
    Mirrored φ (liftM act : SiteAct ε ω α) (liftM act) := by
  have hbare : Act.Mirrors (Prod.map φ id) (liftM act : NativeAct ε α) (liftM act) :=
    Act.mirrors_focus (Act.mirrors_id act) (fun _ => rfl) fun _ _ => rfl
  exact mirrored_native hbare

/-- Memory is the same on both sides. -/
theorem mirrored_ledger (act : Act Ledger α) :
    Mirrored φ (liftM act : SiteAct ε ω α) (liftM act) :=
  Act.mirrors_focus (Act.mirrors_id act) (fun _ => rfl) fun _ _ => rfl

/-- Promises are. -/
theorem mirrored_futures (act : Act Futures α) :
    Mirrored φ (liftM act : SiteAct ε ω α) (liftM act) :=
  Act.mirrors_focus (Act.mirrors_id act) (fun _ => rfl) fun _ _ => rfl

/-- So is the channel, which knows nothing of its endpoint. -/
theorem mirrored_current : Mirrored φ (current : SiteAct ε ω Channel) current :=
  fun _ => ⟨rfl, rfl⟩

theorem mirrored_change (f : Channel → Channel) :
    Mirrored φ (change f : SiteAct ε ω Unit) (change f) := Act.mirrors_modify fun _ => rfl

/-- What a channel waits for is settled between it and its loop. -/
theorem mirrored_setReadInterest (wanted : Bool) :
    Mirrored φ (setReadInterest wanted : SiteAct ε ω Unit) (setReadInterest wanted) := by
  refine Act.mirrors_bind mirrored_current fun channel => ?_
  cases channel.registration with
  | some registration => exact mirrored_plain _
  | none => exact Act.mirrors_pure ()

section Open

variable [Endpoint ε] [Endpoint ε'] (hopen : ∀ e, Endpoint.isOpen (φ e) = Endpoint.isOpen e)

include hopen

/-- Whether a channel is open is up to its endpoint. -/
theorem mirrored_isOpen : Mirrored φ (isOpen : SiteAct ε ω Bool) isOpen := fun site =>
  ⟨congrArg Except.ok (hopen site.endpoint), rfl⟩

/-- A read that is asked for depends on whether the channel is open. -/
theorem mirrored_read : Mirrored φ (read : SiteAct ε ω Unit) read := by
  refine Act.mirrors_bind (mirrored_isOpen hopen) fun _ => Act.mirrors_ite ?_ (Act.mirrors_pure ())
  exact Act.mirrors_bind (mirrored_change _) fun _ => mirrored_setReadInterest true

/-- An address that is cached was told by an endpoint that answers alike. -/
theorem mirrored_localAddress
    (hask : Act.Mirrors (Prod.map φ id) (Endpoint.localAddress : NativeAct ε Address)
      Endpoint.localAddress) :
    Mirrored φ (localAddress : SiteAct ε ω (Option Address)) localAddress := by
  refine Act.mirrors_bind mirrored_current fun channel => ?_
  cases channel.localCache with
  | some address => exact Act.mirrors_pure _
  | none =>
    refine Act.mirrors_bind (mirrored_isOpen hopen) fun _ =>
      Act.mirrors_ite ?_ (Act.mirrors_pure none)
    refine Act.mirrors_bind (mirrored_native hask) fun address => ?_
    refine Act.mirrors_ite (Act.mirrors_pure none) ?_
    exact Act.mirrors_bind (mirrored_change _) fun _ => Act.mirrors_pure _

omit hopen in
/-- The same of the remote one. -/
theorem mirrored_remoteAddress
    (hask : Act.Mirrors (Prod.map φ id) (Endpoint.remoteAddress : NativeAct ε (Option Address))
      Endpoint.remoteAddress) :
    Mirrored φ (remoteAddress : SiteAct ε ω (Option Address)) remoteAddress := by
  refine Act.mirrors_bind mirrored_current fun channel => ?_
  cases channel.remoteCache with
  | some address => exact Act.mirrors_pure _
  | none =>
    refine Act.mirrors_ite ?_ (Act.mirrors_pure none)
    refine Act.mirrors_bind (mirrored_native hask) fun address => ?_
    exact Act.mirrors_bind (mirrored_change _) fun _ => Act.mirrors_pure _

end Open

end Channel

end UdpTransport
