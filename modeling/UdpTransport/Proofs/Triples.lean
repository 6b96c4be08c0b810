import UdpTransport.Proofs.Effects

/-!
# Triples with two ways out

`Act.Triple pre act post raised` is what a computation promises from every state that satisfies
`pre`: if it succeeds, the value and the state satisfy `post`; if it fails, the fault and the state
satisfy `raised`. A failure keeps what was done, so `raised` is as much a statement about the code
as `post` is. There is one rule for each building block, and a sequence needs one assertion for the
state in its middle.
-/

namespace UdpTransport.Act

variable {σ τ α β : Type}

/-- What a computation promises, for both ways out. -/
structure Triple (pre : σ → Prop) (act : Act σ α) (post : α → σ → Prop)
    (raised : Fault → σ → Prop) : Prop where
  ok : ∀ {s a s'}, pre s → act.run s = .ok a s' → post a s'
  error : ∀ {s fault s'}, pre s → act.run s = .error fault s' → raised fault s'

namespace Triple

variable {pre : σ → Prop} {act : Act σ α} {post : α → σ → Prop} {raised : Fault → σ → Prop}

/-- A triple holds for fewer states and promises less. -/
theorem weaken {pre' : σ → Prop} {post' : α → σ → Prop} {raised' : Fault → σ → Prop}
    (h : Triple pre act post raised) (hpre : ∀ s, pre' s → pre s)
    (hpost : ∀ a s, post a s → post' a s) (hraised : ∀ fault s, raised fault s → raised' fault s) :
    Triple pre' act post' raised' where
  ok hs hrun := hpost _ _ (h.ok (hpre _ hs) hrun)
  error hs hrun := hraised _ _ (h.error (hpre _ hs) hrun)

/-- It is enough to look at each state by itself. -/
theorem pointwise (h : ∀ s, pre s → Triple (· = s) act post raised) :
    Triple pre act post raised where
  ok hs hrun := (h _ hs).ok rfl hrun
  error hs hrun := (h _ hs).error rfl hrun

theorem starting {s : σ} (h : Triple pre act post raised) (hs : pre s) :
    Triple (· = s) act post raised where
  ok hstart hrun := h.ok (hstart ▸ hs) hrun
  error hstart hrun := h.error (hstart ▸ hs) hrun

/-- From one state it is enough to look at what is left to do. -/
theorem of_run {s : σ} {t : σ} {later : Act σ α} (hrun : act.run s = later.run t)
    (h : Triple (· = t) later post raised) : Triple (· = s) act post raised where
  ok hs hrun' := by
    cases hs
    rw [hrun] at hrun'
    exact h.ok rfl hrun'
  error hs hrun' := by
    cases hs
    rw [hrun] at hrun'
    exact h.error rfl hrun'

theorem of_ok {s s' : σ} {a : α} (hrun : act.run s = .ok a s') (h : post a s') :
    Triple (· = s) act post raised where
  ok hs hrun' := by
    cases hs
    rw [hrun] at hrun'
    cases hrun'
    exact h
  error hs hrun' := by
    cases hs
    rw [hrun] at hrun'
    cases hrun'

theorem of_error {s s' : σ} {fault : Fault} (hrun : act.run s = .error fault s')
    (h : raised fault s') : Triple (· = s) act post raised where
  ok hs hrun' := by
    cases hs
    rw [hrun] at hrun'
    cases hrun'
  error hs hrun' := by
    cases hs
    rw [hrun] at hrun'
    cases hrun'
    exact h

theorem pure {a : α} (h : ∀ s, pre s → post a s) :
    Triple pre (Pure.pure a : Act σ α) post raised where
  ok hs hrun := by
    cases hrun
    exact h _ hs
  error _ hrun := by cases hrun

theorem throw {fault : Fault} (h : ∀ s, pre s → raised fault s) :
    Triple pre (MonadExcept.throw fault : Act σ α) post raised where
  ok _ hrun := by cases hrun
  error hs hrun := by
    cases hrun
    exact h _ hs

theorem get {post : σ → σ → Prop} (h : ∀ s, pre s → post s s) :
    Triple pre (MonadState.get : Act σ σ) post raised where
  ok hs hrun := by
    cases hrun
    exact h _ hs
  error _ hrun := by cases hrun

theorem modify {f : σ → σ} {post : Unit → σ → Prop} (h : ∀ s, pre s → post () (f s)) :
    Triple pre (modify f : Act σ Unit) post raised where
  ok hs hrun := by
    cases hrun
    exact h _ hs
  error _ hrun := by cases hrun

/-- What a computation keeps may be relied on before and after it. -/
theorem keeping {kept : σ → Prop} (h : Triple pre act post raised)
    (hkept : Within (Keeping kept) act) :
    Triple (fun s => kept s ∧ pre s) act (fun a s => kept s ∧ post a s)
      fun fault s => kept s ∧ raised fault s where
  ok hs hrun := ⟨after_of_ok hrun ▸ hkept _ hs.1, h.ok hs.2 hrun⟩
  error hs hrun := ⟨after_of_error hrun ▸ hkept _ hs.1, h.error hs.2 hrun⟩

theorem of_within {kept : σ → Prop} (h : Within (Keeping kept) act) :
    Triple kept act (fun _ => kept) fun _ => kept where
  ok hs hrun := after_of_ok hrun ▸ h _ hs
  error hs hrun := after_of_error hrun ▸ h _ hs

/-- A promise that is the same at the end as at the beginning is kept. -/
theorem within {kept : σ → Prop} (h : Triple kept act (fun _ => kept) fun _ => kept) :
    Within (Keeping kept) act := by
  intro s hs
  cases hrun : act.run s with
  | ok a s' => exact after_of_ok hrun ▸ h.ok hs hrun
  | error fault s' => exact after_of_error hrun ▸ h.error hs hrun

theorem bind {next : α → Act σ β} {mid : α → σ → Prop} {post : β → σ → Prop}
    (first : Triple pre act mid raised) (later : ∀ a, Triple (mid a) (next a) post raised) :
    Triple pre (act >>= next) post raised where
  ok hs hrun := by
    obtain ⟨a, middle, hact, hnext⟩ := bind_ok_iff.mp hrun
    exact (later a).ok (first.ok hs hact) hnext
  error hs hrun := by
    rcases bind_error_iff.mp hrun with hact | ⟨a, middle, hact, hnext⟩
    · exact first.error hs hact
    · exact (later a).error (first.ok hs hact) hnext

/-- A sequence with its middle written out. -/
theorem via {next : α → Act σ β} (mid : α → σ → Prop) {post : β → σ → Prop}
    (first : Triple pre act mid raised) (later : ∀ a, Triple (mid a) (next a) post raised) :
    Triple pre (act >>= next) post raised := bind first later

/-- What follows a failure does not happen. -/
theorem throw_bind {fault : Fault} {next : α → Act σ β} {post : β → σ → Prop}
    (h : ∀ s, pre s → raised fault s) :
    Triple pre ((MonadExcept.throw fault : Act σ α) >>= next) post raised where
  ok _ hrun := by cases hrun
  error hs hrun := by
    cases hrun
    exact h _ hs

theorem ofExcept {value : Except Fault α} (hok : ∀ a, value = .ok a → ∀ s, pre s → post a s)
    (herror : ∀ fault, value = .error fault → ∀ s, pre s → raised fault s) :
    Triple pre (Act.ofExcept value : Act σ α) post raised := by
  cases value with
  | ok a => exact pure (hok a rfl)
  | error fault => exact throw (herror fault rfl)

/-- A captured computation does not fail: its failure is a value. -/
theorem capture {captured : Except Fault α → σ → Prop}
    (h : Triple pre act (fun a => captured (.ok a)) fun fault => captured (.error fault)) :
    Triple pre act.capture captured raised where
  ok {s result s'} hs hrun := by
    rw [run_capture] at hrun
    cases hrun
    cases hact : act.run s with
    | ok a s' =>
      rw [result_of_ok hact, after_of_ok hact]
      exact h.ok hs hact
    | error fault s' =>
      rw [result_of_error hact, after_of_error hact]
      exact h.error hs hact
  error {s fault s'} hs hrun := by
    rw [run_capture] at hrun
    cases hrun

/-- Both ways out of a captured computation go on. -/
theorem capture_bind {next : Except Fault α → Act σ β} {post' : β → σ → Prop}
    {raised' : Fault → σ → Prop} (h : Triple pre act post raised)
    (hok : ∀ a, Triple (post a) (next (.ok a)) post' raised')
    (herror : ∀ fault, Triple (raised fault) (next (.error fault)) post' raised') :
    Triple pre (act.capture >>= next) post' raised' := by
  refine .pointwise fun s hs => .of_run (bind_of_ok (run_capture act s)) ?_
  cases hrun : act.run s with
  | ok a s' =>
    rw [result_of_ok hrun, after_of_ok hrun]
    exact (hok a).weaken (fun _ h' => h' ▸ h.ok hs hrun) (fun _ _ h => h) fun _ _ h => h
  | error fault s' =>
    rw [result_of_error hrun, after_of_error hrun]
    exact (herror fault).weaken (fun _ h' => h' ▸ h.error hs hrun) (fun _ _ h => h) fun _ _ h => h

/-- An operation on a part keeps its triple. -/
theorem focus {part : σ → τ} {replace : τ → σ → σ} {act : Act τ α}
    (h : ∀ s, pre s → Triple (· = part s) act (fun a t => post a (replace t s))
      fun fault t => raised fault (replace t s)) :
    Triple pre (Act.focus part replace act) post raised where
  ok {s a s'} hs hrun := by
    cases hact : act.run (part s) with
    | ok b t =>
      rw [focus_ok hact] at hrun
      cases hrun
      exact (h s hs).ok rfl hact
    | error fault t =>
      rw [focus_error hact] at hrun
      cases hrun
  error {s fault s'} hs hrun := by
    cases hact : act.run (part s) with
    | ok b t =>
      rw [focus_ok hact] at hrun
      cases hrun
    | error other t =>
      rw [focus_error hact] at hrun
      cases hrun
      exact (h s hs).error rfl hact

end Triple

end UdpTransport.Act
