import UdpTransport.Proofs.Effects

/-!
# Watching a computation

Some statements are about what happens on the way and not about the state at the end: which
callbacks are made, in which order, and what fails. A computation is watched by writing it once more
with notes at the points of interest (`Watched.noting`), and proving that it does what the original
does, whatever it fails with (`Watched.Follows`). What it notes then is a fact about the original.
-/

namespace UdpTransport

/-- A computation that takes notes. -/
abbrev Watched (σ τ α : Type) := Act (σ × List τ) α

namespace Watched

variable {σ τ α β : Type}

/-- Runs a computation and notes something about its result and the state that it leaves. -/
def noting (act : Act σ α) (notes : Except Fault α → σ → List τ) : Watched σ τ α := fun s =>
  match act.run s.1 with
  | .ok a s' => .ok a (s', s.2 ++ notes (.ok a) s')
  | .error fault s' => .error fault (s', s.2 ++ notes (.error fault) s')

/-- Runs a computation that is of no interest. -/
def quietly (act : Act σ α) : Watched σ τ α := noting act fun _ _ => []

/-- Notes something and does nothing. -/
def mark (trace : List τ) : Watched σ τ Unit := noting (pure ()) fun _ _ => trace

/-- What is noted on the way from a state. -/
def notes (watched : Watched σ τ α) (s : σ) : List τ := (watched.after (s, [])).2

/-- A result together with notes. -/
def withNotes (trace : List τ) : EStateM.Result Fault σ α → EStateM.Result Fault (σ × List τ) α
  | .ok a s => .ok a (s, trace)
  | .error fault s => .error fault (s, trace)

/-- From a state, a watched computation does what the original does, and notes a trace. -/
def Follows (watched : Watched σ τ α) (act : Act σ α) (s : σ) (trace : List τ) : Prop :=
  ∀ before, watched.run (s, before) = withNotes (before ++ trace) (act.run s)

section Follows

variable {watched : Watched σ τ α} {act : Act σ α} {s middle : σ} {a : α} {fault : Fault}
  {trace first second : List τ}

/-- What is watched gives what it would give unwatched. -/
theorem Follows.result (h : Follows watched act s trace) (before : List τ) :
    watched.result (s, before) = act.result s := by
  unfold Act.result
  rw [h before]
  cases act.run s <;> rfl

/-- It leaves what it would leave, and its notes. -/
theorem Follows.after (h : Follows watched act s trace) (before : List τ) :
    watched.after (s, before) = (act.after s, before ++ trace) := by
  unfold Act.after
  rw [h before]
  cases act.run s <;> rfl

theorem Follows.notes_eq (h : Follows watched act s trace) : notes watched s = trace :=
  congrArg Prod.snd (h.after [])

/-- A step is noted once it is over, with its result. -/
theorem follows_noting (act : Act σ α) (what : Except Fault α → σ → List τ) (s : σ) :
    Follows (noting act what) act s (what (act.result s) (act.after s)) := by
  intro before
  show (match act.run s with | .ok a s' => _ | .error fault s' => _) = _
  cases h : act.run s with
  | ok a s' => rw [Act.result_of_ok h, Act.after_of_ok h]; rfl
  | error fault s' => rw [Act.result_of_error h, Act.after_of_error h]; rfl

theorem follows_quietly (act : Act σ α) (s : σ) :
    Follows (quietly act : Watched σ τ α) act s [] := follows_noting act _ s

theorem follows_pure (a : α) (s : σ) : Follows (pure a : Watched σ τ α) (pure a) s [] := by
  intro before
  simp [withNotes]

theorem follows_throw (fault : Fault) (s : σ) :
    Follows (throw fault : Watched σ τ α) (throw fault) s [] := by
  intro before
  simp [withNotes]

variable {later : α → Watched σ τ β} {next : α → Act σ β}

/-- After a step that succeeds the notes go on. -/
theorem Follows.bind_ok (h : Follows watched act s first) (hrun : act.run s = .ok a middle)
    (hnext : Follows (later a) (next a) middle second) :
    Follows (watched >>= later) (act >>= next) s (first ++ second) := by
  intro before
  have hwatched : watched.run (s, before) = .ok a (middle, before ++ first) := by
    rw [h before, hrun]
    rfl
  rw [Act.bind_of_ok hwatched, Act.bind_of_ok hrun, hnext, List.append_assoc]

/-- After one that fails there are none. -/
theorem Follows.bind_error (h : Follows watched act s trace)
    (hrun : act.run s = .error fault middle) :
    Follows (watched >>= later) (act >>= next) s trace := by
  intro before
  have hwatched : watched.run (s, before) = .error fault (middle, before ++ trace) := by
    rw [h before, hrun]
    rfl
  rw [Act.bind_of_error hwatched, Act.bind_of_error hrun]
  rfl

/-- A step of no interest leaves no trace. -/
theorem Follows.quiet (hrun : act.run s = .ok a middle)
    (hnext : Follows (later a) (next a) middle trace) :
    Follows (quietly act >>= later) (act >>= next) s trace :=
  (follows_quietly act s).bind_ok hrun hnext

/-- A mark leaves its trace before what comes after it. -/
theorem Follows.marked {watched : Watched σ τ β} {act : Act σ β}
    (h : Follows watched act s second) :
    Follows (mark first >>= fun _ => watched) act s (first ++ second) := by
  intro before
  have hmark : (mark first : Watched σ τ Unit).run (s, before) = .ok () (s, before ++ first) := rfl
  rw [Act.bind_of_ok hmark, h, List.append_assoc]

/-- A fault that is caught is no note. -/
theorem Follows.capture (h : Follows watched act s trace) :
    Follows watched.capture act.capture s trace := by
  intro before
  cases hrun : act.run s with
  | ok a s' =>
    have hwatched : watched.run (s, before) = .ok a (s', before ++ trace) := by
      rw [h before, hrun]
      rfl
    rw [Act.run_capture_ok hwatched, Act.run_capture_ok hrun]
    rfl
  | error fault s' =>
    have hwatched : watched.run (s, before) = .error fault (s', before ++ trace) := by
      rw [h before, hrun]
      rfl
    rw [Act.run_capture_error hwatched, Act.run_capture_error hrun]
    rfl

theorem follows_ofExcept (value : Except Fault α) (s : σ) :
    Follows (Act.ofExcept value : Watched σ τ α) (Act.ofExcept value) s [] := by
  cases value with
  | ok a => exact follows_pure a s
  | error fault => exact follows_throw fault s

/-- The closing step comes after everything else, whatever that came to. -/
theorem Follows.ensuring {closing' : Watched σ τ Unit} {closing : Act σ Unit}
    (h : Follows watched act s first) (hclosing : Follows closing' closing (act.after s) second) :
    Follows (watched.ensuring closing') (act.ensuring closing) s (first ++ second) := by
  refine h.capture.bind_ok (Act.run_capture act s) ?_
  cases hrun : closing.run (act.after s) with
  | ok _ closed =>
    rw [← List.append_nil second]
    exact hclosing.bind_ok hrun (follows_ofExcept (act.result s) closed)
  | error fault closed => exact hclosing.bind_error hrun

end Follows

/-! ## Runs that succeed -/

/-- From a state, a watched computation and the original succeed alike, and a trace is noted. -/
structure Yields (watched : Watched σ τ α) (act : Act σ α) (s : σ) (a : α) (s' : σ)
    (trace : List τ) : Prop where
  run : act.run s = .ok a s'
  follows : Follows watched act s trace

section Yields

variable {watched : Watched σ τ α} {act : Act σ α} {s middle s' : σ} {a : α} {b : β}
  {first second : List τ}

theorem yields_pure (a : α) (s : σ) : Yields (pure a : Watched σ τ α) (pure a) s a s [] :=
  ⟨rfl, follows_pure a s⟩

theorem yields_quietly (hrun : act.run s = .ok a s') :
    Yields (quietly act : Watched σ τ α) act s a s' [] :=
  ⟨hrun, follows_quietly act s⟩

/-- A step that succeeds is noted with its value. -/
theorem yields_noting (hrun : act.run s = .ok a s') (what : Except Fault α → σ → List τ) :
    Yields (noting act what) act s a s' (what (.ok a) s') := by
  have hfollows := follows_noting act what s
  rw [Act.result_of_ok hrun, Act.after_of_ok hrun] at hfollows
  exact ⟨hrun, hfollows⟩

variable {later : α → Watched σ τ β} {next : α → Act σ β}

/-- Notes of one step after the other. -/
theorem Yields.bind (h : Yields watched act s a middle first)
    (hnext : Yields (later a) (next a) middle b s' second) :
    Yields (watched >>= later) (act >>= next) s b s' (first ++ second) :=
  ⟨(Act.bind_of_ok h.run).trans hnext.run, h.follows.bind_ok h.run hnext.follows⟩

/-- A step that is not noted. -/
theorem Yields.quiet (hrun : act.run s = .ok a middle)
    (hnext : Yields (later a) (next a) middle b s' second) :
    Yields (quietly act >>= later) (act >>= next) s b s' second :=
  (yields_quietly hrun).bind hnext

theorem Yields.capture (h : Yields watched act s a s' first) :
    Yields watched.capture act.capture s (.ok a) s' first :=
  ⟨Act.run_capture_ok h.run, h.follows.capture⟩

end Yields

end Watched

end UdpTransport
