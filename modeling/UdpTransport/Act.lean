import UdpTransport.Fault

/-!
# Computations that fail and keep their effects

An operation of the transport works on some state and may fail halfway. What it did up to then
stays done: `Act σ α` is a state computation whose failure carries the state reached. Operations
on a part of the state are used on the whole through `Act.focus`.

`Act.capture` turns a failure into a value, which is how a caller decides what to do about it;
`Act.ensuring` runs a closing step on both ways out.
-/

namespace UdpTransport

/-- A computation on the state `σ`. A failure keeps the state reached so far. -/
abbrev Act (σ α : Type) := EStateM Fault σ α

namespace Act

variable {σ τ α : Type}

/-- Runs a computation on a part of the state. -/
def focus (part : σ → τ) (replace : τ → σ → σ) (act : Act τ α) : Act σ α := fun s =>
  match act.run (part s) with
  | .ok a t => .ok a (replace t s)
  | .error fault t => .error fault (replace t s)

/-- Runs a computation and gives its failure as a value. -/
def capture (act : Act σ α) : Act σ (Except Fault α) := fun s =>
  match act.run s with
  | .ok a s' => .ok (.ok a) s'
  | .error fault s' => .ok (.error fault) s'

/-- A value that may be a failure, as a computation. -/
def ofExcept : Except Fault α → Act σ α
  | .ok a => pure a
  | .error fault => throw fault

/-- Fails because a rule of the transport was broken. -/
def violate (rule : Violation) : Act σ α := throw (.violation rule)

/-- Runs a closing step whether or not the computation fails; a failure of the closing step
replaces an earlier one. -/
def ensuring (act : Act σ α) (closing : Act σ Unit) : Act σ α := do
  let result ← act.capture
  closing
  ofExcept result

instance : MonadLift (Except Fault) (EStateM Fault σ) := ⟨ofExcept⟩

theorem run_capture_ok {act : Act σ α} {s s' : σ} {a : α} (h : act.run s = .ok a s') :
    act.capture.run s = .ok (.ok a) s' := by
  show (match act.run s with | .ok a s' => _ | .error fault s' => _) = _
  rw [h]

theorem run_capture_error {act : Act σ α} {s s' : σ} {fault : Fault}
    (h : act.run s = .error fault s') : act.capture.run s = .ok (.error fault) s' := by
  show (match act.run s with | .ok a s' => _ | .error fault s' => _) = _
  rw [h]

end Act

end UdpTransport
