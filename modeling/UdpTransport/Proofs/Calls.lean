import Mathlib.Data.Nat.Bitwise
import UdpTransport.Proofs.Effects
import UdpTransport.Socket.Lifecycle

/-!
# System calls, step by step

What a system call does to the native side is the same for all of them: the kernel answers, a
failure leaves its error number behind, and the call is written down (`Native.called`). Which of the
kernel's numbers are failures to the caller is all that differs (`run_perform`, `run_attempt`).

The kernel answers by its plan, so what a call does is to use up an answer and then, unless that was
laid down, what it does by itself. A relation that both are within holds along the call
(`Kernel.within_answer`) and along its repetition (`Socket.within_persist`).
-/

namespace UdpTransport

/-- What a number of flags says about one of them. -/
theorem Number.and_two_pow (n i : Nat) : n &&& 2 ^ i = n / 2 ^ i % 2 * 2 ^ i := by
  have hbit := Nat.and_two_pow n i
  rw [Nat.testBit_eq_decide_div_mod_eq] at hbit
  have hmod : n / 2 ^ i % 2 = 0 ∨ n / 2 ^ i % 2 = 1 := by omega
  rcases hmod with hmod | hmod <;> simpa [hmod] using hbit

namespace Kernel

section Answers

variable {R : Kernel → Kernel → Prop} [IsPreorder Kernel R]

/-- A call is within what its own steps are within: to use up an answer, and what it does by
itself. -/
theorem within_answer {α β : Type} {plan : Script → Plan α} {drop : Script → Script}
    {given : α → β} {own : Kernel → Answer β × Kernel}
    (hdrop : ∀ kernel, R kernel { kernel with script := drop kernel.script })
    (hown : ∀ kernel, R kernel (own kernel).2) (kernel : Kernel) :
    R kernel (answer plan drop given own kernel).2 := by
  cases hplan : plan kernel.script with
  | nil =>
    rw [answer_of_nil hplan]
    exact hown kernel
  | cons head rest =>
    cases head with
    | none =>
      rw [answer_of_none hplan]
      exact trans_of R (hdrop kernel) (hown _)
    | some answer =>
      rw [answer_of_some hplan]
      exact hdrop kernel

theorem within_storing {plan : Script → Plan Int} {drop : Script → Script}
    {effect : Kernel → Kernel}
    (hdrop : ∀ kernel, R kernel { kernel with script := drop kernel.script })
    (heffect : ∀ kernel, R kernel (effect kernel)) (kernel : Kernel) :
    R kernel (storing plan drop effect kernel).2 := by
  have hanswer : R kernel (answer plan drop id (fun kernel => (.value 0, kernel)) kernel).2 :=
    within_answer hdrop (fun kernel => refl_of R kernel) kernel
  unfold storing
  generalize answer plan drop id _ kernel = outcome at hanswer ⊢
  obtain ⟨answer, kernel'⟩ := outcome
  cases answer with
  | failure code => exact hanswer
  | value n =>
    dsimp only
    split
    · exact hanswer
    · exact trans_of R hanswer (heffect kernel')

end Answers

/-- Where a number is answered that was not laid down, it is what the call gives by itself. -/
theorem answer_value {plan : Script → Plan Int} {drop : Script → Script} {kernel : Kernel} {n : Int}
    (h : (answer plan drop id (fun kernel => (.value 0, kernel)) kernel).1 = .value n) :
    n = 0 ∨ some (.value n) ∈ plan kernel.script := by
  cases hplan : plan kernel.script with
  | nil =>
    rw [answer_of_nil hplan] at h
    cases h
    exact .inl rfl
  | cons head rest =>
    cases head with
    | none =>
      rw [answer_of_none hplan] at h
      cases h
      exact .inl rfl
    | some answer =>
      rw [answer_of_some hplan] at h
      cases answer with
      | failure code => cases h
      | value m =>
        cases h
        exact .inr List.mem_cons_self

end Kernel

namespace Native

/-- Logging succeeds and has nothing to do with the kernel. -/
theorem run_writeLog (level : Log.Level) (tag text : String) (native : Native) :
    ∃ native', (writeLog level tag text).run native = .ok () native' ∧
      native'.kernel = native.kernel := by
  unfold writeLog
  rw [Act.bind_of_ok (EStateM.run_get native)]
  by_cases henabled : native.log.threshold.enabled level
  · rw [if_pos henabled]
    cases native.log.sink with
    | journal => exact ⟨_, rfl, rfl⟩
    | console => exact ⟨_, rfl, rfl⟩
  · rw [if_neg henabled]
    exact ⟨native, rfl, rfl⟩

theorem succeeds_writeLog (level : Log.Level) (tag text : String) :
    (writeLog level tag text).Succeeds := fun native =>
  let ⟨native', hrun, _⟩ := run_writeLog level tag text native
  ⟨(), native', hrun⟩

/-- The native side after a system call. -/
def called {α : Type} (native : Native) (call : SystemCall) (result : α → Int)
    (run : Kernel → Answer α × Kernel) : Native :=
  let (answer, kernel) := run native.kernel
  let seen := (answer.map result).failIf (fun number => number < 0) 0
  { native with
    kernel := kernel
    lastError := seen.codeOr native.lastError
    journal := native.journal.push (.call call seen) }

section Calls

variable {α : Type} (call : SystemCall) (native : Native)

theorem run_perform (result : α → Int) (run : Kernel → Answer α × Kernel) :
    (perform call result run).run native =
      .ok ((run native.kernel).1.failIf (fun a => result a < 0)
        (native.called call result run).lastError) (native.called call result run) := rfl

/-- A query fails only if the system says so. -/
theorem run_query (run : Kernel → Answer α × Kernel) :
    (perform call (fun _ => 0) run).run native =
      .ok (run native.kernel).1 (native.called call (fun _ => 0) run) := by
  rw [run_perform]
  cases (run native.kernel).1 <;> rfl

theorem run_attempt (failed : Int → Bool) (run : Kernel → Answer Int × Kernel) :
    (attempt failed call run).run native =
      .ok (((run native.kernel).1.map Number.narrow).failIf failed
        (native.called call id run).lastError) (native.called call id run) := rfl

end Calls

theorem within_orFail {R : Native → Native → Prop} [IsPreorder Native R] {α : Type} (name : String)
    (answer : Answer α) : Act.Within R (orFail name answer) := by
  cases answer with
  | value a => exact Act.within_pure a
  | failure code => exact Act.within_throw _

/-- A log is written to the journal or to the console. -/
theorem within_writeLog_of {R : Native → Native → Prop} [IsPreorder Native R]
    (hrecord : ∀ level tag text, Act.Within R (record (.log level tag text)))
    (hconsole : ∀ native console, R native { native with console := console })
    (level : Log.Level) (tag text : String) : Act.Within R (writeLog level tag text) := by
  intro native
  unfold writeLog
  rw [Act.after_bind_of_ok (EStateM.run_get native)]
  by_cases henabled : native.log.threshold.enabled level
  · rw [if_pos henabled]
    cases native.log.sink with
    | journal => exact hrecord level tag text native
    | console => exact hconsole native _
  · rw [if_neg henabled]
    exact refl_of R native

end Native

namespace Socket

theorem run_current (s : Socket × Native) : current.run s = .ok s.1 s := rfl

theorem within_retry {R : Native → Native → Prop} [IsPreorder Native R] {α : Type}
    {call : Act Native (Answer α)} (h : Act.Within R call) (times : Nat) :
    Act.Within R (retry times call) := by
  induction times with
  | zero => exact h
  | succ times ih =>
    refine Act.within_bind h fun answer => ?_
    cases answer with
    | value a => exact Act.within_pure _
    | failure code =>
      dsimp only
      split
      · exact ih
      · exact Act.within_pure _

theorem succeeds_retry {α : Type} {call : Act Native (Answer α)} (h : call.Succeeds) (times : Nat) :
    (retry times call).Succeeds := by
  induction times with
  | zero => exact h
  | succ times ih =>
    refine Act.succeeds_bind h fun answer => ?_
    cases answer with
    | value a => exact Act.succeeds_pure _
    | failure code =>
      dsimp only
      split
      · exact ih
      · exact Act.succeeds_pure _

theorem within_persist {R : Native → Native → Prop} [IsPreorder Native R] {α β : Type}
    (plan : Script → Plan β) {call : Act Native (Answer α)} (h : Act.Within R call) :
    Act.Within R (persist plan call) :=
  Act.within_bind Act.within_get fun _ => within_retry h _

theorem succeeds_persist {α β : Type} (plan : Script → Plan β) {call : Act Native (Answer α)}
    (h : call.Succeeds) : (persist plan call).Succeeds := fun native => succeeds_retry h _ native

/-- A socket can always be given up; what stands against it is logged. -/
theorem succeeds_drop (socket : Socket) : socket.drop.Succeeds := by
  unfold drop
  split
  · refine Act.succeeds_bind (fun native => ⟨_, _, Native.run_attempt ..⟩) fun answer => ?_
    cases answer with
    | value _ => exact Act.succeeds_pure ()
    | failure code => exact Native.succeeds_writeLog _ _ _
  · exact Act.succeeds_pure ()

theorem succeeds_vacate (socket : Socket) : socket.vacate.Succeeds := by
  unfold vacate
  split
  · exact Act.succeeds_bind (fun native => ⟨_, _, Native.run_attempt ..⟩) fun _ =>
      Act.succeeds_pure ()
  · exact Act.succeeds_pure ()

end Socket

end UdpTransport
