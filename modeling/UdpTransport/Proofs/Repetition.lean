import UdpTransport.Proofs.Calls

/-!
# Repeated calls

A call that was interrupted is made again as it was. Of the answers laid down for it, the
interruptions at the front only tell how often that happens (`Plan.interruptions`), and the first
other answer decides what comes of it (`Plan.lasting`). **The main result is `Socket.run_persist`**:
a call is made once for each interruption and once more, and gives what the answer that lasts says.
-/

namespace UdpTransport

/-! ## The answers to a repeated call -/

/-- What a repeated call is answered: the first answer laid down that is not an interruption. -/
def Plan.lasting {α : Type} : Plan α → Option (Answer α)
  | some (.failure code) :: rest =>
    if code = ErrorCode.interrupted then Plan.lasting rest else some (.failure code)
  | head :: _ => head
  | [] => none

/-- How often a repeated call is interrupted. -/
def Plan.interruptions {α : Type} : Plan α → Nat
  | some (.failure code) :: rest =>
    if code = ErrorCode.interrupted then Plan.interruptions rest + 1 else 0
  | _ => 0

/-- An answer to a call that a signal interrupted. -/
def Answer.interrupted {α : Type} : Answer α := .failure ErrorCode.interrupted

namespace Plan

variable {α : Type}

theorem lasting_interrupted (rest : Plan α) :
    lasting (some .interrupted :: rest) = lasting rest := by
  rw [Answer.interrupted, lasting, if_pos rfl]

theorem interruptions_interrupted (rest : Plan α) :
    interruptions (some .interrupted :: rest) = interruptions rest + 1 := by
  rw [Answer.interrupted, interruptions, if_pos rfl]

theorem lasting_cons {head : Option (Answer α)} (h : head ≠ some .interrupted) (rest : Plan α) :
    lasting (head :: rest) = head := by
  unfold lasting
  split
  · rename_i code others heq
    obtain ⟨rfl, -⟩ := List.cons_eq_cons.mp heq
    exact if_neg fun hcode => h (by rw [hcode, Answer.interrupted])
  · rename_i heq
    exact (List.cons_eq_cons.mp heq).1.symm
  · rename_i heq
    cases heq

theorem interruptions_cons {head : Option (Answer α)} (h : head ≠ some .interrupted)
    (rest : Plan α) : interruptions (head :: rest) = 0 := by
  unfold interruptions
  split
  · rename_i code others heq
    obtain ⟨rfl, -⟩ := List.cons_eq_cons.mp heq
    exact if_neg fun hcode => h (by rw [hcode, Answer.interrupted])
  · rfl

/-- Interruptions do not decide what lasts. -/
theorem lasting_append (count : Nat) {later : Plan α} (h : later.head? ≠ some (some .interrupted)) :
    lasting (List.replicate count (some .interrupted) ++ later) = later.head?.join := by
  induction count with
  | succ count ih => rw [List.replicate_succ, List.cons_append, lasting_interrupted, ih]
  | zero =>
    cases later with
    | nil => rfl
    | cons head rest => exact lasting_cons (fun heq => h (by rw [heq, List.head?_cons])) rest

theorem interruptions_append (count : Nat) {later : Plan α}
    (h : later.head? ≠ some (some .interrupted)) :
    interruptions (List.replicate count (some .interrupted) ++ later) = count := by
  induction count with
  | succ count ih => rw [List.replicate_succ, List.cons_append, interruptions_interrupted, ih]
  | zero =>
    cases later with
    | nil => rfl
    | cons head rest => exact interruptions_cons (fun heq => h (by rw [heq, List.head?_cons])) rest

theorem interruptions_le_length (plan : Plan α) : interruptions plan ≤ plan.length := by
  fun_induction interruptions plan with
  | case1 rest ih => exact Nat.succ_le_succ ih
  | case2 => exact Nat.zero_le _
  | case3 => exact Nat.zero_le _

end Plan

/-! ## The calls that were made -/

/-- The system call that an event is. -/
def Event.made? : Event → Option SystemCall
  | .call made _ => some made
  | _ => none

namespace Native

/-- The system calls that were made, in order. -/
def calls (native : Native) : List SystemCall := native.journal.toList.filterMap Event.made?

theorem calls_record (event : Event) (native : Native) :
    ((record event).after native).calls = native.calls ++ event.made?.toList := by
  show (native.journal.push event).toList.filterMap Event.made? = _
  rw [Array.toList_push, List.filterMap_append]
  cases hmade : event.made? with
  | none => rw [List.filterMap_cons_none hmade]; rfl
  | some made => rw [List.filterMap_cons_some hmade]; rfl

theorem calls_called {α : Type} (native : Native) (call : SystemCall) (result : α → Int)
    (run : Kernel → Answer α × Kernel) :
    (native.called call result run).calls = native.calls ++ [call] := by
  show (native.journal.push (.call call _)).toList.filterMap Event.made? = _
  rw [Array.toList_push, List.filterMap_append]
  rfl

/-- To log is no call. -/
theorem within_calls_writeLog (level : Log.Level) (tag text : String) :
    Act.Within (Act.Fixing calls) (writeLog level tag text) :=
  within_writeLog_of (fun level tag text native => by
      rw [Act.Fixing, calls_record]
      exact List.append_nil _)
    (fun _ _ => rfl) level tag text

end Native

/-! ## Calls and their plans -/

namespace Answer

variable {α β : Type}

/-- What a caller is told by an answer that was laid down: a number below zero is a failure without
an error number of its own. -/
def told (given : α → β) (result : β → Int) (answer : Answer α) : Answer β :=
  (answer.map given).failIf (fun b => result b < 0) 0

theorem told_of_nonneg {result : β → Int} (h : ∀ b, 0 ≤ result b) (given : α → β)
    (answer : Answer α) : answer.told given result = answer.map given := by
  cases answer with
  | failure code => rfl
  | value a => exact if_neg (by simpa using h (given a))

/-- Only an interruption is told as one. -/
theorem told_ne_interrupted {given : α → β} {result : β → Int} {answer : Answer α}
    (h : answer ≠ .interrupted) : answer.told given result ≠ .interrupted := by
  cases answer with
  | failure code => exact fun heq => h (congrArg Answer.failure (Answer.failure.inj heq))
  | value a =>
    rw [told, map, failIf]
    split
    · exact fun heq => absurd (Answer.failure.inj heq) (by decide)
    · exact nofun

end Answer

/-- A kind of call that changes nothing but the plan of its answers. -/
structure Line (α β : Type) where
  plan : Script → Plan α
  /-- Uses up an answer. -/
  drop : Script → Script
  /-- What a caller sees of a value that was laid down. -/
  given : α → β
  /-- The answer where none is laid down. -/
  own : Answer α
  plan_drop : ∀ script, plan (drop script) = (plan script).tail
  own_ne : own ≠ .interrupted

namespace Line

variable {α β : Type} (line : Line α β)

/-- The call as the kernel answers it. -/
def run : Kernel → Answer β × Kernel :=
  Kernel.answer line.plan line.drop line.given fun kernel => (line.own.map line.given, kernel)

/-- The answer that decides what comes of a call. -/
def lasting (native : Native) : Answer α := (line.plan native.kernel.script).lasting.getD line.own

/-- How often a call is interrupted. -/
def interruptions (native : Native) : Nat := (line.plan native.kernel.script).interruptions

variable {line} {native : Native}

/-- The caller is told what the kernel answered, and the call was made. -/
theorem run_perform {answer : Answer α} (h : (line.run native.kernel).1 = answer.map line.given)
    (call : SystemCall) (result : β → Int) :
    ∃ native', (Native.perform call result line.run).run native =
        .ok (answer.told line.given result) native' ∧
      native'.calls = native.calls ++ [call] ∧ native'.kernel = (line.run native.kernel).2 := by
  refine ⟨_, ?_, Native.calls_called native call result _, rfl⟩
  rw [Native.run_perform, Native.called, h, Answer.told]
  cases answer with
  | failure code => rfl
  | value a =>
    by_cases hnegative : result (line.given a) < 0 <;>
      simp [Answer.map, Answer.failIf, Answer.codeOr, hnegative, h]

end Line

/-! ## Repetition -/

namespace Socket

variable {α β : Type}

theorem run_retry {call : Act Native (Answer β)} {native native' : Native} {answer : Answer β}
    (hcall : call.run native = .ok answer native') (hanswer : answer ≠ .interrupted) (times : Nat) :
    (retry times call).run native = .ok answer native' := by
  cases times with
  | zero => exact hcall
  | succ times =>
    rw [retry, Act.bind_of_ok hcall]
    cases answer with
    | value b => rfl
    | failure code =>
      dsimp only
      rw [if_neg fun hcode => hanswer (by rw [hcode, Answer.interrupted])]
      rfl

theorem run_retry_interrupted {call : Act Native (Answer β)} {native native' : Native}
    (hcall : call.run native = .ok .interrupted native') (times : Nat) :
    (retry (times + 1) call).run native = (retry times call).run native' := by
  rw [retry, Act.bind_of_ok hcall]
  exact congrArg (EStateM.run · native') (if_pos rfl)

variable {line : Line α β} {native : Native}

/-- A call that is not interrupted is made once. -/
theorem run_retry_once {answer : Answer α} (hanswer : answer ≠ .interrupted)
    (h : (line.run native.kernel).1 = answer.map line.given) (call : SystemCall) (result : β → Int)
    (times : Nat) :
    ∃ native', (retry times (Native.perform call result line.run)).run native =
        .ok (answer.told line.given result) native' ∧
      native'.calls = native.calls ++ List.replicate 1 call := by
  obtain ⟨native', hrun, hcalls, -⟩ := Line.run_perform h call result
  exact ⟨native', run_retry hrun (Answer.told_ne_interrupted hanswer) times, hcalls⟩

/-- By induction on the answers that are left: an interruption is used up and the call made again as
it was, and anything else ends the repetition. -/
theorem run_retry_line (line : Line α β) (call : SystemCall) (result : β → Int) {times : Nat}
    (htimes : line.interruptions native ≤ times) :
    ∃ native', (retry times (Native.perform call result line.run)).run native =
        .ok ((line.lasting native).told line.given result) native' ∧
      native'.calls = native.calls ++ List.replicate (line.interruptions native + 1) call := by
  unfold Line.interruptions Line.lasting at *
  generalize hlaid : line.plan native.kernel.script = laid at htimes ⊢
  -- What the system has laid up for this line is used from the front, one answer with each attempt.
  induction laid generalizing native times with
  | nil => exact run_retry_once line.own_ne (by rw [Line.run, Kernel.answer_of_nil hlaid]) _ _ _
  | cons head rest ih =>
    by_cases hhead : head = some .interrupted
    · subst hhead
      have hanswer : line.run native.kernel = (Answer.interrupted.map line.given,
          { native.kernel with script := line.drop native.kernel.script }) := by
        rw [Line.run, Kernel.answer_of_some hlaid]
      have htold : (line.run native.kernel).1 = Answer.interrupted.map line.given := by rw [hanswer]
      obtain ⟨native', hrun, hcalls, hkernel⟩ := Line.run_perform htold call result
      have hrest : line.plan native'.kernel.script = rest := by
        rw [hkernel, hanswer, line.plan_drop, hlaid, List.tail_cons]
      rw [Plan.interruptions_interrupted] at htimes ⊢
      cases times with
      -- The attempts allowed cover the interruptions that are laid up.
      | zero => exact absurd htimes (Nat.not_succ_le_zero _)
      | succ times =>
        obtain ⟨native'', hrun', hcalls'⟩ := ih hrest (Nat.le_of_succ_le_succ htimes)
        refine ⟨native'', ?_, ?_⟩
        · rw [Plan.lasting_interrupted, run_retry_interrupted hrun, hrun']
        · rw [hcalls', hcalls, List.append_assoc, List.singleton_append, ← List.replicate_succ]
    · rw [Plan.lasting_cons hhead, Plan.interruptions_cons hhead]
      cases head with
      | none =>
        exact run_retry_once line.own_ne (by rw [Line.run, Kernel.answer_of_none hlaid]) _ _ _
      | some answer =>
        exact run_retry_once (fun heq => hhead (congrArg some heq))
          (by rw [Line.run, Kernel.answer_of_some hlaid]) _ _ _

/-- **A call is made once for each interruption and once more**, and gives what lasts. -/
theorem run_persist (line : Line α β) (call : SystemCall) (result : β → Int) (native : Native) :
    ∃ native', (persist line.plan (Native.perform call result line.run)).run native =
        .ok ((line.lasting native).told line.given result) native' ∧
      native'.calls = native.calls ++ List.replicate (line.interruptions native + 1) call := by
  rw [persist, Act.bind_of_ok (EStateM.run_get native)]
  exact run_retry_line line call result (Plan.interruptions_le_length _)

end Socket

/-! ## The calls that transfer datagrams -/

namespace Line

/-- Receives into `room` bytes. -/
def receive (room : Nat) : Line Bytes Bytes where
  plan := Script.receive
  drop script := { script with receive := script.receive.tail }
  given bytes := bytes.take room
  own := .failure ErrorCode.tryAgain
  plan_drop _ := rfl
  own_ne heq := absurd (Answer.failure.inj heq) (by decide)

/-- Receives into `room` bytes, with the sender and control messages. -/
def receiveMessage (room controlRoom : Nat) : Line Arrival Reception where
  plan := Script.receiveMessage
  drop script := { script with receiveMessage := script.receiveMessage.tail }
  given arrival :=
    { bytes := arrival.bytes.take room
      sender := arrival.sender
      control := ControlMessage.store controlRoom arrival.controls
      truncated := room < arrival.bytes.length }
  own := .failure ErrorCode.tryAgain
  plan_drop _ := rfl
  own_ne heq := absurd (Answer.failure.inj heq) (by decide)

/-- Sends regions as one datagram. -/
def sendMessage (regions : List Region) : Line Int Int where
  plan := Script.sendMessage
  drop script := { script with sendMessage := script.sendMessage.tail }
  given := id
  own := .value (Kernel.totalLength regions)
  plan_drop _ := rfl
  own_ne := nofun

theorem run_receive (room : Nat) : (receive room).run = Kernel.receive room := rfl

theorem run_receiveMessage (room controlRoom : Nat) :
    (receiveMessage room controlRoom).run = Kernel.receiveMessage room controlRoom := rfl

theorem run_sendMessage (regions : List Region) :
    (sendMessage regions).run = Kernel.sendMessage regions := rfl

end Line

end UdpTransport
