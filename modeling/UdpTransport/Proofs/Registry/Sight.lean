import UdpTransport.Proofs.Interest.Board
import UdpTransport.Proofs.Lifecycle.Refusal

/-!
# What interest sets depend on

Of all that happens on the native side, interest sets depend on little: on the tables of the event
loops, on the calls that change an interest set or close a descriptor, and on the answers laid down
for such changes. `Native.sight` collects this, together with what observers are told. Logging and
all other calls leave it alone.

A change of an interest set is written down with the answer that its caller acts on, provided that
the answers laid down are numbers of 32 bits (`Native.run_asking`).
-/

namespace UdpTransport

namespace Event

/-- Whether an event is a call that an interest set of the system depends on. -/
def stirs : Event → Bool
  | call (.changeInterest ..) _ => true
  | call (.close _) _ => true
  | _ => false

/-- Whether an event has to do with interest, on whatever side. -/
def matters (event : Event) : Bool := event.isTelling || event.stirs

end Event

namespace Kernel

/-- A call that has its own answers, and by itself does nothing to the script, leaves those to
changes of interest sets in place. -/
theorem changeInterest_answer {α β : Type} {plan : Script → Plan α} {drop : Script → Script}
    {given : α → β} {own : Kernel → Answer β × Kernel}
    (hdrop : ∀ script, (drop script).changeInterest = script.changeInterest)
    (hown : ∀ kernel, (own kernel).2.script = kernel.script) (kernel : Kernel) :
    (answer plan drop given own kernel).2.script.changeInterest =
      kernel.script.changeInterest :=
  within_answer (R := Act.Fixing fun kernel : Kernel => kernel.script.changeInterest)
    (fun kernel => hdrop kernel.script)
    (fun kernel => congrArg Script.changeInterest (hown kernel)) kernel

/-- The same for a call that stores something. -/
theorem changeInterest_storing {plan : Script → Plan Int} {drop : Script → Script}
    {effect : Kernel → Kernel}
    (hdrop : ∀ script, (drop script).changeInterest = script.changeInterest)
    (heffect : ∀ kernel, (effect kernel).script = kernel.script) (kernel : Kernel) :
    (storing plan drop effect kernel).2.script.changeInterest = kernel.script.changeInterest :=
  within_storing (R := Act.Fixing fun kernel : Kernel => kernel.script.changeInterest)
    (fun kernel => hdrop kernel.script)
    (fun kernel => congrArg Script.changeInterest (heffect kernel)) kernel

end Kernel

/-- What interest sets depend on. -/
structure Sight where
  loops : List (Option Loop)
  /-- The events that matter, in order. -/
  trail : List Event
  /-- The answers laid down for changes of interest sets. -/
  answers : Plan Int

/-- The part of the native side that interest sets depend on. -/
def Native.sight (native : Native) : Sight where
  loops := native.loops
  trail := native.journal.toList.filter Event.matters
  answers := native.kernel.script.changeInterest

namespace Sight

/-- One event more that matters. -/
def heard (sight : Sight) (event : Event) : Sight := { sight with trail := sight.trail ++ [event] }

/-- A change of an interest set was asked for and answered. -/
def asked (sight : Sight) (call : SystemCall) (seen : Answer Int) : Sight :=
  { sight.heard (.call call seen) with answers := sight.answers.tail }

end Sight

namespace Native

variable {native native' : Native}

/-- The interest of registrations shows in what interest sets depend on. -/
theorem board_of_sight (h : native'.sight = native.sight) : native'.board = native.board := by
  have htold (journal : List Event) :
      (journal.filter Event.matters).filter Event.isTelling = journal.filter Event.isTelling := by
    rw [List.filter_filter]
    refine List.filter_congr fun event _ => ?_
    cases htelling : event.isTelling <;> simp [Event.matters, htelling]
  have htrail := congrArg (fun sight => sight.trail.filter Event.isTelling) h
  simp only [sight, htold] at htrail
  have hloops : native'.loops = native.loops := congrArg Sight.loops h
  have hanswers := congrArg Sight.answers h
  simp only [sight] at hanswers
  simp only [board, hloops, htrail, hanswers]

theorem sight_push (event : Event) (native : Native) :
    ({ native with journal := native.journal.push event } : Native).sight =
      if event.matters then native.sight.heard event else native.sight := by
  by_cases hmatters : event.matters <;>
    simp [sight, Sight.heard, Array.toList_push, List.filter_append, hmatters]

theorem within_sight_record {event : Event} (h : event.matters = false) :
    Act.Within (Act.Fixing sight) (record event) := fun native =>
  (sight_push event native).trans (if_neg (by simp [h]))

theorem within_sight_writeLog (level : Log.Level) (tag text : String) :
    Act.Within (Act.Fixing sight) (writeLog level tag text) :=
  within_writeLog_of (fun _ _ _ => within_sight_record rfl) (fun _ _ => rfl) level tag text

section Calls

variable {α : Type} {call : SystemCall} {result : α → Int} {run : Kernel → Answer α × Kernel}

/-- What is written down of the answer to a call. -/
def seen (native : Native) (result : α → Int) (run : Kernel → Answer α × Kernel) : Answer Int :=
  ((run native.kernel).1.map result).failIf (fun number => number < 0) 0

/-- A call that stirs is written down, and so is what it does to the answers laid down. -/
theorem sight_called (hcall : ∀ seen, (Event.call call seen).stirs = true) (result : α → Int)
    (run : Kernel → Answer α × Kernel) (native : Native) :
    (native.called call result run).sight =
      { native.sight.heard (.call call (native.seen result run)) with
        answers := (run native.kernel).2.script.changeInterest } := by
  have hpush := sight_push (.call call (native.seen result run)) native
  rw [if_pos (by simp [Event.matters, hcall])] at hpush
  rw [← hpush]
  rfl

/-- Calls that have nothing to do with interest sets do not show. -/
theorem sight_called_of_calm (hcall : ∀ seen, (Event.call call seen).stirs = false)
    (hrun : ∀ kernel, (run kernel).2.script.changeInterest = kernel.script.changeInterest)
    (native : Native) : (native.called call result run).sight = native.sight := by
  have hpush := sight_push (.call call (native.seen result run)) native
  rw [if_neg (by simp [Event.matters, Event.isTelling, hcall])] at hpush
  have hsight : (native.called call result run).sight =
      { native.sight with answers := (run native.kernel).2.script.changeInterest } := by
    rw [← hpush]
    rfl
  rw [hsight, hrun native.kernel]
  rfl

theorem within_sight_perform (hcall : ∀ seen, (Event.call call seen).stirs = false)
    (hrun : ∀ kernel, (run kernel).2.script.changeInterest = kernel.script.changeInterest) :
    Act.Within (Act.Fixing sight) (perform call result run) := fun native =>
  (congrArg sight (Act.after_of_ok (run_perform call native result run))).trans
    (sight_called_of_calm hcall hrun native)

theorem within_sight_attempt {run : Kernel → Answer Int × Kernel} {failed : Int → Bool}
    (hcall : ∀ seen, (Event.call call seen).stirs = false)
    (hrun : ∀ kernel, (run kernel).2.script.changeInterest = kernel.script.changeInterest) :
    Act.Within (Act.Fixing sight) (attempt failed call run) := fun native =>
  (congrArg sight (Act.after_of_ok (run_attempt call native failed run))).trans
    (sight_called_of_calm hcall hrun native)

end Calls

/-- A change of an interest set is written down as its caller sees it. -/
theorem run_asking (set : Int) (change : InterestChange) (fd : Int) (data : Option (Nat × Nat))
    (hworded : Kernel.Worded native.sight.answers) :
    ∃ called : Native,
      (∃ number, (attemptStatus (.changeInterest set change fd data) Kernel.changeInterest).run
          native = .ok (.value number) called ∧
        called.sight = native.sight.asked (.changeInterest set change fd data) (.value number)) ∨
      ∃ code seen, (attemptStatus (.changeInterest set change fd data) Kernel.changeInterest).run
          native = .ok (.failure code) called ∧
        called.sight = native.sight.asked (.changeInterest set change fd data) (.failure seen) := by
  refine ⟨native.called (.changeInterest set change fd data) id Kernel.changeInterest, ?_⟩
  have hattempt : (attemptStatus (.changeInterest set change fd data) Kernel.changeInterest).run
      native = _ := run_attempt _ native (fun number => number < 0) Kernel.changeInterest
  have hstirs : ∀ seen, (Event.call (.changeInterest set change fd data) seen).stirs = true :=
    fun _ => rfl
  have hsight := sight_called hstirs id Kernel.changeInterest native
  rw [(Kernel.changeInterest_spec native.kernel).1] at hsight
  unfold seen at hsight
  cases hanswer : (native.kernel.changeInterest).1 with
  | failure code =>
    rw [hanswer] at hattempt hsight
    exact .inr ⟨code, code, hattempt, hsight⟩
  | value number =>
    -- A worded answer is no longer than a word, so its sign is the one that is seen.
    have hnarrow : Number.narrow number = number := Kernel.narrow_of_answer hworded hanswer
    rw [hanswer] at hattempt hsight
    by_cases hnegative : number < 0
    · refine .inr ⟨(native.called (.changeInterest set change fd data) id
        Kernel.changeInterest).lastError, 0, hattempt.trans ?_, hsight.trans ?_⟩
      · simp only [Answer.map, hnarrow, Answer.failIf, hnegative, decide_true, if_true]
      · simp only [Answer.map, id, Answer.failIf, hnegative, decide_true, if_true]
        rfl
    · refine .inl ⟨number, hattempt.trans ?_, hsight.trans ?_⟩
      · simp [Answer.map, hnarrow, Answer.failIf, hnegative]
      · simp only [Answer.map, id, Answer.failIf, hnegative, decide_false]
        rfl

/-- A descriptor that is closed is written down. -/
theorem run_closing (fd : Int) (native : Native) :
    ∃ answer called seen, (Native.close fd).run native = .ok answer called ∧
      called.sight = native.sight.heard (.call (.close fd) seen) := by
  refine ⟨_, native.called (.close fd) id Kernel.close, native.seen id Kernel.close,
    run_attempt (.close fd) native (fun number => number ≠ 0) Kernel.close, ?_⟩
  have hplan : (Kernel.close native.kernel).2.script.changeInterest =
      native.kernel.script.changeInterest := by
    refine Kernel.changeInterest_answer ?_ ?_ native.kernel
    · exact fun _ => rfl
    · exact fun _ => rfl
  rw [sight_called (fun _ => rfl), hplan]
  rfl

end Native

end UdpTransport
