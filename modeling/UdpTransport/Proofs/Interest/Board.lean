import UdpTransport.Proofs.Calls

/-!
# The interest of a registration

Whether a channel waits to read or to write is kept by whoever it is registered with: an event loop
keeps a number per entry, one bit for each kind of readiness, and an observer goes by what it was
told last. `Board` collects what of the native side this rests on, and `Board.waits` reads it off.

The main statement is `Registration.setInterest_spec`. A registration that is there and is told of a
readiness has that one as it was told and the other one as it was, unless the system refuses the
change; an obliging system refuses none.
-/

namespace UdpTransport

/-- What a channel can wait for. -/
inductive Readiness where
  | reading
  | writing
  deriving DecidableEq, Repr

namespace Readiness

/-- The bit of a readiness in the interest of an entry. -/
def flag : Readiness → Nat
  | reading => Number.readable
  | writing => Number.writable

/-- The interest after one readiness was switched on or off. -/
def switch (readiness : Readiness) (interest : Nat) (wanted : Bool) : Nat :=
  let others := interest - (interest &&& readiness.flag)
  if wanted then others + readiness.flag else others

theorem and_one (n : Nat) : n &&& 1 = n % 2 := Nat.and_one_is_mod n

theorem and_four (n : Nat) : n &&& 4 = n / 4 % 2 * 4 := Number.and_two_pow n 2

/-- A switch reaches its own bit only. -/
theorem and_flag_switch (readiness other : Readiness) (interest : Nat) (wanted : Bool) :
    decide (readiness.switch interest wanted &&& other.flag ≠ 0) =
      if other = readiness then wanted else decide (interest &&& other.flag ≠ 0) := by
  cases readiness <;> cases other <;> cases wanted <;>
    simp only [switch, flag, Number.readable, Number.writable, and_one, and_four, reduceCtorEq,
      if_true, if_false, Bool.false_eq_true, decide_eq_true_eq, decide_eq_false_iff_not,
      decide_eq_decide] <;>
    omega

end Readiness

namespace Event

/-- What an event tells the observer of a channel about a readiness. -/
def tells? (channel : String) (readiness : Readiness) : Event → Option Bool
  | readInterest name wanted =>
    if name = channel ∧ readiness = .reading then some wanted else none
  | writeInterest name wanted =>
    if name = channel ∧ readiness = .writing then some wanted else none
  | _ => none

/-- Whether an event tells any observer anything. -/
def isTelling : Event → Bool
  | readInterest .. => true
  | writeInterest .. => true
  | _ => false

end Event

/-- What the interest of registrations is kept in. -/
structure Board where
  loops : List (Option Loop)
  /-- What observers were told, in order. -/
  told : List Event
  /-- The answers laid down for changes of interest sets. -/
  answers : Plan Int

/-- The part of the native side that interest is kept in. -/
def Native.board (native : Native) : Board where
  loops := native.loops
  told := native.journal.toList.filter Event.isTelling
  answers := native.kernel.script.changeInterest

namespace Board

/-- The entry behind a number of an event loop. -/
def entry? (board : Board) (loop : LoopId) (id : Nat) : Option InterestEntry :=
  (board.loops[loop]?).join.bind (·.find? id)

/-- Whether a channel waits for a readiness, by its registration. An observer goes by what it was
told last. -/
def waits (board : Board) (registration : Registration) (channel : String)
    (readiness : Readiness) : Bool :=
  match registration with
  | .observer => (board.told.filterMap (Event.tells? channel readiness)).getLast?.getD false
  | .entry loop id =>
    (board.entry? loop id).any fun entry => decide (entry.interest &&& readiness.flag ≠ 0)

/-- The registration is still there. -/
def Live (board : Board) : Registration → Prop
  | .observer => True
  | .entry loop id => (board.entry? loop id).isSome

/-- The system refuses no change of an interest set. -/
def Obliging (board : Board) : Prop :=
  ∀ answer, some answer ∈ board.answers → ∃ number, answer = .value number ∧
    0 ≤ Number.narrow number

end Board

namespace Native

/-! ## What leaves interest alone -/

/-- Events that go to no observer do not show on the board. -/
theorem board_push {event : Event} (h : event.isTelling = false) (native : Native) :
    ({ native with journal := native.journal.push event } : Native).board = native.board := by
  simp [board, Array.toList_push, List.filter_append, h]

theorem within_record {event : Event} (h : event.isTelling = false) :
    Act.Within (Act.Fixing board) (record event) := fun native => board_push h native

theorem within_writeLog (level : Log.Level) (tag text : String) :
    Act.Within (Act.Fixing board) (writeLog level tag text) :=
  within_writeLog_of (fun _ _ _ => within_record rfl) (fun _ _ => rfl) level tag text

section Calls

variable {α : Type} (call : SystemCall) (native : Native)

/-- A call shows on the board by the answers that it uses up. -/
theorem board_called (result : α → Int) (run : Kernel → Answer α × Kernel) :
    (native.called call result run).board =
      { native.board with answers := (run native.kernel).2.script.changeInterest } := by
  simp [board, called, Array.toList_push, List.filter_append, Event.isTelling]

end Calls

end Native

/-! ## Changing an interest -/

/-- A change of an interest set uses up its answer and no other. -/
theorem Kernel.changeInterest_spec (kernel : Kernel) :
    (kernel.changeInterest).2.script.changeInterest = kernel.script.changeInterest.tail ∧
      ((kernel.changeInterest).1 = .value 0 ∨
        some (kernel.changeInterest).1 ∈ kernel.script.changeInterest) := by
  unfold changeInterest
  cases hplan : kernel.script.changeInterest with
  | nil =>
    rw [answer_of_nil hplan]
    exact ⟨hplan, .inl rfl⟩
  | cons head rest =>
    cases head with
    | none =>
      rw [answer_of_none hplan]
      exact ⟨congrArg List.tail hplan, .inl rfl⟩
    | some answer =>
      rw [answer_of_some hplan]
      refine ⟨congrArg List.tail hplan, .inr ?_⟩
      have hsame : answer.map id = answer := by cases answer <;> rfl
      rw [hsame]
      exact List.mem_cons_self

theorem Board.Obliging.tail {board board' : Board} (h : board.Obliging)
    (hanswers : board'.answers = board.answers.tail) : board'.Obliging := by
  intro answer hmem
  exact h answer (List.mem_of_mem_tail (hanswers ▸ hmem))

/-- The board without the next answer to a change of an interest set. -/
def Board.asked (board : Board) : Board := { board with answers := board.answers.tail }

/-- A change of an interest set uses up an answer, and an obliging system agrees to it. -/
theorem Native.run_changeInterest (call : SystemCall) (native : Native) :
    ∃ called : Native, called.board = native.board.asked ∧
      ((∃ number, (attemptStatus call Kernel.changeInterest).run native =
          .ok (.value number) called) ∨
        ¬ native.board.Obliging ∧
          ∃ code, (attemptStatus call Kernel.changeInterest).run native =
            .ok (.failure code) called) := by
  refine ⟨native.called call id Kernel.changeInterest, ?_, ?_⟩
  · rw [board_called, (Kernel.changeInterest_spec native.kernel).1]
    rfl
  have hattempt : (attemptStatus call Kernel.changeInterest).run native = _ :=
    run_attempt call native (fun number => number < 0) Kernel.changeInterest
  rcases (Kernel.changeInterest_spec native.kernel).2 with hzero | hmem
  · rw [hzero] at hattempt
    exact .inl ⟨0, hattempt⟩
  · cases hanswer : (native.kernel.changeInterest).1 with
    | failure code =>
      refine .inr ⟨fun hobliging => ?_, code, ?_⟩
      · obtain ⟨number, hvalue, _⟩ := hobliging _ hmem
        rw [hanswer] at hvalue
        cases hvalue
      · rw [hanswer] at hattempt
        exact hattempt
    | value number =>
      rw [hanswer] at hattempt
      -- An answer is cut to 32 bits before its sign is looked at.
      by_cases hnegative : Number.narrow number < 0
      · refine .inr ⟨fun hobliging => ?_,
          (native.called call id Kernel.changeInterest).lastError, hattempt.trans ?_⟩
        · obtain ⟨other, hvalue, hnarrow⟩ := hobliging _ hmem
          rw [hanswer] at hvalue
          cases hvalue
          omega
        · simp only [Answer.map, Answer.failIf, hnegative, decide_true, if_true]
      · refine .inl ⟨Number.narrow number, hattempt.trans ?_⟩
        simp [Answer.map, Answer.failIf, hnegative]

namespace Registration

/-- Says whether a channel waits for a readiness. -/
def setInterest (registration : Registration) (channel : String) (readiness : Readiness)
    (wanted : Bool) : Act Native Unit :=
  match readiness with
  | .reading => registration.setReadInterest channel wanted
  | .writing => registration.setWriteInterest channel wanted

variable {native native' : Native} {channel : String} {readiness : Readiness} {wanted : Bool}

/-- An entry is changed once the system has agreed, or stays as it is. -/
theorem updateEntry_cases (readiness : Readiness) (wanted : Bool) {loop : LoopId} {key : Nat}
    {table : Loop} {watched : InterestEntry}
    (htable : native.loop? loop = some table) (hentry : table.find? key = some watched) :
    readiness.switch watched.interest wanted = watched.interest ∧
        (updateEntry loop key readiness.flag wanted).run native = .ok () native ∨
      ∃ called : Native, called.board = native.board.asked ∧
        ((updateEntry loop key readiness.flag wanted).run native =
            .ok () (called.setLoop loop
              (table.setInterest key (readiness.switch watched.interest wanted))) ∨
          ¬ native.board.Obliging ∧
            ∃ code, (updateEntry loop key readiness.flag wanted).run native =
              .error (.native "epoll_ctl" code) called) := by
  unfold updateEntry
  rw [Act.bind_of_ok (EStateM.run_get native)]
  simp only [htable, hentry]
  -- A flag that is as wanted already costs no call.
  by_cases hsame : readiness.switch watched.interest wanted = watched.interest
  · refine .inl ⟨hsame, ?_⟩
    exact (congrArg (EStateM.run · native) (if_pos hsame)).trans rfl
  · right
    obtain ⟨called, hboard, hcall⟩ := Native.run_changeInterest
      (.changeInterest table.set .modify watched.descriptor
        (some (readiness.switch watched.interest wanted, key))) native
    refine ⟨called, hboard, ?_⟩
    rcases hcall with ⟨number, hcall⟩ | ⟨hrefused, code, hcall⟩
    · left
      refine (congrArg (EStateM.run · native) (if_neg hsame)).trans ?_
      exact (Act.bind_of_ok hcall).trans rfl
    · right
      refine ⟨hrefused, code, ?_⟩
      refine (congrArg (EStateM.run · native) (if_neg hsame)).trans ?_
      exact (Act.bind_of_ok hcall).trans rfl

/-- A registration that was told about one readiness: that one is as it was told, and the other one
as before. -/
structure Told (registration : Registration) (channel : String) (readiness : Readiness)
    (wanted : Bool) (board board' : Board) : Prop where
  live : board'.Live registration
  waits : ∀ other, board'.waits registration channel other =
    if other = readiness then wanted else board.waits registration channel other
  obliging : board.Obliging → board'.Obliging

theorem told_observer (channel : String) (wanted : Bool) {event : Event}
    (hevent : ∀ other, event.tells? channel other = if other = readiness then some wanted else none)
    (htelling : event.isTelling = true) (native : Native) :
    Told .observer channel readiness wanted native.board
      ({ native with journal := native.journal.push event } : Native).board where
  live := trivial
  waits other := by
    have htold : ({ native with journal := native.journal.push event } : Native).board.told =
        native.board.told ++ [event] := by
      simp [Native.board, Array.toList_push, List.filter_append, htelling]
    simp only [Board.waits, htold, List.filterMap_append, List.filterMap_cons,
      List.filterMap_nil, hevent other]
    by_cases hother : other = readiness
    · simp [hother]
    · simp [hother]
  obliging hobliging := hobliging

theorem find?_setInterest {table : Loop} {key : Nat} {watched : InterestEntry}
    (h : table.find? key = some watched) (interest : Nat) :
    (table.setInterest key interest).find? key = some { watched with interest := interest } := by
  simp only [Loop.find?, Loop.setInterest] at h ⊢
  generalize table.entries = entries at h ⊢
  induction entries with
  | nil => cases h
  | cons entry rest ih =>
    by_cases hkey : entry.id = key
    · rw [List.find?_cons_of_pos (by simp [hkey])] at h
      cases h
      simp [hkey]
    · rw [List.find?_cons_of_neg (by simp [hkey])] at h
      rw [List.map_cons, if_neg hkey, List.find?_cons_of_neg (by simp [hkey])]
      exact ih h

theorem told_entry {loop : LoopId} {key : Nat} {table : Loop} {watched : InterestEntry}
    (htable : native.loop? loop = some table) (hentry : table.find? key = some watched)
    (hloops : native'.loops = native.loops.set loop
      (some (table.setInterest key (readiness.switch watched.interest wanted))))
    (hobliging : native.board.Obliging → native'.board.Obliging) :
    Told (.entry loop key) channel readiness wanted native.board native'.board := by
  have hbefore : native.board.entry? loop key = some watched := by
    show ((native.loops[loop]?).join.bind _) = _
    rw [show (native.loops[loop]?).join = some table from htable]
    exact hentry
  have hafter : native'.board.entry? loop key =
      some { watched with interest := readiness.switch watched.interest wanted } := by
    have hlength : loop < native.loops.length := by
      by_contra hbeyond
      rw [Native.loop?, List.getElem?_eq_none (Nat.not_lt.mp hbeyond)] at htable
      cases htable
    show ((native'.loops[loop]?).join.bind _) = _
    rw [hloops, List.getElem?_set_self hlength]
    exact find?_setInterest hentry _
  constructor
  · show (native'.board.entry? loop key).isSome
    rw [hafter]
    rfl
  · intro other
    show (native'.board.entry? loop key).any _ =
      if _ then _ else (native.board.entry? loop key).any _
    rw [hafter, hbefore]
    exact Readiness.and_flag_switch readiness other watched.interest wanted
  · exact hobliging

/-- **Being told.** A registration that is there is told unless the system refuses, and an obliging
system does not. -/
theorem setInterest_spec {registration : Registration} (hlive : native.board.Live registration)
    (channel : String) (readiness : Readiness) (wanted : Bool) :
    (∃ native', (registration.setInterest channel readiness wanted).run native = .ok () native' ∧
        Told registration channel readiness wanted native.board native'.board) ∨
      ¬ native.board.Obliging ∧ ∃ fault native',
        (registration.setInterest channel readiness wanted).run native = .error fault native' := by
  -- An observer is only told. An entry has flags to switch, and the system may refuse.
  cases registration with
  | observer =>
    left
    cases readiness with
    | reading =>
      refine ⟨_, rfl, told_observer channel wanted (fun other => ?_) rfl native⟩
      cases other <;> simp [Event.tells?]
    | writing =>
      refine ⟨_, rfl, told_observer channel wanted (fun other => ?_) rfl native⟩
      cases other <;> simp [Event.tells?]
  | entry loop key =>
    have hupdate : (entry loop key).setInterest channel readiness wanted =
        updateEntry loop key readiness.flag wanted := by
      cases readiness <;> rfl
    rw [hupdate]
    obtain ⟨watched, hboth⟩ := Option.isSome_iff_exists.mp hlive
    obtain ⟨table, htable, hentry⟩ := Option.bind_eq_some_iff.mp hboth
    rcases updateEntry_cases readiness wanted htable hentry with
      ⟨hsame, hrun⟩ | ⟨called, hboard, hrun | ⟨hrefused, code, hrun⟩⟩
    · refine .inl ⟨native, hrun, ?_⟩
      refine ⟨hlive, fun other => ?_, id⟩
      have hflag := Readiness.and_flag_switch readiness other watched.interest wanted
      rw [hsame] at hflag
      show (native.board.entry? loop key).any _ =
        if _ then _ else (native.board.entry? loop key).any _
      rw [show native.board.entry? loop key = some watched from hboth]
      exact hflag
    · refine .inl ⟨_, hrun, told_entry htable hentry ?_ ?_⟩
      · exact congrArg (fun board : Board => board.loops.set loop _) hboard
      · intro hobliging
        exact hobliging.tail (congrArg Board.answers hboard)
    · exact .inr ⟨hrefused, _, called, hrun⟩

end Registration

end UdpTransport
