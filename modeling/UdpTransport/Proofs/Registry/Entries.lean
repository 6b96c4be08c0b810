import UdpTransport.Proofs.Interest.Registering
import UdpTransport.Proofs.Registry.Sight
import UdpTransport.Proofs.Registry.Sound

/-!
# Tables and the system

An event loop changes its table along with an interest set of the system, one entry at a time. The
three ways to do so are told apart by what the system is asked for: another interest
(`Registration.updateEntry_run`), nothing more (`Registration.removeEntry_run`), or one descriptor
more (`EventLoop.enter_run`). Each of them makes one call, and says what of the table changes with
which answer.
-/

namespace UdpTransport

variable {loop : LoopId} {table : Loop}

namespace Sight

/-- The table of an event loop was exchanged. -/
def withLoop (sight : Sight) (loop : LoopId) (table : Loop) : Sight :=
  { sight with loops := sight.loops.set loop (some table) }

/-- How an event loop, given channels and the system look. -/
def scene (sight : Sight) (loop : LoopId) (bearings : Bearings) : Scene :=
  ⟨(sight.loops[loop]?).join, bearings, sight.trail, sight.answers⟩

theorem withLoop_withLoop (sight : Sight) (first second : Loop) :
    (sight.withLoop loop first).withLoop loop second = sight.withLoop loop second := by
  simp [withLoop, List.set_set]

end Sight

namespace Native

theorem sight_setLoop (native : Native) (loop : LoopId) (table : Loop) :
    (native.setLoop loop table).sight = native.sight.withLoop loop table := rfl

/-- Where a table is exchanged along with a call, both show. -/
theorem scene_asked {native : Native} (h : native.loop? loop = some table)
    (bearings : Bearings) (set : Int) (change : InterestChange) (fd : Int)
    (data : Option (Nat × Nat)) (seen : Answer Int) (table' : Loop) :
    ((native.sight.asked (.changeInterest set change fd data) seen).withLoop loop table').scene loop
        bearings =
      ((native.sight.scene loop bearings).asked set change fd data seen).withTable table' := by
  have hlength : loop < native.sight.loops.length := by
    by_contra hbeyond
    have hnone : native.loops[loop]? = none := List.getElem?_eq_none (Nat.not_lt.mp hbeyond)
    simp [loop?, hnone] at h
  simp [Sight.scene, Sight.withLoop, Sight.asked, Sight.heard, Scene.asked, Scene.withTable,
    List.getElem?_set_self hlength]

end Native

/-! ## Finding entries -/

theorem Loop.mem_of_find? {id : Nat} {entry : InterestEntry} (h : table.find? id = some entry) :
    entry ∈ table.entries ∧ entry.id = id :=
  ⟨List.mem_of_find?_eq_some h, by simpa using List.find?_some h⟩

theorem Wired.find?_id {bearings : Bearings} (h : Wired loop table bearings)
    {entry : InterestEntry} (hentry : entry ∈ table.entries) :
    table.find? entry.id = some entry := by
  obtain ⟨found, hfound⟩ : ∃ found, table.find? entry.id = some found := by
    refine Option.isSome_iff_exists.mp (List.find?_isSome.mpr ⟨entry, hentry, ?_⟩)
    exact decide_eq_true rfl
  obtain ⟨hmem, hid⟩ := Loop.mem_of_find? hfound
  rw [hfound, h.entry_ext hmem hentry hid]

/-! ## Changing the table -/

namespace Registration

variable {native : Native}

/-- Another interest is noted if the system agrees, and not otherwise. -/
theorem updateEntry_run (htable : native.loop? loop = some table)
    (hworded : Kernel.Worded native.sight.answers) (id flag : Nat) (wanted : Bool) :
    (updateEntry loop id flag wanted).run native = .ok () native ∨
      ∃ entry interest, table.find? id = some entry ∧
        ((∃ number native', (updateEntry loop id flag wanted).run native = .ok () native' ∧
            native'.sight = (native.sight.asked (.changeInterest table.set .modify entry.descriptor
              (some (interest, id))) (.value number)).withLoop loop
                (table.setInterest id interest)) ∨
          ∃ code seen native', (updateEntry loop id flag wanted).run native =
              .error (.native "epoll_ctl" code) native' ∧
            native'.sight = native.sight.asked (.changeInterest table.set .modify entry.descriptor
              (some (interest, id))) (.failure seen)) := by
  unfold updateEntry
  rw [Act.bind_of_ok (EStateM.run_get native)]
  simp only [htable]
  cases hentry : table.find? id with
  | none => exact .inl rfl
  | some entry =>
    dsimp only
    generalize (if wanted then entry.interest - (entry.interest &&& flag) + flag else
      entry.interest - (entry.interest &&& flag)) = interest
    -- The flags are what they were, and no call is made, or the system is asked once.
    by_cases hsame : interest = entry.interest
    · exact .inl (congrArg (EStateM.run · native) (if_pos hsame))
    · right
      refine ⟨entry, interest, rfl, ?_⟩
      rw [if_neg hsame]
      obtain ⟨called, ⟨number, hcall, hsight⟩ | ⟨code, seen, hcall, hsight⟩⟩ :=
        Native.run_asking table.set .modify entry.descriptor (some (interest, id)) hworded
      · refine .inl ⟨number, called.setLoop loop (table.setInterest id interest), ?_, ?_⟩
        · exact (Act.bind_of_ok hcall).trans rfl
        · rw [Native.sight_setLoop, hsight]
      · exact .inr ⟨code, seen, called, (Act.bind_of_ok hcall).trans rfl, hsight⟩

/-- An entry is taken out whatever the system says. -/
theorem removeEntry_run (htable : native.loop? loop = some table)
    (hworded : Kernel.Worded native.sight.answers) {id : Nat} {entry : InterestEntry}
    (hentry : table.find? id = some entry) :
    ∃ seen native', (removeEntry loop id).run native = .ok () native' ∧
      native'.sight = (native.sight.asked (.changeInterest table.set .delete entry.descriptor none)
        seen).withLoop loop (table.erase id) := by
  unfold removeEntry
  rw [Act.bind_of_ok (EStateM.run_get native)]
  simp only [htable, hentry]
  obtain ⟨called, ⟨number, hcall, hsight⟩ | ⟨code, seen, hcall, hsight⟩⟩ :=
    Native.run_asking table.set .delete entry.descriptor none hworded
  · refine ⟨.value number, called.setLoop loop (table.erase id), ?_, ?_⟩
    · exact (Act.bind_of_ok hcall).trans rfl
    · rw [Native.sight_setLoop, hsight]
  · rw [Act.bind_of_ok hcall]
    dsimp only
    -- A refusal does not keep the entry; it may add a line to the log, out of sight.
    by_cases hgone : code = ErrorCode.badDescriptor ∨ code = ErrorCode.noEntry
    · rw [if_pos hgone]
      refine ⟨.failure seen, called.setLoop loop (table.erase id), rfl, ?_⟩
      rw [Native.sight_setLoop, hsight]
    · rw [if_neg hgone]
      obtain ⟨_, logged, hlog⟩ := Native.succeeds_writeLog .warn loopTag
        ("epoll_ctl(EPOLL_CTL_DEL) failed: " ++ systemText code) called
      have hsame := Native.within_sight_writeLog .warn loopTag
        ("epoll_ctl(EPOLL_CTL_DEL) failed: " ++ systemText code) called
      rw [Act.after_of_ok hlog] at hsame
      refine ⟨.failure seen, logged.setLoop loop (table.erase id), ?_, ?_⟩
      · exact (Act.bind_of_ok hlog).trans rfl
      · rw [Native.sight_setLoop, hsame, hsight]

end Registration

namespace EventLoop

variable {native : Native}

/-- A descriptor is entered if the system agrees; its number is used up either way. -/
theorem enter_run (table : Loop) (hworded : Kernel.Worded native.sight.answers) (name : String)
    (fd : Int) :
    (∃ number native', (enter loop table name fd).run native = .ok () native' ∧
        native'.sight = (native.sight.asked (.changeInterest table.set .add fd
          (some (0, table.nextId))) (.value number)).withLoop loop (table.entered name fd)) ∨
      ∃ code seen native', (enter loop table name fd).run native =
          .error (.native "epoll_ctl" code) native' ∧
        native'.sight = (native.sight.asked (.changeInterest table.set .add fd
          (some (0, table.nextId))) (.failure seen)).withLoop loop table.counted := by
  have hnumber : (modify fun native =>
      native.setLoop loop { table with nextId := table.nextId + 1 } : Act Native Unit).run native =
        .ok () (native.setLoop loop table.counted) := rfl
  have hworded' : Kernel.Worded (native.setLoop loop table.counted).sight.answers := hworded
  unfold enter
  rw [Act.bind_of_ok hnumber]
  obtain ⟨called, ⟨number, hcall, hsight⟩ | ⟨code, seen, hcall, hsight⟩⟩ :=
    Native.run_asking table.set .add fd (some (0, table.nextId)) hworded'
  · refine .inl ⟨number, called.setLoop loop (table.entered name fd), ?_, ?_⟩
    · exact (Act.bind_of_ok hcall).trans rfl
    · rw [Native.sight_setLoop, hsight]
      exact Sight.withLoop_withLoop (native.sight.asked _ _) table.counted _
  · exact .inr ⟨code, seen, called, (Act.bind_of_ok hcall).trans rfl, hsight⟩

end EventLoop

end UdpTransport
