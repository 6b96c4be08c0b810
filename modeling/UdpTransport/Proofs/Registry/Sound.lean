import UdpTransport.Proofs.Registry.Moves

/-!
# Soundness

A scene is `Sound` if the event loop is there, its table and the channels agree, the numbers that
the system was given have only ever increased, and a system that has been fair watches what is in
the table. Every move keeps a scene sound, and takes its table `Onward`. What is entered on the way
is entered under new numbers (`Added`), so under an old number there is an old entry or none.
-/

namespace UdpTransport

/-- An event loop that is there, its channels and the system agree with each other. -/
structure Sound (loop : LoopId) (table : Loop) (scene : Scene) : Prop
    extends Wired loop table scene.bearings where
  there : scene.table = some table
  /-- Every number under which the system was asked to add something is greater than all before. -/
  fresh : (scene.trail.filterMap (Event.added? table.set)).Pairwise (· < ·)
  used : ∀ id ∈ scene.trail.filterMap (Event.added? table.set), id < table.nextId
  worded : Kernel.Worded scene.answers
  /-- The system watches what is in the table. -/
  synced : SetMember.Honest table.set [] scene.trail →
    SetMember.replay table.set [] scene.trail = table.members

/-- How a table goes on. -/
structure Onward (nested : Prop) (table table' : Loop) : Prop where
  set : table'.set = table.set
  nextId : table.nextId ≤ table'.nextId
  reported : nested ∨ table'.reported = table.reported

namespace Onward

variable {nested : Prop} {first second third : Loop}

theorem refl (table : Loop) : Onward nested table table := ⟨rfl, le_rfl, .inr rfl⟩

theorem trans (h : Onward nested first second) (h' : Onward nested second third) :
    Onward nested first third where
  set := h'.set.trans h.set
  nextId := h.nextId.trans h'.nextId
  reported := by
    rcases h.reported with hnested | hfirst
    · exact .inl hnested
    · exact h'.reported.imp_right fun hsecond => hsecond.trans hfirst

end Onward

/-- A channel has an entry under a number. -/
def Loop.HasEntry (table : Loop) (id : Nat) (channel : String) : Prop :=
  ∃ entry ∈ table.entries, entry.id = id ∧ entry.channel = channel

namespace Sound

variable {loop : LoopId} {table table' : Loop} {scene scene' : Scene} {entry : InterestEntry}

/-- What the system watches after one more event. -/
theorem members_after (h : Sound loop table scene) {event : Event}
    (hhonest : SetMember.Honest table.set [] (scene.trail ++ [event])) :
    SetMember.replay table.set [] (scene.trail ++ [event]) =
        SetMember.after table.set table.members event ∧
      SetMember.Fair table.set table.members event ∧ SetMember.Distinct table.members := by
  obtain ⟨hbefore, hfair, _⟩ := SetMember.honest_append.mp hhonest
  have hsynced := h.synced hbefore
  have hnil : SetMember.Distinct [] := List.nodup_nil
  have hdistinct := SetMember.distinct_replay hnil hbefore
  rw [hsynced] at hfair hdistinct
  exact ⟨by rw [SetMember.replay_append, hsynced]; rfl, hfair, hdistinct⟩

/-- An event after which table and channels agree, and after which a fair system watches what is in
the table. -/
theorem step (h : Sound loop table scene) {event : Event} (hthere : scene'.table = some table')
    (htrail : scene'.trail = scene.trail ++ [event]) (hset : table'.set = table.set)
    (hwired : Wired loop table' scene'.bearings)
    (hnumber : event.added? table.set = none ∧ table'.nextId = table.nextId ∨
      event.added? table.set = some table.nextId ∧ table'.nextId = table.nextId + 1)
    (hworded : Kernel.Worded scene'.answers)
    (hmembers : SetMember.Distinct table.members → SetMember.Fair table.set table.members event →
      SetMember.after table.set table.members event = table'.members) :
    Sound loop table' scene' where
  toWired := hwired
  there := hthere
  fresh := by
    rw [htrail, hset, List.filterMap_append, List.pairwise_append]
    refine ⟨h.fresh, ?_, fun id hid later hlater => ?_⟩
    · rcases hnumber with ⟨hnone, _⟩ | ⟨hsome, _⟩
      · simp [hnone]
      · simp [hsome]
    · have hless := h.used id hid
      -- The number given out last is the next one, above all that were used.
      rcases hnumber with ⟨hnone, _⟩ | ⟨hsome, _⟩
      · simp [hnone] at hlater
      · simp only [List.filterMap_cons, hsome, List.filterMap_nil, List.mem_singleton] at hlater
        omega
  used id hid := by
    rw [htrail, hset, List.filterMap_append, List.mem_append] at hid
    rcases hnumber with ⟨hnone, hnext⟩ | ⟨hsome, hnext⟩
    · have hless := h.used id (hid.resolve_right (by simp [hnone]))
      omega
    · rcases hid with hid | hid
      · have hless := h.used id hid
        omega
      · simp only [List.filterMap_cons, hsome, List.filterMap_nil, List.mem_singleton] at hid
        omega
  worded := hworded
  synced hhonest := by
    rw [htrail, hset] at hhonest ⊢
    obtain ⟨hreplay, hfair, hdistinct⟩ := h.members_after hhonest
    rw [hreplay, hmembers hdistinct hfair]

/-- In a table without double descriptors, the entry of a descriptor is the one of its number. -/
theorem descriptor_eq_iff (h : Sound loop table scene)
    (hdistinct : SetMember.Distinct table.members) (hentry : entry ∈ table.entries)
    {other : InterestEntry} (hother : other ∈ table.entries) :
    other.descriptor = entry.descriptor ↔ other.id = entry.id := by
  constructor
  · intro hdescriptor
    -- The system watches no descriptor twice, and it watches what is in the table.
    have hmember : other.member = entry.member :=
      List.inj_on_of_nodup_map hdistinct (List.mem_map_of_mem hother) (List.mem_map_of_mem hentry)
        hdescriptor
    exact congrArg SetMember.id hmember
  · intro hid
    rw [h.entry_ext hother hentry hid]

theorem modified (h : Sound loop table scene) (hentry : entry ∈ table.entries) (interest : Nat)
    (number : Int) :
    Sound loop (table.setInterest entry.id interest)
      ((scene.asked table.set .modify entry.descriptor (some (interest, entry.id))
        (.value number)).withTable (table.setInterest entry.id interest)) := by
  refine h.step rfl rfl rfl (h.setInterest entry.id interest) (.inl ⟨rfl, rfl⟩) h.worded.tail
    fun hdistinct _ => ?_
  show (if table.set = table.set then _ else _) = _
  rw [if_pos rfl]
  simp only [Loop.members, Loop.setInterest, List.map_map]
  refine List.map_congr_left fun other hother => ?_
  have hiff := h.descriptor_eq_iff hdistinct hentry hother
  by_cases hid : other.id = entry.id
  · simp [InterestEntry.member, hid, hiff.mpr hid]
  · simp [InterestEntry.member, hid, mt hiff.mp hid]

theorem refused (h : Sound loop table scene) (fd : Int) (data : Option (Nat × Nat)) (code : Int) :
    Sound loop table (scene.asked table.set .modify fd data (.failure code)) :=
  h.step h.there rfl rfl h.toWired (.inl ⟨rfl, rfl⟩) h.worded.tail fun _ _ => rfl

theorem left (h : Sound loop table scene) (hentry : entry ∈ table.entries) (seen : Answer Int) :
    Sound loop (table.erase entry.id)
      (((scene.asked table.set .delete entry.descriptor none seen).withTable
        (table.erase entry.id)).withBearing entry.channel
          (some ⟨none, true, entry.descriptor⟩)) := by
  refine h.step rfl rfl rfl (h.toWired.left hentry) (.inl ⟨rfl, rfl⟩) h.worded.tail
    fun hdistinct hfair => ?_
  cases seen with
  | failure code =>
    -- A fair system does not refuse to delete what it watches.
    exact absurd ⟨entry.member, List.mem_map_of_mem hentry, rfl⟩ (hfair rfl)
  | value number =>
    show (if table.set = table.set then _ else _) = _
    rw [if_pos rfl]
    simp only [Loop.members, Loop.erase, List.filter_map]
    refine congrArg _ (List.filter_congr fun other hother => ?_)
    have hiff := h.descriptor_eq_iff hdistinct hentry hother
    simp [InterestEntry.member, hiff]

theorem denied (h : Sound loop table scene) (fd code : Int) :
    Sound loop table.counted
      ((scene.asked table.set .add fd (some (0, table.nextId)) (.failure code)).withTable
        table.counted) :=
  h.step rfl rfl rfl h.toWired.counted (.inr ⟨by simp [Event.added?], rfl⟩) h.worded.tail
    fun _ _ => rfl

theorem joined (h : Sound loop table scene) {name : String} {fd : Int}
    (hfree : scene.bearings name = some ⟨none, true, fd⟩) (number : Int) :
    Sound loop (table.entered name fd)
      (((scene.asked table.set .add fd (some (0, table.nextId)) (.value number)).withTable
        (table.entered name fd)).withBearing name
          (some ⟨some (.entry loop table.nextId), true, fd⟩)) := by
  refine h.step rfl rfl rfl (h.toWired.joined hfree) (.inr ⟨by simp [Event.added?], rfl⟩)
    h.worded.tail fun _ _ => ?_
  show (if table.set = table.set then _ else _) = _
  rw [if_pos rfl]
  rfl

/-- What concerns neither the table nor what the system was told. -/
theorem aside (h : Sound loop table scene) {bearings : Bearings}
    (hwired : Wired loop table bearings) : Sound loop table { scene with bearings := bearings } :=
  { h with toWired := hwired }

theorem shut (h : Sound loop table scene) {name : String}
    (hfree : scene.bearings name = some ⟨none, true, Socket.noDescriptor⟩) :
    Sound loop table (scene.withBearing name (some ⟨none, false, Socket.noDescriptor⟩)) := by
  refine h.aside (h.update hfree rfl ?_ ?_)
  · rintro _ ⟨rfl⟩
    rfl
  · rintro _ ⟨rfl⟩
    exact .inr rfl

/-- The descriptor of a channel without registration is in no entry. -/
theorem descriptor_ne (h : Sound loop table scene) {name : String} {fd : Int}
    (hfree : scene.bearings name = some ⟨none, true, fd⟩) (hfd : fd ≠ Socket.noDescriptor)
    (hentry : entry ∈ table.entries) : entry.descriptor ≠ fd := by
  intro heq
  have hattached := h.attached entry hentry
  -- Two channels of one descriptor are one channel, and it is attached and free at once.
  have hname : name = entry.channel := h.apart name entry.channel _ _ hfree hattached heq.symm hfd
  rw [← hname, hfree] at hattached
  cases hattached

theorem closed (h : Sound loop table scene) {name : String} {fd : Int}
    (hfree : scene.bearings name = some ⟨none, true, fd⟩) (hfd : fd ≠ Socket.noDescriptor)
    (seen : Answer Int) :
    Sound loop table
      { scene.withBearing name (some ⟨none, false, Socket.noDescriptor⟩) with
        trail := scene.trail ++ [.call (.close fd) seen] } := by
  refine h.step h.there rfl rfl (h.update hfree rfl ?_ ?_) (.inl ⟨rfl, rfl⟩) h.worded fun _ _ => ?_
  · rintro _ ⟨rfl⟩
    rfl
  · rintro _ ⟨rfl⟩
    exact .inr rfl
  -- The system forgets a descriptor that is closed, but it did not watch this one.
  · refine List.filter_eq_self.mpr fun member hmember => ?_
    obtain ⟨entry, hentry, rfl⟩ := List.mem_map.mp hmember
    exact decide_eq_true (h.descriptor_ne hfree hfd hentry)

theorem gone (h : Sound loop table scene) {name : String} {bearing : Bearing}
    (hthere : scene.bearings name = some bearing) (hfree : bearing.registration = none) :
    Sound loop table (scene.withBearing name none) :=
  h.aside (h.update hthere hfree (fun _ hnone => by cases hnone) fun _ hnone => by cases hnone)

theorem reported (h : Sound loop table scene) (events : List (Nat × Nat)) :
    Sound loop (table.report events) (scene.withTable (table.report events)) :=
  { h with toWired := h.toWired.report events, there := rfl }

/-- **Every move keeps a scene sound**, and takes the table onward. -/
theorem move {nested : Prop} {held : Set String} (h : Sound loop table scene)
    (hmove : Move loop nested held scene scene') :
    ∃ table', Sound loop table' scene' ∧ Onward nested table table' := by
  have hsame : ∀ {other : Loop}, scene.table = some other → other = table := fun hother =>
    Option.some.inj (hother.symm.trans h.there)
  -- A move names the table it starts from. It is the table of the scene, as there is only one.
  cases hmove with
  | modified interest number htable hentry =>
    obtain rfl := hsame htable
    exact ⟨_, h.modified hentry interest number, rfl, le_rfl, .inr rfl⟩
  | refused interest code htable hentry =>
    obtain rfl := hsame htable
    exact ⟨_, h.refused _ _ code, .refl _⟩
  | left seen htable hentry =>
    obtain rfl := hsame htable
    exact ⟨_, h.left hentry seen, rfl, le_rfl, .inr rfl⟩
  | denied fd code htable =>
    obtain rfl := hsame htable
    exact ⟨_, h.denied fd code, rfl, Nat.le_succ _, .inr rfl⟩
  | joined number htable hfree =>
    obtain rfl := hsame htable
    exact ⟨_, h.joined hfree number, rfl, Nat.le_succ _, .inr rfl⟩
  | shut hfree => exact ⟨_, h.shut hfree, .refl _⟩
  | closed seen hfree hfd => exact ⟨_, h.closed hfree hfd seen, .refl _⟩
  | gone hthere hfree hheld => exact ⟨_, h.gone hthere hfree, .refl _⟩
  | made hnew hfree hown => exact ⟨_, h.aside (h.toWired.made hnew hfree hown), .refl _⟩
  | reported events hnested htable =>
    obtain rfl := hsame htable
    exact ⟨_, h.reported events, rfl, le_rfl, .inl hnested⟩

/-- What holds of single moves holds along any number of them. -/
theorem moves {nested : Prop} {held : Set String} (h : Sound loop table scene)
    (hmoves : Relation.ReflTransGen (Move loop nested held) scene scene') :
    ∃ table', Sound loop table' scene' ∧ Onward nested table table' := by
  -- The moves are taken one at a time, each from the sound scene that the ones before led to.
  induction hmoves with
  | refl => exact ⟨table, h, .refl table⟩
  | tail _ hmove ih =>
    obtain ⟨between, hsound, honward⟩ := ih
    obtain ⟨table', hsound', honward'⟩ := hsound.move hmove
    exact ⟨table', hsound', honward.trans honward'⟩

end Sound

/-! ## Going on from sound scenes -/

/-- From a sound scene to another one by moves. -/
def Proceeds (loop : LoopId) (nested : Prop) (held : Set String) (scene scene' : Scene) : Prop :=
  ∀ table, Sound loop table scene → Relation.ReflTransGen (Move loop nested held) scene scene'

section Proceeds

variable {loop : LoopId} {nested : Prop} {held : Set String} {scene scene' : Scene}

instance : IsPreorder Scene (Proceeds loop nested held) where
  refl _ _ _ := .refl
  trans _ _ _ first later table h := by
    obtain ⟨between, hbetween, _⟩ := h.moves (first table h)
    exact (first table h).trans (later between hbetween)

theorem Move.mono {nested' : Prop} {held' : Set String} (hnested : nested → nested')
    (hheld : held' ⊆ held) (h : Move loop nested held scene scene') :
    Move loop nested' held' scene scene' := by
  cases h with
  | modified interest number htable hentry => exact .modified interest number htable hentry
  | refused interest code htable hentry => exact .refused interest code htable hentry
  | left seen htable hentry => exact .left seen htable hentry
  | denied fd code htable => exact .denied fd code htable
  | joined number htable hfree => exact .joined number htable hfree
  | shut hfree => exact .shut hfree
  | closed seen hfree hfd => exact .closed seen hfree hfd
  | gone hthere hfree hgoes => exact .gone hthere hfree fun h => hgoes (hheld h)
  | made hnew hfree hown => exact .made hnew hfree hown
  | reported events hasked htable => exact .reported events (hnested hasked) htable

theorem Proceeds.mono {nested' : Prop} {held' : Set String} (hnested : nested → nested')
    (hheld : held' ⊆ held) (h : Proceeds loop nested held scene scene') :
    Proceeds loop nested' held' scene scene' := fun table hsound =>
  Relation.ReflTransGen.mono (fun _ _ => Move.mono hnested hheld) _ _ (h table hsound)

/-- A channel that is held stays. -/
theorem Move.isSome (h : Move loop nested held scene scene') {name : String} (hheld : name ∈ held)
    (hthere : (scene.bearings name).isSome) : (scene'.bearings name).isSome := by
  have hupdate : ∀ {other : String} {bearing : Bearing},
      (Function.update scene.bearings other (some bearing) name).isSome := by
    intro other bearing
    by_cases hname : name = other
    · subst hname
      rw [Function.update_self]
      rfl
    · rw [Function.update_of_ne hname]
      exact hthere
  cases h with
  | modified | refused | denied | reported => exact hthere
  | left | joined | shut | closed | made => exact hupdate
  | @gone other bearing _ _ hgoes =>
    have hname : name ≠ other := fun hname => hgoes (hname ▸ hheld)
    show (Function.update scene.bearings other none name).isSome
    rw [Function.update_of_ne hname]
    exact hthere

theorem isSome_of_moves (h : Relation.ReflTransGen (Move loop nested held) scene scene')
    {name : String} (hheld : name ∈ held) (hthere : (scene.bearings name).isSome) :
    (scene'.bearings name).isSome := by
  induction h with
  | refl => exact hthere
  | tail _ hmove ih => exact hmove.isSome hheld ih

end Proceeds

end UdpTransport
