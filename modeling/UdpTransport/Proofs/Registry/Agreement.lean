import UdpTransport.Proofs.Registry.Runs

/-!
# The table, the channels and the system agree

At every point of the life of an event loop, three books agree: its table, the registrations of the
channels, and the interest set of the system (`EventLoop.agreed_of_reachable`). Calls that change
the interest set may be refused at any point: a registration that fails and an interest that is
refused leave all three as they were.
-/

namespace UdpTransport

/-! ## The journal and its trail -/

namespace SetMember

variable {set : Int} {event : Event}

/-- What does not stir leaves interest sets alone. -/
theorem after_of_calm (h : event.stirs = false) (members : List SetMember) :
    after set members event = members := by
  unfold after
  split
  · exact absurd h Bool.true_eq_false_eq_False
  · exact absurd h Bool.true_eq_false_eq_False
  · rfl

theorem fair_of_calm (h : event.stirs = false) (members : List SetMember) :
    Fair set members event := by
  unfold Fair
  split
  · exact absurd h Bool.true_eq_false_eq_False
  · exact absurd h Bool.true_eq_false_eq_False
  · trivial

variable {kept : Event → Bool} (hkept : ∀ event, kept event = false → event.stirs = false)

include hkept

/-- Events that do not stir may be left out. -/
theorem replay_filter (members : List SetMember) (events : List Event) :
    replay set members (events.filter kept) = replay set members events := by
  induction events generalizing members with
  | nil => rfl
  | cons event rest ih =>
    cases hevent : kept event with
    | true =>
      rw [List.filter_cons_of_pos hevent]
      exact ih _
    | false =>
      rw [List.filter_cons_of_neg (by simp [hevent]), ih]
      show _ = replay set (after set members event) rest
      rw [after_of_calm (hkept event hevent)]

theorem honest_filter (members : List SetMember) (events : List Event) :
    Honest set members (events.filter kept) ↔ Honest set members events := by
  induction events generalizing members with
  | nil => exact Iff.rfl
  | cons event rest ih =>
    cases hevent : kept event with
    | true =>
      rw [List.filter_cons_of_pos hevent]
      exact and_congr_right fun _ => ih _
    | false =>
      rw [List.filter_cons_of_neg (by simp [hevent]), ih]
      have hcalm := hkept event hevent
      refine ⟨fun h => ⟨fair_of_calm hcalm members, ?_⟩, fun h => ?_⟩
      · rwa [after_of_calm hcalm]
      · exact after_of_calm hcalm members ▸ h.2

end SetMember

theorem Event.added?_of_calm {set : Int} {event : Event} (h : event.stirs = false) :
    event.added? set = none := by
  unfold added?
  split
  · exact absurd h Bool.true_eq_false_eq_False
  · rfl

theorem Event.calm_of_not_matters {event : Event} (h : event.matters = false) :
    event.stirs = false := (Bool.or_eq_false_iff.mp h).2

namespace Native

/-- The numbers under which the system was asked to add something to an interest set. -/
def added (native : Native) (set : Int) : List Nat :=
  native.journal.toList.filterMap (Event.added? set)

/-- The system has been fair about an interest set. -/
def Honest (native : Native) (set : Int) : Prop :=
  SetMember.Honest set [] native.journal.toList

/-- What the system watches through an interest set. -/
def watched (native : Native) (set : Int) : List SetMember :=
  SetMember.replay set [] native.journal.toList

theorem added_eq (native : Native) (set : Int) :
    native.sight.trail.filterMap (Event.added? set) = native.added set := by
  show (native.journal.toList.filter Event.matters).filterMap _ = _
  rw [List.filterMap_filter]
  refine List.filterMap_congr fun event _ => ?_
  cases hevent : event.matters with
  | true => rfl
  | false => exact (Event.added?_of_calm (Event.calm_of_not_matters hevent)).symm

theorem honest_iff (native : Native) (set : Int) :
    SetMember.Honest set [] native.sight.trail ↔ native.Honest set :=
  SetMember.honest_filter (fun _ => Event.calm_of_not_matters) [] native.journal.toList

theorem watched_eq (native : Native) (set : Int) :
    SetMember.replay set [] native.sight.trail = native.watched set :=
  SetMember.replay_filter (fun _ => Event.calm_of_not_matters) [] native.journal.toList

end Native

/-! ## The life of an event loop -/

variable {ω : Type} {loop : LoopId} {table : Loop} {transport : Transport ω}

/-- An event loop that was just made, among channels without registration. -/
structure Fresh (loop : LoopId) (transport : Transport ω) : Prop where
  /-- Its table is empty, and nothing has happened to its interest set yet. -/
  empty : ∃ table, transport.host.native.loop? loop = some table ∧ table.entries = [] ∧
    ∀ change fd data seen, Event.call (.changeInterest table.set change fd data) seen ∉
      transport.host.native.journal.toList
  free : ∀ name station, transport.stations.get? name = some station →
    station.channel.registration = none
  /-- No two channels have one descriptor. -/
  apart : ∀ name other first second, transport.stations.get? name = some first →
    transport.stations.get? other = some second →
    Endpoint.descriptor first.endpoint = Endpoint.descriptor second.endpoint →
    Endpoint.descriptor first.endpoint ≠ Socket.noDescriptor → name = other
  worded : Kernel.Worded transport.host.native.kernel.script.changeInterest

/-- A state that a program reaches which uses an event loop, one operation after the other, whatever
becomes of each of them. -/
inductive Reachable (loop : LoopId) : Transport ω → Prop where
  | fresh {transport : Transport ω} (h : Fresh loop transport) : Reachable loop transport
  | next {transport : Transport ω} {α : Type} {act : TransportAct ω α}
      (h : Reachable loop transport) (hact : Mannered loop True ∅ act) :
      Reachable loop (act.after transport)

/-- Before anything happened to an interest set, the system watches nothing through it. -/
theorem replay_untouched {set : Int} {events : List Event}
    (h : ∀ change fd data seen, Event.call (.changeInterest set change fd data) seen ∉ events) :
    SetMember.replay set [] events = [] ∧ events.filterMap (Event.added? set) = [] := by
  induction events with
  | nil => exact ⟨rfl, rfl⟩
  | cons event rest ih =>
    obtain ⟨hreplay, hadded⟩ := ih fun change fd data seen hmem =>
      h change fd data seen (List.mem_cons_of_mem _ hmem)
    have hevent : ∀ change fd data seen,
        event ≠ .call (.changeInterest set change fd data) seen := fun change fd data seen heq =>
      h change fd data seen (heq ▸ List.mem_cons_self)
    refine ⟨?_, ?_⟩
    · have hafter : SetMember.after set [] event = [] := by
        unfold SetMember.after
        split
        · rw [if_neg]
          rintro rfl
          exact hevent _ _ _ _ rfl
        · rfl
        · rfl
      show SetMember.replay set (SetMember.after set [] event) rest = []
      rw [hafter, hreplay]
    · have hnone : event.added? set = none := by
        unfold Event.added?
        split
        · rw [if_neg]
          rintro rfl
          exact hevent _ _ _ _ rfl
        · rfl
      rw [List.filterMap_cons_none hnone, hadded]

theorem Fresh.sound (h : Fresh loop transport) :
    ∃ table, Sound loop table (transport.scene loop) := by
  obtain ⟨table, htable, hempty, huntouched⟩ := h.empty
  obtain ⟨hreplay, hadded⟩ := replay_untouched huntouched
  have hstation : ∀ {name bearing}, transport.bearings name = some bearing →
      ∃ station, transport.stations.get? name = some station ∧ station.bearing = bearing :=
    Option.map_eq_some_iff.mp
  -- An untouched set has neither members nor additions, so all that is said of them is empty.
  have hnumbers := transport.host.native.added_eq table.set
  rw [Native.added, hadded] at hnumbers
  have hnothing : ∀ entry, entry ∉ table.entries := fun entry hentry => by simp [hempty] at hentry
  refine ⟨table, ⟨?_, ?_, ?_, ?_, ?_⟩, htable, ?_, ?_, h.worded, fun _ => ?_⟩
  · rw [hempty]
    exact .nil
  · exact fun entry hentry => absurd hentry (hnothing entry)
  · exact fun entry hentry => absurd hentry (hnothing entry)
  · intro name bearing hbearing hregistration
    obtain ⟨station, hthere, rfl⟩ := hstation hbearing
    exact absurd (h.free name station hthere) hregistration
  · intro name other first second hfirst hsecond
    obtain ⟨station, hthere, rfl⟩ := hstation hfirst
    obtain ⟨station', hthere', rfl⟩ := hstation hsecond
    exact h.apart name other station station' hthere hthere'
  · show (transport.host.native.sight.trail.filterMap (Event.added? table.set)).Pairwise _
    rw [hnumbers]
    exact .nil
  · intro id hid
    rw [show (transport.scene loop).trail.filterMap (Event.added? table.set) = [] from hnumbers]
      at hid
    cases hid
  · show SetMember.replay table.set [] transport.host.native.sight.trail = _
    rw [Native.watched_eq, Native.watched, hreplay, Loop.members, hempty]
    rfl

/-- **Whatever happens, all is sound.** -/
theorem Reachable.sound (h : Reachable loop transport) :
    ∃ table, Sound loop table (transport.scene loop) := by
  induction h with
  | fresh h => exact h.sound
  | next h hact ih =>
    obtain ⟨table, hsound⟩ := ih
    obtain ⟨table', hsound', _⟩ := hsound.moves (hact.goes _ table hsound)
    exact ⟨table', hsound'⟩

/-! ## Agreement -/

/-- An event loop is there with a table that agrees with the channels and with the system. -/
structure Agreed (loop : LoopId) (table : Loop) (transport : Transport ω) : Prop where
  there : transport.host.native.loop? loop = some table
  /-- No number is ever used twice. -/
  fresh : (transport.host.native.added table.set).Pairwise (· < ·)
  /-- A channel is registered if and only if there is exactly one entry for it. -/
  registered : ∀ name station, transport.stations.get? name = some station →
    (station.channel.registration ≠ none ↔
      ∃! entry, entry ∈ table.entries ∧ entry.channel = name)
  /-- A registered channel is open, and knows the number of its entry. -/
  isOpen : ∀ name station registration, transport.stations.get? name = some station →
    station.channel.registration = some registration →
    Endpoint.isOpen station.endpoint = true ∧ ∃ entry ∈ table.entries, entry.channel = name ∧
      registration = .entry loop entry.id ∧ entry.descriptor = Endpoint.descriptor station.endpoint
  /-- The channel of an entry is there. -/
  owned : ∀ entry ∈ table.entries, ∃ station,
    transport.stations.get? entry.channel = some station ∧
      station.channel.registration = some (.entry loop entry.id)
  /-- The system watches the descriptors of the entries, each for the interest of its entry and
  under its number. -/
  watched : transport.host.native.Honest table.set →
    transport.host.native.watched table.set = table.members

theorem Sound.agreed (h : Sound loop table (transport.scene loop)) :
    Agreed loop table transport where
  there := h.there
  fresh := by
    rw [← Native.added_eq]
    exact h.fresh
  registered name station hstation :=
    h.registration_iff (Transport.bearings_of_station hstation)
  isOpen name station registration hstation hregistration := by
    obtain ⟨entry, hentry, hchannel, hnumber, hbearing⟩ :=
      h.entry_of_registration (Transport.bearings_of_station hstation) hregistration
    exact ⟨congrArg Bearing.isOpen hbearing, entry, hentry, hchannel, hnumber,
      (congrArg Bearing.descriptor hbearing).symm⟩
  owned entry hentry := by
    obtain ⟨station, hstation, hbearing⟩ := Option.map_eq_some_iff.mp (h.attached entry hentry)
    exact ⟨station, hstation, congrArg Bearing.registration hbearing⟩
  watched hhonest := by
    rw [← Native.watched_eq]
    exact h.synced ((Native.honest_iff _ _).mpr hhonest)

/-- What an operation leaves that failed. It may have used a number up, but the entries, the
channels and what the system watches are as they were. -/
structure Undone (loop : LoopId) (table : Loop) (transport failed : Transport ω) : Prop where
  agreed : ∃ table', Agreed loop table' failed ∧ table'.set = table.set ∧
    table'.entries = table.entries
  bearings : failed.bearings = transport.bearings
  watched : failed.host.native.Honest table.set →
    failed.host.native.watched table.set = table.members

theorem Undone.of_sound {table' : Loop} {failed : Transport ω}
    (h : Sound loop table' (failed.scene loop)) (hset : table'.set = table.set)
    (hentries : table'.entries = table.entries) (hbearings : failed.bearings = transport.bearings) :
    Undone loop table transport failed where
  agreed := ⟨table', h.agreed, hset, hentries⟩
  bearings := hbearings
  watched hhonest := by
    have hmembers : table'.members = table.members := congrArg (List.map _) hentries
    rw [← hset, ← hmembers]
    exact h.agreed.watched (hset ▸ hhonest)

namespace EventLoop

/-- A registration that fails leaves everything as it was, but for the number. -/
theorem undone_of_register_error (h : Sound loop table (transport.scene loop)) {name : String}
    {fault : Fault} {failed : Transport ω}
    (hrun : (register loop name).run transport = .error fault failed) :
    Undone loop table transport failed := by
  rcases register_run h name True ∅ with ⟨reached, hok, _⟩ |
    ⟨fault', reached, herror, hmoves, hsame⟩
  · rw [hok] at hrun
    cases hrun
  · rw [herror] at hrun
    cases hrun
    -- What is sound afterwards is the table that the failure left.
    obtain ⟨table', hsound, honward⟩ := h.moves hmoves
    obtain ⟨left, hleft, hentries⟩ := hsame.entries
    obtain rfl : left = table' := Option.some.inj (hleft.symm.trans hsound.there)
    exact .of_sound hsound honward.set hentries hsame.bearings

/-- An interest that is refused leaves everything as it was. -/
theorem undone_of_updateEntry_error (h : Sound loop table (transport.scene loop)) {id flag : Nat}
    {wanted : Bool} {fault : Fault} {native : Native}
    (hrun : (Registration.updateEntry loop id flag wanted).run transport.host.native =
      .error fault native) :
    native.loop? loop = some table ∧ Undone loop table transport (transport.withNative native) := by
  have htable : transport.host.native.loop? loop = some table := h.there
  rcases Registration.updateEntry_run htable h.worded id flag wanted with
    hok | ⟨entry, interest, _, ⟨_, _, hok, _⟩ | ⟨code, seen, native', herror, hsight⟩⟩
  · rw [hok] at hrun
    cases hrun
  · rw [hok] at hrun
    cases hrun
  · rw [herror] at hrun
    cases hrun
    have hscene : (transport.withNative native).scene loop = (transport.scene loop).asked table.set
        .modify entry.descriptor (some (interest, id)) (.failure seen) := by
      show native.sight.scene loop transport.bearings = _
      rw [hsight]
      rfl
    have hsound : Sound loop table ((transport.withNative native).scene loop) :=
      hscene ▸ h.refused _ _ _
    exact ⟨hsound.there, .of_sound hsound rfl rfl rfl⟩

/-- **The table, the channels and the system agree**, wherever a program gets that uses an event
loop. A registration that fails leaves the entries, the channels and what is watched as they were.
An interest that is refused leaves the whole table as it was, and so the interest of each entry is
the one that the system still has. -/
theorem agreed_of_reachable (h : Reachable loop transport) :
    ∃ table, Agreed loop table transport ∧
      (∀ name fault failed, (register loop name).run transport = .error fault failed →
        Undone loop table transport failed) ∧
      ∀ id flag wanted fault native,
        (Registration.updateEntry loop id flag wanted).run transport.host.native =
            .error fault native →
          native.loop? loop = some table ∧
            Undone loop table transport (transport.withNative native) := by
  obtain ⟨table, hsound⟩ := h.sound
  exact ⟨table, hsound.agreed, fun _ _ _ => undone_of_register_error hsound,
    fun _ _ _ _ _ => undone_of_updateEntry_error hsound⟩

/-- An event loop beside two channels. -/
def besideTwo (script : Script) : Transport Unit where
  host :=
    { native := { loops := [some { set := 3, maxEvents := 2 }], kernel := { script := script } } }
  stations :=
    let station (name : String) (fd : Int) : Station :=
      ⟨{ name := name, config := { allocator := 0, policy := 0 } },
        .socket { fd := fd, family := 2 }⟩
    (Named.empty.put "a" (station "a" 5)).put "b" (station "b" 6)
  outside := ()

theorem besideTwo_fresh {script : Script} (h : Kernel.Worded script.changeInterest) :
    Fresh 0 (besideTwo script) where
  empty := by
    refine ⟨{ set := 3, maxEvents := 2 }, rfl, rfl, fun _ _ _ _ hmem => ?_⟩
    cases hmem
  free name station hstation := by
    have hall : ∀ entry ∈ (besideTwo {}).stations.entries,
        entry.2.channel.registration = none := by
      decide +kernel
    exact hall _ (Named.mem_of_get? hstation)
  apart name other first second hfirst hsecond hsame _ := by
    have hall : ∀ entry ∈ (besideTwo {}).stations.entries,
        ∀ entry' ∈ (besideTwo {}).stations.entries,
          Endpoint.descriptor entry.2.endpoint = Endpoint.descriptor entry'.2.endpoint →
            entry.1 = entry'.1 := by
      decide +kernel
    exact hall _ (Named.mem_of_get? hfirst) _ (Named.mem_of_get? hsecond) hsame
  worded := h

/-- A system that agrees twice and then refuses. -/
def reluctant : Transport Unit :=
  besideTwo { changeInterest := [some (.value 0), some (.value 0), some (.failure 28),
    some (.failure 28)] }

theorem reluctant_fresh : Fresh 0 reluctant := by
  refine besideTwo_fresh fun n hmem => ?_
  have hzero : n = 0 := by simpa using hmem
  rw [hzero]
  rfl

/-- One channel is registered, the other is refused. To refuse it once more, or to refuse an
interest of the first, changes nothing. -/
theorem agreed_of_reachable_reluctant :
    let reached := (register 0 "b").after ((register 0 "a").after reluctant)
    ∃ table, Agreed 0 table reached ∧ table.members = [⟨5, 1, 1⟩] ∧
      reached.host.native.added table.set = [1, 2] ∧ reached.host.native.Honest table.set ∧
      Undone 0 table reached ((register 0 "b").after reached) ∧
      Undone 0 table reached (reached.withNative
        ((Registration.updateEntry 0 1 Number.writable true).after reached.host.native)) := by
  intro reached
  obtain ⟨table, hagreed, hregister, hupdate⟩ := agreed_of_reachable
    (.next (.next (.fresh reluctant_fresh) (.register "a")) (.register "b") : Reachable 0 reached)
  have htable : reached.host.native.loop? 0 =
      some { set := 3, maxEvents := 2, nextId := 3, entries := [⟨1, "a", 5, 1⟩] } := by
    decide +kernel
  obtain rfl := Option.some.inj (hagreed.there.symm.trans htable)
  have htrail : reached.host.native.journal.toList =
      [.call (.changeInterest 3 .add 5 (some (0, 1))) (.value 0),
        .call (.changeInterest 3 .modify 5 (some (1, 1))) (.value 0),
        .call (.changeInterest 3 .add 6 (some (0, 2))) (.failure 28)] := by
    decide +kernel
  refine ⟨_, hagreed, rfl, ?_, ?_, ?_, ?_⟩
  · rw [Native.added, htrail]
    rfl
  · rw [Native.Honest, htrail]
    simp [SetMember.Honest, SetMember.Fair, SetMember.Watches]
  · refine hregister "b" (.native "epoll_ctl" 28) _ (Act.error_of_result ?_)
    decide +kernel
  · refine (hupdate 1 Number.writable true (.native "epoll_ctl" 28) _ (Act.error_of_result ?_)).2
    decide +kernel

end EventLoop

end UdpTransport
