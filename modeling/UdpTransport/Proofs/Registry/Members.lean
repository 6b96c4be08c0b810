import Mathlib.Data.List.Nodup
import Mathlib.Tactic.Convert
import UdpTransport.EventLoop.Entry
import UdpTransport.Journal

/-!
# What the system watches

What is in an interest set of the system can be read off the calls that were made, each with its
answer: an agreed change takes place, a refused one does not, and a descriptor that is closed leaves
every interest set (`SetMember.replay`). Two things are taken for granted of the system, and only of
answers about the set in question (`SetMember.Fair`): it does not add a descriptor that it watches
already, and it does not refuse to delete one that it watches. Any addition and any modification may
be refused otherwise, at any time and for any reason.

A fair system never watches a descriptor twice (`SetMember.distinct_replay`).
-/

namespace UdpTransport

/-- A descriptor that the system watches through an interest set. -/
structure SetMember where
  descriptor : Int
  /-- The readiness that is waited for. -/
  interest : Nat
  /-- The number that is reported along with the readiness. -/
  id : Nat
  deriving DecidableEq, Repr

/-- An entry as the system should have it. -/
def InterestEntry.member (entry : InterestEntry) : SetMember :=
  ⟨entry.descriptor, entry.interest, entry.id⟩

namespace SetMember

/-- The members of an interest set after an event. -/
def after (set : Int) (members : List SetMember) : Event → List SetMember
  | .call (.changeInterest changed change fd data) (.value _) =>
    if changed = set then
      match change, data with
      | .add, some (interest, id) => ⟨fd, interest, id⟩ :: members
      | .modify, some (interest, id) =>
        members.map fun member => if member.descriptor = fd then ⟨fd, interest, id⟩ else member
      | .delete, _ => members.filter (·.descriptor ≠ fd)
      | _, none => members
    else members
  | .call (.close fd) _ => members.filter (·.descriptor ≠ fd)
  | _ => members

/-- The members of an interest set after some events. -/
def replay (set : Int) (members : List SetMember) (events : List Event) : List SetMember :=
  events.foldl (after set) members

theorem replay_append (set : Int) (members : List SetMember) (first later : List Event) :
    replay set members (first ++ later) = replay set (replay set members first) later :=
  List.foldl_append

/-- A descriptor is among the members. -/
def Watches (members : List SetMember) (fd : Int) : Prop :=
  ∃ member ∈ members, member.descriptor = fd

/-- The system adds no descriptor that it watches, and refuses to delete none. -/
def Fair (set : Int) (members : List SetMember) : Event → Prop
  | .call (.changeInterest changed .add fd _) (.value _) => changed = set → ¬ Watches members fd
  | .call (.changeInterest changed .delete fd _) (.failure _) =>
    changed = set → ¬ Watches members fd
  | _ => True

/-- The system has been fair all along. -/
def Honest (set : Int) (members : List SetMember) : List Event → Prop
  | [] => True
  | event :: rest => Fair set members event ∧ Honest set (after set members event) rest

theorem honest_append {set : Int} {members : List SetMember} {first later : List Event} :
    Honest set members (first ++ later) ↔
      Honest set members first ∧ Honest set (replay set members first) later := by
  induction first generalizing members with
  | nil => exact ⟨fun h => ⟨trivial, h⟩, And.right⟩
  | cons event rest ih =>
    show Fair set members event ∧ Honest set _ (rest ++ later) ↔
      (Fair set members event ∧ Honest set _ rest) ∧ Honest set (replay set _ rest) later
    rw [ih, and_assoc]

/-- No descriptor is among the members twice. -/
def Distinct (members : List SetMember) : Prop := (members.map (·.descriptor)).Nodup

/-- What is changed about the member of a descriptor is not the descriptor. -/
theorem distinct_modify {members : List SetMember} (h : Distinct members) (fd : Int)
    (interest id : Nat) :
    Distinct (members.map fun member =>
      if member.descriptor = fd then ⟨fd, interest, id⟩ else member) := by
  unfold Distinct at h ⊢
  rw [List.map_map]
  convert h using 2
  funext member
  by_cases hmember : member.descriptor = fd <;> simp [hmember]

theorem distinct_filter {members : List SetMember} (h : Distinct members)
    (kept : SetMember → Bool) : Distinct (members.filter kept) :=
  h.sublist (List.filter_sublist.map _)

theorem distinct_after {set : Int} {members : List SetMember} {event : Event}
    (h : Distinct members) (hfair : Fair set members event) :
    Distinct (after set members event) := by
  unfold after
  split
  case h_1 changed change fd data number =>
    split
    case isFalse => exact h
    case isTrue hset =>
      split
      -- An addition is the one case in which fairness is needed.
      · rename_i interest id
        refine List.nodup_cons.mpr ⟨fun hwatched => hfair hset ?_, h⟩
        obtain ⟨member, hmember, hfd⟩ := List.mem_map.mp hwatched
        exact ⟨member, hmember, hfd⟩
      · exact distinct_modify h fd _ _
      · exact distinct_filter h _
      · exact h
  case h_2 => exact distinct_filter h _
  case h_3 => exact h

/-- **A fair system watches no descriptor twice.** -/
theorem distinct_replay {set : Int} {events : List Event} {members : List SetMember}
    (h : Distinct members) (hhonest : Honest set members events) :
    Distinct (replay set members events) := by
  induction events generalizing members with
  | nil => exact h
  | cons event rest ih => exact ih (distinct_after h hhonest.1) hhonest.2

end SetMember

namespace Event

/-- The number under which a descriptor was to be added to an interest set, if that was asked. -/
def added? (set : Int) : Event → Option Nat
  | call (.changeInterest changed .add _ (some (_, id))) _ =>
    if changed = set then some id else none
  | _ => none

end Event

end UdpTransport
