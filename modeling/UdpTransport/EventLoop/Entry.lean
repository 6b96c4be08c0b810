import UdpTransport.Bytes

/-!
# What an event loop keeps

An event loop watches descriptors through one interest set of the system. For each descriptor it
keeps an entry with a number that is never used again, so that readiness reported for an entry that
is gone can be told from readiness of a later one on the same descriptor.

What a wait reported stands in numbered places, and the next wait writes into the same places from
the first on (`Loop.report`). So a loop that is run while it hands events out replaces events that
were waiting.
-/

namespace UdpTransport

/-- Names an event loop among all that were ever made. -/
abbrev LoopId := Nat

/-- A descriptor under watch. -/
structure InterestEntry where
  id : Nat
  /-- The channel that the descriptor belongs to. -/
  channel : String
  descriptor : Int
  /-- The readiness that is waited for. -/
  interest : Nat
  deriving DecidableEq, Repr

/-- An event loop: its interest set and its entries, the latest first. -/
structure Loop where
  set : Int
  /-- The largest number of events handled in one round. -/
  maxEvents : Nat
  nextId : Nat := 1
  entries : List InterestEntry := []
  /-- The events that waits have reported, each as the number of an entry and its readiness. -/
  reported : List (Nat × Nat) := []
  deriving DecidableEq, Repr

/-- What a channel is attached to: who is told which readiness it waits for. -/
inductive Registration where
  /-- An observer that takes note and does nothing. -/
  | observer
  /-- An entry of an event loop. -/
  | entry (loop : LoopId) (id : Nat)
  deriving DecidableEq, Repr

namespace Loop

/-- The entry with a number. -/
def find? (loop : Loop) (id : Nat) : Option InterestEntry := loop.entries.find? (·.id = id)

/-- The latest entry of a channel. -/
def findChannel? (loop : Loop) (channel : String) : Option InterestEntry :=
  loop.entries.find? (·.channel = channel)

/-- Drops the entry with a number. -/
def erase (loop : Loop) (id : Nat) : Loop :=
  { loop with entries := loop.entries.filter (·.id ≠ id) }

/-- Changes the interest of the entry with a number. -/
def setInterest (loop : Loop) (id interest : Nat) : Loop :=
  { loop with
    entries := loop.entries.map fun entry =>
      if entry.id = id then { entry with interest := interest } else entry }

/-- Adds an entry under the next number, without any interest yet. -/
def insert (loop : Loop) (channel : String) (descriptor : Int) : Loop :=
  { loop with
    entries :=
      { id := loop.nextId, channel := channel, descriptor := descriptor, interest := 0 } ::
        loop.entries }

/-- Writes the events of a wait down, from the first place on. -/
def report (loop : Loop) (events : List (Nat × Nat)) : Loop :=
  { loop with reported := events ++ loop.reported.drop events.length }

theorem find?_insert_self (loop : Loop) (channel : String) (descriptor : Int) :
    (loop.insert channel descriptor).find? loop.nextId =
      some ⟨loop.nextId, channel, descriptor, 0⟩ := by
  simp [find?, insert]

end Loop

end UdpTransport
