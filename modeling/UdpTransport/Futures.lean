import UdpTransport.Act

/-!
# Futures

A write promises an outcome. `Futures` issues a ticket for each promise and writes the outcomes down
in the order in which the promises are settled; a promise that is given up is settled as broken.
-/

namespace UdpTransport

/-- What became of a promise. -/
inductive Outcome where
  | done
  | failed (fault : Fault)
  deriving DecidableEq, Repr

/-- Names a promise. -/
abbrev Ticket := Nat

/-- The promises made so far and what became of them. -/
structure Futures where
  /-- The number of promises made; tickets are numbered from zero. -/
  issued : Nat := 0
  /-- The outcomes, in the order in which promises were settled. -/
  settled : Array (Ticket × Outcome) := #[]
  deriving DecidableEq, Repr

namespace Futures

/-- Makes a promise. -/
def issue : Act Futures Ticket := do
  let futures ← get
  set { futures with issued := futures.issued + 1 }
  pure futures.issued

/-- Settles a promise. -/
def settle (ticket : Ticket) (outcome : Outcome) : Act Futures Unit :=
  modify fun futures => { futures with settled := futures.settled.push (ticket, outcome) }

/-- What became of a promise, once it is settled. -/
def outcome? (futures : Futures) (ticket : Ticket) : Option Outcome :=
  (futures.settled.find? (·.1 = ticket)).map (·.2)

end Futures

end UdpTransport
