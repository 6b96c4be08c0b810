import UdpTransport.Fault
import UdpTransport.Receive.SizeTable

/-!
# Receive policies

A policy says how large the next receive buffer is, how many datagrams one burst reads at most, and
whether a burst may end early when the caller says that no more data is waiting. Sizes are fixed,
or adapt between two positions of the size table.
-/

namespace UdpTransport

/-- How receive buffers are sized. -/
inductive Sizing where
  | fixed (size : Int)
  /-- Positions in the size table: the first and the last one allowed, and where to begin. -/
  | adaptive (lowest initial highest : Nat)
  deriving DecidableEq, Repr

/-- How bursts of receives are sized and bounded. -/
structure ReceivePolicy where
  sizing : Sizing
  /-- The largest number of datagrams in one burst. -/
  maxMessages : Int := 16
  /-- Whether a hint that nothing is waiting ends a burst. -/
  heedsHint : Bool := true
  deriving DecidableEq, Repr

/-- Names a policy in the table of policies. -/
abbrev PolicyId := Nat

namespace ReceivePolicy

/-- The size of a receive buffer where nothing else is said. -/
abbrev defaultSize : Int := 2048

/-- The number of datagrams in a burst where nothing else is said. -/
abbrev defaultMaxMessages : Int := 16

/-- The bounds and the first size of adaptive buffers where nothing else is said. -/
abbrev defaultMinimum : Int := 64

/-- The size that adaptive buffers start with where nothing else is said. -/
abbrev defaultInitial : Int := 2048

/-- The largest size of adaptive buffers where nothing else is said. -/
abbrev defaultMaximum : Int := 65536

/-- Buffers of one size. -/
def fixed (size : Int) : Except Fault ReceivePolicy :=
  if 0 < size then .ok { sizing := .fixed size }
  else .error (.violation (.notPositive .bufferSize size))

/-- The smallest position whose size is at least `minimum`. -/
def lowestPosition (minimum : Int) : Nat :=
  let position := SizeTable.position minimum
  if (SizeTable.size position : Int) < minimum then position + 1 else position

/-- The largest position whose size is at most `maximum`. -/
def highestPosition (maximum : Int) : Nat :=
  let position := SizeTable.position maximum
  if maximum < (SizeTable.size position : Int) then position - 1 else position

/-- Buffers whose size follows the traffic between two bounds. -/
def adaptive (minimum initial maximum : Int) : Except Fault ReceivePolicy :=
  if minimum ≤ 0 then .error (.violation (.notPositive .minimum minimum))
  else if initial < minimum then .error (.violation (.below .initial initial minimum))
  else if maximum < initial then .error (.violation (.below .maximum maximum initial))
  else
    let lowest := lowestPosition minimum
    let highest := highestPosition maximum
    .ok { sizing := .adaptive lowest
            (min (max (SizeTable.position initial) lowest) highest) highest }

/-- Sets the largest number of datagrams in one burst. -/
def withMaxMessages (policy : ReceivePolicy) (count : Int) : Except Fault ReceivePolicy :=
  if 0 < count then .ok { policy with maxMessages := count }
  else .error (.violation (.notPositive .messagesPerRead count))

/-- Sets whether a hint that nothing is waiting ends a burst. -/
def withHint (policy : ReceivePolicy) (heed : Bool) : ReceivePolicy :=
  { policy with heedsHint := heed }

/-- The size of fixed buffers. -/
def fixedSize? (policy : ReceivePolicy) : Option Int :=
  match policy.sizing with
  | .fixed size => some size
  | .adaptive .. => none

end ReceivePolicy

end UdpTransport
