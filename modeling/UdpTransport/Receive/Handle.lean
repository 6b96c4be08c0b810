import UdpTransport.Receive.Policy

/-!
# The state of receiving

A channel keeps a `ReceiveHandle` between its bursts. The handle knows the size of the next receive
buffer and counts what the current burst has read so far.

An adaptive size reacts to two things. A read that fills the whole buffer, or a burst whose total
reaches the current size, moves it four positions up. A burst whose total does not exceed the size
one position below moves it one position down, but only the second time in a row
(`AdaptiveSize.record`). The total of a burst saturates at the largest 32-bit number, so it never
wraps.
-/

namespace UdpTransport

/-- The size of the next receive buffer, as a position between two others. -/
structure AdaptiveSize where
  lowest : Nat
  highest : Nat
  position : Nat
  /-- Whether the last amount was already small enough to shrink. -/
  shrinkNext : Bool
  deriving DecidableEq, Repr

namespace AdaptiveSize

/-- The size that the position stands for. -/
def size (state : AdaptiveSize) : Nat := SizeTable.size state.position

/-- Reacts to an amount of bytes read. -/
def record (state : AdaptiveSize) (amount : Int) : AdaptiveSize :=
  if amount ≤ (SizeTable.size (state.position - 1) : Int) then
    if state.shrinkNext then
      { state with position := max (state.position - 1) state.lowest, shrinkNext := false }
    else { state with shrinkNext := true }
  else if (state.size : Int) ≤ amount then
    { state with position := min (state.position + 4) state.highest, shrinkNext := false }
  else state

end AdaptiveSize

/-- How a handle sizes buffers. -/
inductive BufferSize where
  | fixed (size : Int)
  | adaptive (state : AdaptiveSize)
  deriving DecidableEq, Repr

/-- Sizes and counts the reads of a burst. -/
structure ReceiveHandle where
  policy : PolicyId
  sizing : BufferSize
  /-- The largest number of datagrams in the current burst. -/
  limit : Int := 0
  messages : Int := 0
  /-- The bytes of the current burst, at most `maxInt32`. -/
  total : Int := 0
  attempted : Int := 0
  last : Int := 0
  deriving DecidableEq, Repr

namespace ReceiveHandle

/-- A new handle for a policy. -/
def ofPolicy (id : PolicyId) (policy : ReceivePolicy) : ReceiveHandle where
  policy := id
  sizing := match policy.sizing with
    | .fixed size => .fixed size
    | .adaptive lowest initial highest => .adaptive ⟨lowest, highest, initial, false⟩

/-- The size of the next receive buffer. -/
def guess (handle : ReceiveHandle) : Int :=
  match handle.sizing with
  | .fixed size => size
  | .adaptive state => state.size

/-- Reacts to an amount of bytes read, if the size is adaptive. -/
def record (handle : ReceiveHandle) (amount : Int) : ReceiveHandle :=
  match handle.sizing with
  | .fixed _ => handle
  | .adaptive state => { handle with sizing := .adaptive (state.record amount) }

/-- Begins a burst under the current bounds of the policy. -/
def reset (handle : ReceiveHandle) (policy : ReceivePolicy) : ReceiveHandle :=
  { handle with limit := policy.maxMessages, messages := 0, total := 0 }

/-- Notes the capacity of the buffer that is read into. -/
def attempt (handle : ReceiveHandle) (bytes : Int) : ReceiveHandle :=
  { handle with attempted := bytes }

/-- The sum of two amounts, at most `maxInt32`. -/
def saturatingAdd (total bytes : Int) : Int :=
  if (maxInt32 : Int) - total < bytes then maxInt32 else total + bytes

/-- Notes the bytes of the last read; an amount that is not positive means that nothing came. -/
def noteRead (handle : ReceiveHandle) (bytes : Int) : ReceiveHandle :=
  let handle := if bytes = handle.attempted then handle.record bytes else handle
  { handle with
    last := bytes
    total := if 0 < bytes then saturatingAdd handle.total bytes else handle.total }

/-- Counts datagrams. -/
def count (handle : ReceiveHandle) (datagrams : Int) : ReceiveHandle :=
  { handle with messages := handle.messages + datagrams }

/-- Ends a burst. -/
def complete (handle : ReceiveHandle) : ReceiveHandle := handle.record handle.total

/-- Whether the answer to "is more data waiting?" matters for going on. -/
def asksHint (policy : ReceivePolicy) (autoRead : Bool) : Bool := autoRead && policy.heedsHint

/-- Whether the burst goes on. `more` is the answer to whether more data is waiting, if the caller
can tell. -/
def continues (handle : ReceiveHandle) (policy : ReceivePolicy) (autoRead : Bool)
    (more : Option Bool) : Bool :=
  autoRead && (!policy.heedsHint || more.getD true) && handle.messages < handle.limit &&
    0 < handle.last

@[simp] theorem total_record (handle : ReceiveHandle) (amount : Int) :
    (handle.record amount).total = handle.total := by
  unfold record
  split <;> rfl

end ReceiveHandle

end UdpTransport
