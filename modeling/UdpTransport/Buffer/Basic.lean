import UdpTransport.Buffer.Component
import UdpTransport.Fault

/-!
# Buffers

A buffer is a sequence of components behind one interface, and a hint that says who last held it.
A closed buffer has no components at all, so it holds nothing; amounts and views of it are those
of the empty sequence, and it counts as direct memory.

- `Buffer.toBytes` is the readable content, the common view of every operation.
- `Buffer.skipReadable`, `Buffer.skipWritable` and `Buffer.write` spread an amount over the
  components in order. They fail on a closed buffer and on an amount beyond what is there, and
  then change nothing.
- `Buffer.visitReadable` and `Buffer.visitWritable` offer the components to a visitor one by one.
-/

namespace UdpTransport

/-- A sequence of components, or nothing once closed. -/
structure Buffer where
  contents : Option (List Component)
  hint : String
  deriving DecidableEq, Repr

namespace Buffer

/-- A closed buffer without hint: what remains of a buffer whose content was moved out. -/
def closed : Buffer := ⟨none, ""⟩

instance : Inhabited Buffer := ⟨closed⟩

/-- An open buffer of the given components. -/
def ofComponents (components : List Component) : Buffer := ⟨some components, ""⟩

/-- Whether the memory was not given back yet. -/
def isOpen (buffer : Buffer) : Bool := buffer.contents.isSome

/-- The components in order; a closed buffer has none. -/
def components (buffer : Buffer) : List Component := buffer.contents.getD []

/-- Replaces the components of an open buffer. -/
def withComponents (buffer : Buffer) (components : List Component) : Buffer :=
  { buffer with contents := buffer.contents.map fun _ => components }

/-- What is left of a buffer when its memory is given back. -/
def close (buffer : Buffer) : Buffer := { buffer with contents := none }

/-- Joins the components of several buffers in order. -/
def compose (parts : List Buffer) : Buffer := ofComponents (parts.flatMap components)

/-- Leaves a note on who holds the buffer. -/
def touch (buffer : Buffer) (hint : String) : Buffer := { buffer with hint := hint }

/-! ## Amounts and views -/

/-- The number of readable bytes. -/
def readable (buffer : Buffer) : Nat := Component.total Component.readable buffer.components

/-- The number of bytes that can still be written. -/
def room (buffer : Buffer) : Nat := Component.total Component.room buffer.components

/-- The size of the memory behind all components. -/
def capacity (buffer : Buffer) : Nat :=
  Component.total (fun c => c.memory.size) buffer.components

/-- All readable bytes in order. -/
def toBytes (buffer : Buffer) : Bytes := buffer.components.flatMap Component.readableBytes

/-- The components that have readable bytes. -/
def readableComponents (buffer : Buffer) : List Component :=
  buffer.components.filter Component.isReadable

/-- The components that have room. -/
def writableComponents (buffer : Buffer) : List Component :=
  buffer.components.filter Component.isWritable

/-- Whether system calls can be given the addresses of all components. -/
def isDirect (buffer : Buffer) : Bool := buffer.components.all Component.isDirect

@[simp] theorem length_toBytes (buffer : Buffer) : buffer.toBytes.length = buffer.readable := by
  unfold toBytes readable
  induction buffer.components with
  | nil => rfl
  | cons c rest ih => simp [Component.total, ih]

/-! ## Spreading an amount over components -/

/-- Consumes bytes from the front. -/
def consumeFront : Nat → List Component → List Component
  | _, [] => []
  | n, c :: rest => c.consume n :: consumeFront (n - c.readable) rest

/-- Marks room as written, from the front. -/
def commitFront : Nat → List Component → List Component
  | _, [] => []
  | n, c :: rest => c.commit n :: commitFront (n - c.room) rest

/-- Writes bytes into the room, from the front. -/
def appendFront : Bytes → List Component → List Component
  | _, [] => []
  | bytes, c :: rest =>
    c.append (bytes.take c.room) :: appendFront (bytes.drop c.room) rest

/-- Fails on a closed buffer. -/
def ensureOpen (buffer : Buffer) : Except Fault Unit :=
  if buffer.isOpen then .ok () else .error (.violation .bufferClosed)

/-- Consumes `n` readable bytes. -/
def skipReadable (buffer : Buffer) (n : Nat) : Except Fault Buffer := do
  buffer.ensureOpen
  if n ≤ buffer.readable then
    pure (buffer.withComponents (consumeFront n buffer.components))
  else throw (.violation (.skipReadable n buffer.readable))

/-- Marks `n` bytes of room as written. -/
def skipWritable (buffer : Buffer) (n : Nat) : Except Fault Buffer := do
  buffer.ensureOpen
  if n ≤ buffer.room then
    pure (buffer.withComponents (commitFront n buffer.components))
  else throw (.violation (.skipWritable n buffer.room))

/-- Writes bytes after those written so far, component by component. -/
def write (buffer : Buffer) (bytes : Bytes) : Except Fault Buffer := do
  buffer.ensureOpen
  if bytes.length ≤ buffer.room then
    pure (buffer.withComponents (appendFront bytes buffer.components))
  else throw (.violation (.writeBeyond bytes.length buffer.room))

/-- Takes out all readable bytes. -/
def readAll (buffer : Buffer) : Except Fault (Bytes × Buffer) := do
  buffer.ensureOpen
  pure (buffer.toBytes,
    buffer.withComponents (buffer.components.map fun c => c.consume c.readable))

/-! ## Visiting components -/

/-- What a visitor does with a component. -/
structure Visit where
  /-- Bytes stored at the start of the room; only a visitor of writable components has any. -/
  fill : Bytes := []
  /-- How far the cursor moves. -/
  advance : Nat := 0
  /-- Whether the visitor wants to see the next component. -/
  proceed : Bool := true
  deriving DecidableEq, Repr

/-- How a walk over the components went. -/
structure Walk where
  /-- The components afterwards. -/
  components : List Component
  /-- The components that were offered, as the visitor found them. -/
  visited : List Component
  /-- The number of components offered, negated if the visitor stopped the walk. -/
  result : Except Fault Int
  deriving Repr

/-- Offers components one by one. A failing visit ends the walk; what it did before stays. -/
def walk (eligible : Component → Bool) (visit : Nat → Component → Visit)
    (move : Component → Visit → Component × Option Fault) : Nat → List Component → Walk
  | index, [] => ⟨[], [], .ok index⟩
  | index, c :: rest =>
    if eligible c then
      let step := visit index c
      match move c step with
      | (c', some fault) => ⟨c' :: rest, [c], .error fault⟩
      | (c', none) =>
        if step.proceed then
          let later := walk eligible visit move (index + 1) rest
          ⟨c' :: later.components, c :: later.visited, later.result⟩
        else ⟨c' :: rest, [c], .ok (-(index + 1))⟩
    else
      let later := walk eligible visit move index rest
      ⟨c :: later.components, later.visited, later.result⟩

/-- Moves the reader of a visited component. -/
def moveReader (c : Component) (step : Visit) : Component × Option Fault :=
  if step.advance ≤ c.readable then (c.consume step.advance, none)
  else (c, some (.violation (.skipReadable step.advance c.readable)))

/-- Fills the room of a visited component and moves its writer. -/
def moveWriter (c : Component) (step : Visit) : Component × Option Fault :=
  let filled := c.poke step.fill
  if step.advance ≤ filled.room then (filled.commit step.advance, none)
  else (filled, some (.violation (.skipWritable step.advance filled.room)))

/-- Offers the readable components to a visitor. -/
def visitReadable (buffer : Buffer) (visit : Nat → Component → Visit) : Buffer × Walk :=
  let result := walk Component.isReadable visit moveReader 0 buffer.components
  (buffer.withComponents result.components, result)

/-- Offers the writable components to a visitor. -/
def visitWritable (buffer : Buffer) (visit : Nat → Component → Visit) : Buffer × Walk :=
  let result := walk Component.isWritable visit moveWriter 0 buffer.components
  (buffer.withComponents result.components, result)

/-- Changes the first component that satisfies a condition. -/
def updateFirst (eligible : Component → Bool) (change : Component → Component) :
    List Component → List Component
  | [] => []
  | c :: rest => if eligible c then change c :: rest else c :: updateFirst eligible change rest

/-! ## Status -/

/-- What can be seen of a buffer from outside, its bytes apart. -/
structure Status where
  isOpen : Bool
  readable : Nat
  room : Nat
  capacity : Nat
  readableComponents : Nat
  writableComponents : Nat
  isDirect : Bool
  hint : String
  deriving DecidableEq, Repr

/-- The status of a buffer as it is now. -/
def status (buffer : Buffer) : Status where
  isOpen := buffer.isOpen
  readable := buffer.readable
  room := buffer.room
  capacity := buffer.capacity
  readableComponents := buffer.readableComponents.length
  writableComponents := buffer.writableComponents.length
  isDirect := buffer.isDirect
  hint := buffer.hint

end Buffer

end UdpTransport
