import UdpTransport.Buffer.Memory

/-!
# Components of a buffer

A component is one block of memory with two cursors, `reader ≤ writer ≤ size`; both bounds are part
of the type. The bytes between the cursors are readable, and those after the writer are room to
write into, except in borrowed memory, which is never written.

`Component.consume` and `Component.commit` move a cursor and stop at the bound, `Component.poke`
stores bytes after the writer without moving it, and `Component.append` does both.
-/

namespace UdpTransport

/-- Where a component's bytes live. -/
inductive MemoryKind where
  /-- Owned memory at a stable address, which system calls can be given directly. -/
  | direct
  /-- Owned memory that is reached through views only. -/
  | heap
  /-- A read-only view of somebody else's memory. -/
  | borrowed
  deriving DecidableEq, Repr

/-- The account that an allocation is counted on. -/
abbrev AllocatorId := Nat

/-- A block of memory with a reading and a writing position. -/
structure Component where
  /-- The allocator that counts this component. -/
  allocator : AllocatorId
  kind : MemoryKind
  memory : Memory
  reader : Nat
  writer : Nat
  reader_le : reader ≤ writer
  writer_le : writer ≤ memory.size
  deriving DecidableEq, Repr

namespace Component

/-- The number of bytes between the cursors. -/
def readable (c : Component) : Nat := c.writer - c.reader

/-- The number of bytes that can still be written. -/
def room (c : Component) : Nat :=
  match c.kind with
  | .borrowed => 0
  | _ => c.memory.size - c.writer

/-- The bytes between the cursors. -/
def readableBytes (c : Component) : Bytes := c.memory.read c.reader c.readable

/-- Whether a byte can be read. -/
def isReadable (c : Component) : Bool := c.readable != 0

/-- Whether a byte can be written. -/
def isWritable (c : Component) : Bool := c.room != 0

/-- Whether the system can work on the memory in place. -/
def isDirect (c : Component) : Bool := c.kind == .direct

/-- What fits into the room of a component ends within its memory. -/
theorem writer_add_le (c : Component) {n : Nat} (h : n ≤ c.room) :
    c.writer + n ≤ c.memory.size := by
  have := c.writer_le
  unfold room at h
  split at h <;> omega

/-- Moves the reader forward, at most to the writer. -/
def consume (c : Component) (n : Nat) : Component :=
  { c with
    reader := c.reader + min n c.readable
    reader_le := by
      have := c.reader_le
      unfold readable
      omega }

/-- Moves the writer forward, at most to the end of the memory that may be written. -/
def commit (c : Component) (n : Nat) : Component :=
  { c with
    writer := c.writer + min n c.room
    reader_le := Nat.le_trans c.reader_le (Nat.le_add_right ..)
    writer_le := c.writer_add_le (Nat.min_le_right ..) }

/-- Stores bytes after the writer, as many as there is room for, and moves no cursor. -/
def poke (c : Component) (bytes : Bytes) : Component :=
  { c with memory := c.memory.write c.writer (bytes.take c.room) }

/-- Writes bytes, as many as there is room for. -/
def append (c : Component) (bytes : Bytes) : Component := (c.poke bytes).commit bytes.length

/-- A component over fresh zeroed memory. -/
def zeroed (allocator : AllocatorId) (kind : MemoryKind) (size : Nat) : Component :=
  ⟨allocator, kind, .zeroed size, 0, 0, Nat.le_refl _, Nat.zero_le _⟩

/-- A fully readable component over somebody else's bytes. -/
def borrow (allocator : AllocatorId) (bytes : Bytes) : Component :=
  { allocator := allocator
    kind := .borrowed
    memory := .ofBytes bytes
    reader := 0
    writer := bytes.length
    reader_le := Nat.zero_le bytes.length
    writer_le := Nat.le_of_eq (Memory.size_ofBytes bytes).symm }

/-- The sum of an amount over components. -/
def total (amount : Component → Nat) : List Component → Nat
  | [] => 0
  | c :: rest => amount c + total amount rest

/-- A total over components adds up. -/
theorem total_append (amount : Component → Nat) (first second : List Component) :
    total amount (first ++ second) = total amount first + total amount second := by
  induction first with
  | nil => simp [total]
  | cons c rest ih =>
    simp only [List.cons_append, total, ih]
    omega

/-- As many bytes can be read as the component says. -/
@[simp] theorem length_readableBytes (c : Component) : c.readableBytes.length = c.readable := by
  simp [readableBytes, Memory.read]

@[simp] theorem readable_consume (c : Component) (n : Nat) :
    (c.consume n).readable = c.readable - n := by
  have := c.reader_le
  simp only [consume, readable]
  omega

@[simp] theorem room_consume (c : Component) (n : Nat) : (c.consume n).room = c.room := rfl

@[simp] theorem room_poke (c : Component) (bytes : Bytes) : (c.poke bytes).room = c.room := by
  simp only [room, poke]
  rfl

@[simp] theorem readable_poke (c : Component) (bytes : Bytes) :
    (c.poke bytes).readable = c.readable := rfl

@[simp] theorem readable_commit (c : Component) (n : Nat) :
    (c.commit n).readable = c.readable + min n c.room := by
  have := c.reader_le
  simp only [commit, readable]
  omega

@[simp] theorem room_commit (c : Component) (n : Nat) : (c.commit n).room = c.room - n := by
  obtain ⟨allocator, kind, memory, reader, writer, reader_le, writer_le⟩ := c
  cases kind <;> simp [room, commit] <;> omega

@[simp] theorem room_append (c : Component) (bytes : Bytes) :
    (c.append bytes).room = c.room - bytes.length := by
  simp [append]

@[simp] theorem readable_append (c : Component) (bytes : Bytes) :
    (c.append bytes).readable = c.readable + min bytes.length c.room := by
  simp [append]

end Component

end UdpTransport
