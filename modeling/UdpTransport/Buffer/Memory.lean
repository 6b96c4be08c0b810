import UdpTransport.Bytes

/-!
# Zeroed memory

A block of memory has a size and starts out as zeros. Only the front part that was ever written is
stored; `Memory.content` is the whole block. `Memory.write` keeps the size and changes exactly the
stretch it is given (`content_write`), `Memory.read` gives a stretch of the content.
-/

namespace UdpTransport

/-- A block of memory, stored up to the last byte that was written. -/
structure Memory where
  size : Nat
  /-- The front part of the block; the rest is zero. -/
  stored : Bytes
  stored_le : stored.length ≤ size
  deriving DecidableEq, Repr

namespace Memory

/-- A block of zeros. -/
def zeroed (size : Nat) : Memory := ⟨size, [], Nat.zero_le _⟩

/-- A block that holds the given bytes and nothing else. -/
def ofBytes (bytes : Bytes) : Memory := ⟨bytes.length, bytes, Nat.le_refl _⟩

/-- All bytes of the block. -/
def content (memory : Memory) : Bytes := Bytes.fit memory.size memory.stored

/-- `count` bytes from `start` on. -/
def read (memory : Memory) (start count : Nat) : Bytes := Bytes.window memory.stored start count

/-- Stores bytes from `start` on, as many as fit into the block. -/
def write (memory : Memory) (start : Nat) (bytes : Bytes) : Memory :=
  let first := min start memory.size
  let fitting := bytes.take (memory.size - first)
  { memory with
    stored := Bytes.fit first memory.stored ++ fitting ++
      memory.stored.drop (first + fitting.length)
    stored_le := by
      have bound := memory.stored_le
      have fits : fitting.length ≤ memory.size - first := List.length_take_le ..
      have first_le : first ≤ memory.size := Nat.min_le_right ..
      simp only [List.length_append, Bytes.length_fit, List.length_drop]
      omega }

@[simp] theorem size_ofBytes (bytes : Bytes) : (ofBytes bytes).size = bytes.length := rfl

@[simp] theorem size_write (memory : Memory) (start : Nat) (bytes : Bytes) :
    (memory.write start bytes).size = memory.size := rfl

@[simp] theorem length_content (memory : Memory) : memory.content.length = memory.size := by
  simp [content]

end Memory

end UdpTransport
