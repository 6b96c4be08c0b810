import UdpTransport.Proofs.Buffers
import UdpTransport.Proofs.Bytes

/-!
# What is stored in a component

All bytes of a block of memory are its content; a stretch that is read is a part of the content, and
a write replaces one stretch and leaves what is before and behind it (`Memory.content_write`). For
a component this means that the readable bytes lie between its cursors
(`Component.readableBytes_eq`), that bytes which are appended can be read behind those that were
readable before (`Component.readableBytes_append`), and that whatever is done with it, its cursors
go forward only and nothing changes that was written before (`Component.Evolves`). Borrowed memory
is not written at all.
-/

namespace UdpTransport

namespace Memory

variable {memory : Memory} {start count : Nat}

/-- A stretch of the memory is a part of its content. -/
theorem read_eq (h : start + count ≤ memory.size) :
    memory.read start count = (memory.content.drop start).take count := by
  obtain ⟨behind, hsize⟩ := Nat.exists_eq_add_of_le h
  rw [content, hsize, Nat.add_assoc, Bytes.drop_fit_add, Bytes.take_fit_add]
  rfl

/-- **A write leaves what is before and behind it.** -/
theorem content_write {bytes : Bytes} (h : start + bytes.length ≤ memory.size) :
    (memory.write start bytes).content =
      memory.content.take start ++ bytes ++ memory.content.drop (start + bytes.length) := by
  obtain ⟨behind, hsize⟩ := Nat.exists_eq_add_of_le h
  -- A block may store fewer bytes than its size; what is missing in front is filled up first.
  have hstart : min start memory.size = start := by omega
  have hfits : bytes.take (memory.size - start) = bytes := List.take_of_length_le (by omega)
  have hfront : (Bytes.fit start memory.stored ++ bytes).length = start + bytes.length := by simp
  have hstored : (memory.write start bytes).stored =
      (Bytes.fit start memory.stored ++ bytes) ++ memory.stored.drop (start + bytes.length) := by
    simp only [write, hstart, hfits]
  rw [content, size_write, hstored, hsize, Bytes.fit_add, Bytes.fit_append hfront,
    List.drop_left' hfront, content, hsize, Bytes.drop_fit_add, Nat.add_assoc, Bytes.take_fit_add]

end Memory

namespace Component

variable {c c' c'' : Component} {n : Nat} {bytes : Bytes}

/-! ## Bytes between the cursors -/

theorem length_take_writer (c : Component) :
    (c.memory.content.take c.writer).length = c.writer := by
  rw [List.length_take, Memory.length_content, Nat.min_eq_left c.writer_le]

/-- The readable bytes are what was written from the reader on. -/
theorem readableBytes_eq (c : Component) :
    c.readableBytes = (c.memory.content.take c.writer).drop c.reader := by
  have hread := c.reader_le
  have hwrite := c.writer_le
  rw [readableBytes, readable, Memory.read_eq (by omega), List.drop_take]

theorem readableBytes_consume (c : Component) (n : Nat) :
    (c.consume n).readableBytes = c.readableBytes.drop n := by
  rw [readableBytes_eq, readableBytes_eq, List.drop_drop]
  show (c.memory.content.take c.writer).drop (c.reader + min n c.readable) = _
  rcases Nat.le_total n c.readable with hle | hle
  · rw [Nat.min_eq_left hle]
  · -- What is consumed beyond the writer is nothing.
    have hread := c.reader_le
    have hreadable : c.readable = c.writer - c.reader := rfl
    have hlength := c.length_take_writer
    rw [Nat.min_eq_right hle, List.drop_of_length_le (by omega), List.drop_of_length_le (by omega)]

theorem content_poke (c : Component) (bytes : Bytes) :
    (c.poke bytes).memory.content = c.memory.content.take c.writer ++ bytes.take c.room ++
      c.memory.content.drop (c.writer + (bytes.take c.room).length) :=
  Memory.content_write (c.writer_add_le (List.length_take_le ..))

theorem content_append (h : bytes.length ≤ c.room) :
    (c.append bytes).memory.content = c.memory.content.take c.writer ++ bytes ++
      c.memory.content.drop (c.writer + bytes.length) := by
  show (c.poke bytes).memory.content = _
  rw [content_poke, List.take_of_length_le h]

theorem writer_append (h : bytes.length ≤ c.room) :
    (c.append bytes).writer = c.writer + bytes.length := by
  show c.writer + min bytes.length (c.poke bytes).room = _
  rw [room_poke, Nat.min_eq_left h]

/-- **What is appended is read behind what was readable before.** -/
theorem readableBytes_append (h : bytes.length ≤ c.room) :
    (c.append bytes).readableBytes = c.readableBytes ++ bytes := by
  have hwritten : (c.append bytes).memory.content.take (c.append bytes).writer =
      c.memory.content.take c.writer ++ bytes := by
    rw [content_append h, writer_append h, List.take_left']
    rw [List.length_append, length_take_writer]
  have hreader : c.reader ≤ (c.memory.content.take c.writer).length :=
    Nat.le_trans c.reader_le (Nat.le_of_eq c.length_take_writer.symm)
  rw [readableBytes_eq, hwritten, readableBytes_eq, ← List.drop_append_of_le_length hreader]
  rfl

/-- Borrowed memory has no room. -/
theorem room_borrowed (h : c.kind = .borrowed) : c.room = 0 := by
  unfold room
  rw [h]

/-! ## What may become of a component -/

/-- A component goes on: its cursors move forward, and what was written stays. The memory that it
borrows is left as it is. -/
structure Evolves (c c' : Component) : Prop where
  allocator : c'.allocator = c.allocator
  kind : c'.kind = c.kind
  size : c'.memory.size = c.memory.size
  reader : c.reader ≤ c'.reader
  writer : c.writer ≤ c'.writer
  written : c'.memory.content.take c.writer = c.memory.content.take c.writer
  borrowed : c.kind = .borrowed → c'.memory.content = c.memory.content ∧ c'.writer = c.writer

namespace Evolves

theorem refl (c : Component) : Evolves c c :=
  ⟨rfl, rfl, rfl, Nat.le_refl _, Nat.le_refl _, rfl, fun _ => ⟨rfl, rfl⟩⟩

theorem trans (first : Evolves c c') (later : Evolves c' c'') : Evolves c c'' where
  allocator := later.allocator.trans first.allocator
  kind := later.kind.trans first.kind
  size := later.size.trans first.size
  reader := Nat.le_trans first.reader later.reader
  writer := Nat.le_trans first.writer later.writer
  written := by
    have hlater := congrArg (List.take c.writer) later.written
    rw [List.take_take, List.take_take, Nat.min_eq_left first.writer] at hlater
    exact hlater.trans first.written
  borrowed hborrowed := by
    obtain ⟨hfirst, hwriter⟩ := first.borrowed hborrowed
    obtain ⟨hlater, hwriter'⟩ := later.borrowed (first.kind.trans hborrowed)
    exact ⟨hlater.trans hfirst, hwriter'.trans hwriter⟩

theorem consume (c : Component) (n : Nat) : Evolves c (c.consume n) :=
  ⟨rfl, rfl, rfl, Nat.le_add_right .., Nat.le_refl _, rfl, fun _ => ⟨rfl, rfl⟩⟩

theorem commit (c : Component) (n : Nat) : Evolves c (c.commit n) where
  allocator := rfl
  kind := rfl
  size := rfl
  reader := Nat.le_refl _
  writer := Nat.le_add_right ..
  written := rfl
  borrowed h := by
    refine ⟨rfl, ?_⟩
    show c.writer + min n c.room = c.writer
    rw [room_borrowed h, Nat.min_zero, Nat.add_zero]

theorem poke (c : Component) (bytes : Bytes) : Evolves c (c.poke bytes) where
  allocator := rfl
  kind := rfl
  size := rfl
  reader := Nat.le_refl _
  writer := Nat.le_refl _
  written := by
    rw [content_poke, List.append_assoc, List.take_left' c.length_take_writer]
  borrowed h := by
    refine ⟨?_, rfl⟩
    rw [content_poke, room_borrowed h, List.take_zero, List.append_nil]
    exact List.take_append_drop c.writer _

theorem append (c : Component) (bytes : Bytes) : Evolves c (c.append bytes) :=
  (poke c bytes).trans (commit _ _)

end Evolves

end Component

end UdpTransport
