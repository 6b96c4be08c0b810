import UdpTransport.Buffer.Basic

/-!
# What buffers hold

Facts about the content of buffers that sending and receiving share: empty components hold nothing,
and bytes written to fresh memory are what can be read from it.
-/

namespace UdpTransport

namespace Component

variable {c : Component}

theorem isReadable_iff : c.isReadable = true ↔ c.readableBytes ≠ [] := by
  rw [isReadable, bne_iff_ne, ← length_readableBytes]
  exact not_congr List.length_eq_zero_iff

theorem readableBytes_eq_nil (h : ¬ c.isReadable) : c.readableBytes = [] :=
  Decidable.byContradiction fun hne => h (isReadable_iff.mpr hne)

theorem room_zeroed {allocator : AllocatorId} {kind : MemoryKind} {size : Nat}
    (hkind : kind ≠ .borrowed) : (zeroed allocator kind size).room = size := by
  cases kind with
  | direct => rfl
  | heap => rfl
  | borrowed => exact absurd rfl hkind

theorem isWritable_zeroed {allocator : AllocatorId} {kind : MemoryKind} {size : Nat}
    (hkind : kind ≠ .borrowed) (hsize : 0 < size) :
    (zeroed allocator kind size).isWritable = true := by
  rw [isWritable, room_zeroed hkind, bne_iff_ne]
  exact Nat.ne_of_gt hsize

@[simp] theorem consume_zero (c : Component) : c.consume 0 = c := by
  simp [consume]

@[simp] theorem commit_zero (c : Component) : c.commit 0 = c := by
  simp [commit]

/-- Bytes stored in fresh memory can be read back as soon as the cursor has passed them. -/
theorem readableBytes_append_zeroed {allocator : AllocatorId} {kind : MemoryKind} {size : Nat}
    {bytes : Bytes} (hkind : kind ≠ .borrowed) (hfits : bytes.length ≤ size) :
    ((zeroed allocator kind size).append bytes).readableBytes = bytes := by
  have hroom : (zeroed allocator kind size).room = size := room_zeroed hkind
  have hread : ((zeroed allocator kind size).append bytes).readable = bytes.length := by
    rw [readable_append, hroom, Nat.min_eq_left hfits]
    exact Nat.zero_add _
  have hstored : ((zeroed allocator kind size).append bytes).memory.stored = bytes := by
    have hwrite : ((zeroed allocator kind size).append bytes).memory =
        (Memory.zeroed size).write 0 (bytes.take (zeroed allocator kind size).room) := rfl
    rw [hwrite, hroom]
    simp [Memory.write, Memory.zeroed, Bytes.fit, Bytes.zeros, List.take_of_length_le hfits]
  show Bytes.window _ 0 _ = bytes
  rw [hread, hstored, Bytes.window, List.drop_zero]
  exact Bytes.fit_eq_self rfl

end Component

namespace Buffer

/-- Only components with readable bytes contribute to the content. -/
theorem toBytes_eq_flatMap_readable (buffer : Buffer) :
    buffer.toBytes = buffer.readableComponents.flatMap Component.readableBytes := by
  unfold toBytes readableComponents
  induction buffer.components with
  | nil => rfl
  | cons c rest ih =>
    by_cases h : c.isReadable
    · rw [List.filter_cons_of_pos h, List.flatMap_cons, List.flatMap_cons, ih]
    · rw [List.filter_cons_of_neg h, List.flatMap_cons, ih, Component.readableBytes_eq_nil h]
      rfl

theorem toBytes_eq_nil_iff (buffer : Buffer) : buffer.toBytes = [] ↔ buffer.readable = 0 := by
  rw [← length_toBytes]
  exact List.length_eq_zero_iff.symm

/-- A buffer over memory that was fresh before the given bytes were written to it. -/
def filled (allocator : AllocatorId) (kind : MemoryKind) (size : Nat) (bytes : Bytes) : Buffer :=
  .ofComponents [(Component.zeroed allocator kind size).append bytes]

section Filled

variable {allocator : AllocatorId} {kind : MemoryKind} {size : Nat} {bytes : Bytes}

theorem capacity_filled : (filled allocator kind size bytes).capacity = size := rfl

theorem toBytes_filled (hkind : kind ≠ .borrowed) (hfits : bytes.length ≤ size) :
    (filled allocator kind size bytes).toBytes = bytes := by
  show (Component.append _ bytes).readableBytes ++ [] = bytes
  rw [List.append_nil, Component.readableBytes_append_zeroed hkind hfits]

/-- Bytes that fit are written to fresh memory. -/
theorem write_zeroed (hkind : kind ≠ .borrowed) (hfits : bytes.length ≤ size) :
    (ofComponents [.zeroed allocator kind size]).write bytes =
      .ok (filled allocator kind size bytes) := by
  have hroom := @Component.room_zeroed allocator kind size hkind
  have hfit : bytes.length ≤ (ofComponents [.zeroed allocator kind size]).room := by
    show bytes.length ≤ (Component.zeroed allocator kind size).room + 0
    omega
  have hall : bytes.take (Component.zeroed allocator kind size).room = bytes :=
    List.take_of_length_le (by omega)
  unfold write
  show (if _ then _ else _) = _
  rw [if_pos hfit]
  simp only [appendFront, components, ofComponents, Option.getD_some, hall]
  rfl

end Filled

end Buffer

end UdpTransport
