import UdpTransport.Proofs.Buffers.Content

/-!
# How bytes are spread over components

Bytes that are written to a buffer go to its components in order, and each takes as many as it has
room for (`Buffer.shares`). They stand behind what the component held, so bytes that are readable in
a later component come after them. Whether a write appends to the content of the buffer depends on
that alone: it does so for all bytes if no component with room stands before one with readable bytes
(`Buffer.Gapless`), and otherwise not for all (`Buffer.appends_iff_gapless`).

`Buffer.write_spreads` says what a write comes to. A buffer of one component has no gaps, and a
write makes none, but to compose buffers may.
-/

namespace UdpTransport.Buffer

variable {c : Component} {rest components : List Component} {bytes : Bytes} {n : Nat}

/-- What each component takes of some bytes. -/
def shares : Bytes → List Component → List Bytes
  | _, [] => []
  | bytes, c :: rest => bytes.take c.room :: shares (bytes.drop c.room) rest

/-- The content of components that some bytes are written to. -/
def spread (bytes : Bytes) (components : List Component) : Bytes :=
  (List.zipWith (fun c share => c.readableBytes ++ share) components
    (shares bytes components)).flatten

/-- No component with room stands before one with readable bytes. -/
def Gapless (components : List Component) : Prop :=
  components.Pairwise fun c c' => c.isWritable → ¬ c'.isReadable

instance (components : List Component) : Decidable (Gapless components) :=
  inferInstanceAs (Decidable (List.Pairwise _ _))

/-! ## Shares -/

theorem spread_cons (bytes : Bytes) (c : Component) (rest : List Component) :
    spread bytes (c :: rest) =
      c.readableBytes ++ bytes.take c.room ++ spread (bytes.drop c.room) rest := by
  rw [spread, shares, List.zipWith_cons_cons, List.flatten_cons]
  rfl

/-- The shares are all there is, in order. -/
theorem flatten_shares (h : bytes.length ≤ Component.total Component.room components) :
    (shares bytes components).flatten = bytes := by
  induction components generalizing bytes with
  | nil => exact (List.length_eq_zero_iff.mp (Nat.le_zero.mp h)).symm
  | cons c rest ih =>
    rw [Component.total] at h
    have hrest : (bytes.drop c.room).length ≤ Component.total Component.room rest := by
      rw [List.length_drop]
      omega
    rw [shares, List.flatten_cons, ih hrest, List.take_append_drop]

/-- Each component holds its share behind what it held before. -/
theorem flatMap_appendFront (bytes : Bytes) (components : List Component) :
    (appendFront bytes components).flatMap Component.readableBytes = spread bytes components := by
  induction components generalizing bytes with
  | nil => rfl
  | cons c rest ih =>
    rw [appendFront, List.flatMap_cons, ih, spread_cons,
      Component.readableBytes_append (List.length_take_le ..)]

/-! ## Gaps -/

theorem isWritable_iff : c.isWritable = true ↔ 0 < c.room := by
  rw [Component.isWritable, bne_iff_ne, Nat.pos_iff_ne_zero]

theorem not_isReadable_iff : ¬ c.isReadable = true ↔ c.readableBytes = [] := by
  rw [Component.isReadable_iff, not_not]

theorem flatMap_readableBytes_eq_nil_iff :
    components.flatMap Component.readableBytes = [] ↔ ∀ c ∈ components, ¬ c.isReadable := by
  rw [List.flatMap_eq_nil_iff]
  exact forall₂_congr fun c _ => not_isReadable_iff.symm

/-- Without gaps, what is written is read behind all that was there. -/
theorem spread_of_gapless (hgapless : Gapless components)
    (h : bytes.length ≤ Component.total Component.room components) :
    spread bytes components = components.flatMap Component.readableBytes ++ bytes := by
  induction components generalizing bytes with
  | nil =>
    rw [List.length_eq_zero_iff.mp (Nat.le_zero.mp h)]
    rfl
  | cons c rest ih =>
    obtain ⟨hfirst, hrest⟩ := List.pairwise_cons.mp hgapless
    rw [Component.total] at h
    have hlength : (bytes.drop c.room).length ≤ Component.total Component.room rest := by
      rw [List.length_drop]
      omega
    rw [spread_cons, ih hrest hlength, List.flatMap_cons]
    -- Either nothing behind this component can be read, or it takes nothing.
    by_cases hroom : c.isWritable = true
    · rw [flatMap_readableBytes_eq_nil_iff.mpr fun c' hc' => hfirst c' hc' hroom, List.nil_append,
        List.append_nil, List.append_assoc, List.take_append_drop]
    · have hzero : c.room = 0 := Nat.eq_zero_of_not_pos (isWritable_iff.not.mp hroom)
      rw [hzero, List.take_zero, List.drop_zero, List.append_nil, List.append_assoc]

/-- If all bytes of some number are read behind what was there, there are no gaps: otherwise a byte
that differs from the first one behind the gap would be read before it. -/
theorem gapless_of_spread (hpos : 0 < n) (hfits : n ≤ Component.total Component.room components)
    (h : ∀ bytes : Bytes, bytes.length = n →
      spread bytes components = components.flatMap Component.readableBytes ++ bytes) :
    Gapless components := by
  induction components with
  | nil => exact .nil
  | cons c rest ih =>
    rw [Component.total] at hfits
    simp only [spread_cons, List.flatMap_cons, List.append_assoc, List.append_cancel_left_eq] at h
    by_cases hroom : c.isWritable = true
    · have hunread : rest.flatMap Component.readableBytes = [] := by
        -- If `b` stands first behind the gap, bytes that are not `b` cannot be read in its place.
        cases hbytes : rest.flatMap Component.readableBytes with
        | nil => rfl
        | cons b others =>
          have hother := h (List.replicate n (b + 1)) List.length_replicate
          obtain ⟨k, hk⟩ := Nat.exists_eq_succ_of_ne_zero (Nat.ne_of_gt hpos)
          obtain ⟨m, hm⟩ := Nat.exists_eq_succ_of_ne_zero (bne_iff_ne.mp hroom)
          rw [hbytes, hk, hm, List.replicate_succ, List.take_succ_cons] at hother
          have hsame : b + 1 = b := (List.cons.inj hother).1
          simp at hsame
      have hunreadable := flatMap_readableBytes_eq_nil_iff.mp hunread
      exact List.pairwise_cons.mpr ⟨fun c' hc' _ => hunreadable c' hc',
        List.pairwise_of_forall_mem_list fun _ _ c' hc' _ => hunreadable c' hc'⟩
    · have hzero : c.room = 0 := Nat.eq_zero_of_not_pos (isWritable_iff.not.mp hroom)
      refine List.pairwise_cons.mpr ⟨fun c' _ hwritable => absurd hwritable hroom, ?_⟩
      refine ih (by omega) fun bytes hlength => ?_
      have hrest := h bytes hlength
      rwa [hzero, List.take_zero, List.drop_zero, List.nil_append] at hrest

/-- A component that was written to is one that was there, with a share of the bytes. -/
theorem mem_appendFront {c' : Component} (h : c' ∈ appendFront bytes components) :
    ∃ c ∈ components, ∃ share : Bytes, share.length ≤ bytes.length ∧ c' = c.append share := by
  induction components generalizing bytes with
  | nil => exact absurd h List.not_mem_nil
  | cons c rest ih =>
    rcases List.mem_cons.mp h with rfl | hlater
    · exact ⟨c, List.mem_cons_self, _, List.length_take_le' .., rfl⟩
    · obtain ⟨found, hfound, share, hshare, rfl⟩ := ih hlater
      refine ⟨found, List.mem_cons_of_mem _ hfound, share, ?_, rfl⟩
      rw [List.length_drop] at hshare
      omega

/-- A write fills from the front, so what is left of the room is behind what was written. -/
theorem gapless_appendFront (hgapless : Gapless components) :
    Gapless (appendFront bytes components) := by
  induction components generalizing bytes with
  | nil => exact .nil
  | cons c rest ih =>
    obtain ⟨hfirst, hrest⟩ := List.pairwise_cons.mp hgapless
    refine List.pairwise_cons.mpr ⟨fun c' hc' hwritable => ?_, ih hrest⟩
    -- If there is room left, all was written, and nothing goes to later components.
    rw [isWritable_iff, Component.room_append, List.length_take] at hwritable
    obtain ⟨found, hfound, share, hshare, rfl⟩ := mem_appendFront hc'
    rw [List.length_drop] at hshare
    have hnone : share = [] := List.length_eq_zero_iff.mp (by omega)
    have hunread := hfirst found hfound (isWritable_iff.mpr (by omega))
    rw [not_isReadable_iff] at hunread ⊢
    rw [hnone, Component.readableBytes_append (Nat.zero_le _), hunread]
    rfl

/-! ## Writing -/

section Writing

variable {buffer : Buffer}

theorem components_withComponents (h : buffer.isOpen = true) (components : List Component) :
    (buffer.withComponents components).components = components := by
  obtain ⟨contents, hint⟩ := buffer
  cases contents with
  | none => cases h
  | some before => rfl

theorem ensureOpen_of_isOpen (h : buffer.isOpen = true) : buffer.ensureOpen = .ok () := by
  rw [ensureOpen, if_pos h]

/-- Bytes that fit are written. -/
theorem write_of_fits (hopen : buffer.isOpen = true) (hfits : bytes.length ≤ buffer.room) :
    buffer.write bytes =
      .ok (buffer.withComponents (appendFront bytes buffer.components)) := by
  rw [write, ensureOpen_of_isOpen hopen]
  exact if_pos hfits

theorem toBytes_appended (hopen : buffer.isOpen = true) (bytes : Bytes) :
    (buffer.withComponents (appendFront bytes buffer.components)).toBytes =
      spread bytes buffer.components := by
  rw [toBytes, components_withComponents hopen, flatMap_appendFront]

/-- Bytes of some number are appended if they are written behind all that can be read. -/
def Appends (buffer : Buffer) (n : Nat) : Prop :=
  ∀ bytes : Bytes, bytes.length = n →
    ∃ after, buffer.write bytes = .ok after ∧ after.toBytes = buffer.toBytes ++ bytes

/-- A write appends whatever is written if and only if there are no gaps. -/
theorem appends_iff_gapless (hopen : buffer.isOpen = true) (hpos : 0 < n)
    (hfits : n ≤ buffer.room) : buffer.Appends n ↔ Gapless buffer.components := by
  constructor
  · refine fun h => gapless_of_spread hpos hfits fun bytes hlength => ?_
    obtain ⟨after, hwrite, hafter⟩ := h bytes hlength
    rw [write_of_fits hopen (hlength ▸ hfits)] at hwrite
    cases hwrite
    rw [← toBytes_appended hopen, hafter]
    rfl
  · intro hgapless bytes hlength
    refine ⟨_, write_of_fits hopen (hlength ▸ hfits), ?_⟩
    rw [toBytes_appended hopen, spread_of_gapless hgapless (hlength ▸ hfits)]
    rfl

/-- **What a write comes to.** Bytes that fit are spread over the components in order, each of which
holds its share behind what it held before. All bytes of this number are read behind what was
readable in the whole buffer if and only if no component with room stands before one with readable
bytes. That is so for a buffer of a single component, and stays so when it is written to. -/
theorem write_spreads (hopen : buffer.isOpen = true) (hfits : bytes.length ≤ buffer.room) :
    ∃ after, buffer.write bytes = .ok after ∧
      after.toBytes = (List.zipWith (fun c share => c.readableBytes ++ share) buffer.components
        (shares bytes buffer.components)).flatten ∧
      (shares bytes buffer.components).flatten = bytes ∧
      (bytes ≠ [] → (buffer.Appends bytes.length ↔ Gapless buffer.components)) ∧
      (buffer.components.length ≤ 1 → Gapless buffer.components) ∧
      (Gapless buffer.components → Gapless after.components) := by
  refine ⟨_, write_of_fits hopen hfits, toBytes_appended hopen bytes, flatten_shares hfits,
    fun hsome => appends_iff_gapless hopen (List.length_pos_iff.mpr hsome) hfits, fun hone => ?_,
    fun hgapless => ?_⟩
  · match buffer.components, hone with
    | [], _ => exact .nil
    | [c], _ => exact List.pairwise_singleton ..
  · rw [components_withComponents hopen]
    exact gapless_appendFront hgapless

/-- Two buffers that are joined; the first has room left. -/
def joined : Buffer :=
  .compose [filled 0 .heap 4 [0x61, 0x62], filled 0 .heap 2 [0x63, 0x64]]

/-- A byte that is written to the room between two strings is read between them. -/
theorem write_spreads_joined :
    joined.isOpen = true ∧ [0x78].length ≤ joined.room ∧ joined.toBytes = [0x61, 0x62, 0x63, 0x64] ∧
      ¬ joined.Appends 1 ∧
      ∃ after, joined.write [0x78] = .ok after ∧
        after.toBytes = [0x61, 0x62, 0x78, 0x63, 0x64] := by
  have hopen : joined.isOpen = true := rfl
  have hfits : [(0x78 : UInt8)].length ≤ joined.room := by decide
  obtain ⟨after, hwrite, hbytes, -, happends, -⟩ := write_spreads hopen hfits
  refine ⟨hopen, hfits, by decide, fun h => ?_, after, hwrite, hbytes.trans (by decide)⟩
  have hgapless : Gapless joined.components := (happends (List.cons_ne_nil _ _)).mp h
  exact absurd hgapless (by decide)

end Writing

end UdpTransport.Buffer
