import Mathlib.Data.List.Forall2
import UdpTransport.Proofs.Buffers.Spreading

/-!
# Requests of a buffer

Bytes are written, and the cursors are moved, by requests for an amount (`Buffer.Request`), which
are made of a buffer as a whole, or of one component that a visitor is shown. A request is refused
before anything is done, on a closed buffer and for an amount that there is not
(`Request.ask_closed`, `Request.ask_beyond`). Otherwise the amounts change by exactly what was asked
for, each component stays in its place, and nothing changes but the bytes that a writer passed
(`Request.Granted`, `Request.ask_granted`).
-/

namespace UdpTransport

namespace Component

/-- Nothing that can be told from outside differs. -/
structure Alike (c c' : Component) : Prop where
  allocator : c'.allocator = c.allocator
  kind : c'.kind = c.kind
  content : c'.memory.content = c.memory.content
  reader : c'.reader = c.reader
  writer : c'.writer = c.writer

/-- A component goes on, and no bytes change but those that the writer passed. -/
structure Advances (c c' : Component) : Prop where
  evolves : Evolves c c'
  behind : c'.memory.content.drop c'.writer = c.memory.content.drop c'.writer

variable {c c' : Component}

namespace Alike

theorem refl (c : Component) : Alike c c := ⟨rfl, rfl, rfl, rfl, rfl⟩

theorem size (h : Alike c c') : c'.memory.size = c.memory.size := by
  rw [← Memory.length_content, h.content, Memory.length_content]

theorem readable (h : Alike c c') : c'.readable = c.readable := by
  rw [Component.readable, h.writer, h.reader]
  rfl

theorem room (h : Alike c c') : c'.room = c.room := by
  unfold Component.room
  rw [h.kind, h.size, h.writer]

theorem evolves (h : Alike c c') : Evolves c c' where
  allocator := h.allocator
  kind := h.kind
  size := h.size
  reader := Nat.le_of_eq h.reader.symm
  writer := Nat.le_of_eq h.writer.symm
  written := congrArg _ h.content
  borrowed _ := ⟨h.content, h.writer⟩

theorem advances (h : Alike c c') : Advances c c' := ⟨h.evolves, congrArg _ h.content⟩

theorem commit (h : Alike c c') (n : Nat) : Alike (c.commit n) (c'.commit n) where
  allocator := h.allocator
  kind := h.kind
  content := h.content
  reader := h.reader
  writer := by
    show c'.writer + min n c'.room = c.writer + min n c.room
    rw [h.writer, h.room]

/-- To store nothing changes nothing. -/
theorem poke_nil (c : Component) : Alike c (c.poke []) where
  allocator := rfl
  kind := rfl
  content := by
    rw [content_poke, List.take_nil, List.append_nil]
    exact List.take_append_drop c.writer _
  reader := rfl
  writer := rfl

end Alike

theorem Advances.alike {c'' : Component} (h : Advances c c') (halike : Alike c' c'') :
    Advances c c'' where
  evolves := h.evolves.trans halike.evolves
  behind := by
    rw [halike.content, halike.writer]
    exact h.behind

theorem advances_append {bytes : Bytes} (h : bytes.length ≤ c.room) :
    Advances c (c.append bytes) where
  evolves := .append c bytes
  behind := by
    have hlength : (c.memory.content.take c.writer ++ bytes).length = c.writer + bytes.length := by
      rw [List.length_append, length_take_writer]
    rw [content_append h, writer_append h, List.drop_left' hlength]

/-- The amount that components have in common is the same if each has the same. -/
theorem total_congr {amount : Component → Nat} {before after : List Component}
    {R : Component → Component → Prop} (h : List.Forall₂ R before after)
    (hsame : ∀ c c', R c c' → amount c' = amount c) : total amount after = total amount before := by
  induction h with
  | nil => rfl
  | cons hfirst _ ih => rw [total, total, hsame _ _ hfirst, ih]

/-- Components that are left alone. -/
theorem evolves_refl (components : List Component) : List.Forall₂ Evolves components components :=
  List.forall₂_same.mpr fun c _ => .refl c

/-- Components that go on, and then go on again. -/
theorem evolves_trans {first second third : List Component} (h : List.Forall₂ Evolves first second)
    (hlater : List.Forall₂ Evolves second third) : List.Forall₂ Evolves first third := by
  induction h generalizing third with
  | nil => exact hlater
  | cons hfirst _ ih =>
    cases hlater with
    | cons hsecond hrest => exact .cons (hfirst.trans hsecond) (ih hrest)

end Component

namespace Buffer

open Component (total Alike Advances Evolves)

/-- Components that take the places of others can be compared with them, be the buffer open or
closed. -/
theorem forall₂_withComponents {R : Component → Component → Prop} {buffer : Buffer}
    {components : List Component} (h : List.Forall₂ R buffer.components components) :
    List.Forall₂ R buffer.components (buffer.withComponents components).components := by
  obtain ⟨contents, hint⟩ := buffer
  cases contents with
  | some before => exact h
  | none => exact .nil

theorem evolves_updateFirst (eligible : Component → Bool) {change : Component → Component}
    (h : ∀ c, Evolves c (change c)) (components : List Component) :
    List.Forall₂ Evolves components (updateFirst eligible change components) := by
  induction components with
  | nil => exact .nil
  | cons c rest ih =>
    unfold updateFirst
    split
    · exact .cons (h c) (Component.evolves_refl rest)
    · exact .cons (.refl c) ih

/-! ## Requests -/

/-- What is asked of a buffer. -/
inductive Request where
  | write (bytes : Bytes)
  | skipWritable (n : Nat)
  | skipReadable (n : Nat)

namespace Request

variable {request : Request} {buffer : Buffer}

/-- The amount that is asked for. -/
def amount : Request → Nat
  | write bytes => bytes.length
  | skipWritable n | skipReadable n => n

/-- How many bytes a writer passes. -/
def written : Request → Nat
  | write bytes => bytes.length
  | skipWritable n => n
  | skipReadable _ => 0

/-- How many bytes a reader passes. -/
def taken : Request → Nat
  | write _ | skipWritable _ => 0
  | skipReadable n => n

/-- The amount that there is. -/
def available (buffer : Buffer) : Request → Nat
  | write _ | skipWritable _ => buffer.room
  | skipReadable _ => buffer.readable

/-- What is said about an amount that there is not. -/
def excess (available : Nat) : Request → Violation
  | write bytes => .writeBeyond bytes.length available
  | skipWritable n => .skipWritable n available
  | skipReadable n => .skipReadable n available

/-- Makes a request of a buffer. -/
def ask (buffer : Buffer) : Request → Except Fault Buffer
  | write bytes => buffer.write bytes
  | skipWritable n => buffer.skipWritable n
  | skipReadable n => buffer.skipReadable n

/-- Serves a request component by component, from the front. -/
def serve : Request → List Component → List Component
  | write bytes => appendFront bytes
  | skipWritable n => commitFront n
  | skipReadable n => consumeFront n

/-- A request was served: the amounts changed by what was asked for, and nothing else did but the
bytes that a writer passed. -/
structure Granted (request : Request) (before after : Buffer) : Prop where
  isOpen : after.isOpen = true
  hint : after.hint = before.hint
  capacity : after.capacity = before.capacity
  components : List.Forall₂ Advances before.components after.components
  readable : after.readable + request.taken = before.readable + request.written
  room : after.room + request.written = before.room
  contents : (∀ bytes, request ≠ write bytes) →
    after.components.map (·.memory.content) = before.components.map (·.memory.content)

/-- All requests are guarded in the same way. -/
theorem ask_eq (request : Request) (buffer : Buffer) :
    request.ask buffer = (buffer.ensureOpen >>= fun _ =>
      if request.amount ≤ request.available buffer then
        pure (buffer.withComponents (request.serve buffer.components))
      else throw (.violation (request.excess (request.available buffer)))) := by
  cases request <;> rfl

/-- Whatever there is too little of, the fault is the same. -/
theorem kind_excess (request : Request) (n : Nat) : (request.excess n).kind = .outOfRange := by
  cases request <;> rfl

theorem ask_closed (h : buffer.isOpen = false) (request : Request) :
    request.ask buffer = .error (.violation .bufferClosed) := by
  rw [ask_eq, ensureOpen, h]
  rfl

theorem ask_beyond (hopen : buffer.isOpen = true) (h : request.available buffer < request.amount) :
    request.ask buffer = .error (.violation (request.excess (request.available buffer))) := by
  rw [ask_eq, ensureOpen_of_isOpen hopen]
  exact if_neg (Nat.not_le.mpr h)

theorem ask_of_le (hopen : buffer.isOpen = true) (h : request.amount ≤ request.available buffer) :
    request.ask buffer = .ok (buffer.withComponents (request.serve buffer.components)) := by
  rw [ask_eq, ensureOpen_of_isOpen hopen]
  exact if_pos h

/-! ### Serving from the front -/

/-- Each component goes on from what it was, in its place. -/
theorem advances_serve (request : Request) (components : List Component) :
    List.Forall₂ Advances components (request.serve components) := by
  cases request with
  | write bytes =>
    show List.Forall₂ Advances components (appendFront bytes components)
    induction components generalizing bytes with
    | nil => exact .nil
    | cons c rest ih => exact .cons (Component.advances_append (List.length_take_le ..)) (ih _)
  | skipWritable n =>
    show List.Forall₂ Advances components (commitFront n components)
    induction components generalizing n with
    | nil => exact .nil
    | cons c rest ih => exact .cons ⟨.commit c n, rfl⟩ (ih _)
  | skipReadable n =>
    show List.Forall₂ Advances components (consumeFront n components)
    induction components generalizing n with
    | nil => exact .nil
    | cons c rest ih => exact .cons ⟨.consume c n, rfl⟩ (ih _)

/-- What is read is taken from the readable bytes, and leaves the room as it was. -/
theorem totals_consumeFront (n : Nat) (components : List Component) :
    total Component.readable (consumeFront n components) =
        total Component.readable components - n ∧
      total Component.room (consumeFront n components) = total Component.room components := by
  induction components generalizing n with
  | nil => exact ⟨(Nat.zero_sub n).symm, rfl⟩
  | cons c rest ih =>
    obtain ⟨hreadable, hroom⟩ := ih (n - c.readable)
    simp only [consumeFront, total, hreadable, hroom, Component.readable_consume,
      Component.room_consume, and_true]
    omega

/-- What is marked as written is room no more, and can be read. -/
theorem totals_commitFront (n : Nat) (components : List Component) :
    total Component.readable (commitFront n components) =
        total Component.readable components + min n (total Component.room components) ∧
      total Component.room (commitFront n components) = total Component.room components - n := by
  induction components generalizing n with
  | nil => simp [commitFront, total]
  | cons c rest ih =>
    obtain ⟨hreadable, hroom⟩ := ih (n - c.room)
    simp only [commitFront, total, hreadable, hroom, Component.readable_commit,
      Component.room_commit]
    omega

/-- To write leaves the same amounts as to mark as much as written. -/
theorem totals_appendFront (bytes : Bytes) (components : List Component) :
    total Component.readable (appendFront bytes components) =
        total Component.readable (commitFront bytes.length components) ∧
      total Component.room (appendFront bytes components) =
        total Component.room (commitFront bytes.length components) := by
  induction components generalizing bytes with
  | nil => exact ⟨rfl, rfl⟩
  | cons c rest ih =>
    obtain ⟨hreadable, hroom⟩ := ih (bytes.drop c.room)
    rw [List.length_drop] at hreadable hroom
    simp only [appendFront, commitFront, total, hreadable, hroom, Component.readable_append,
      Component.room_append, Component.readable_commit, Component.room_commit, List.length_take]
    omega

/-- What a request leaves of the amounts. -/
theorem totals_serve {components : List Component}
    (h : request.amount ≤ request.available (.ofComponents components)) :
    total Component.readable (request.serve components) + request.taken =
        total Component.readable components + request.written ∧
      total Component.room (request.serve components) + request.written =
        total Component.room components := by
  cases request with
  | write bytes =>
    have hle : bytes.length ≤ total Component.room components := h
    obtain ⟨hreadable, hroom⟩ := totals_commitFront bytes.length components
    obtain ⟨hreadable', hroom'⟩ := totals_appendFront bytes components
    simp only [serve, taken, written]
    omega
  | skipWritable n =>
    have hle : n ≤ total Component.room components := h
    obtain ⟨hreadable, hroom⟩ := totals_commitFront n components
    simp only [serve, taken, written]
    omega
  | skipReadable n =>
    have hle : n ≤ total Component.readable components := h
    obtain ⟨hreadable, hroom⟩ := totals_consumeFront n components
    simp only [serve, taken, written]
    omega

/-- To move cursors changes no bytes. -/
theorem contents_consumeFront (n : Nat) (components : List Component) :
    (consumeFront n components).map (·.memory.content) = components.map (·.memory.content) := by
  induction components generalizing n with
  | nil => rfl
  | cons c rest ih => exact congrArg (c.memory.content :: ·) (ih _)

theorem contents_commitFront (n : Nat) (components : List Component) :
    (commitFront n components).map (·.memory.content) = components.map (·.memory.content) := by
  induction components generalizing n with
  | nil => rfl
  | cons c rest ih => exact congrArg (c.memory.content :: ·) (ih _)

theorem contents_serve (components : List Component) (h : ∀ bytes, request ≠ write bytes) :
    (request.serve components).map (·.memory.content) = components.map (·.memory.content) := by
  cases request with
  | write bytes => exact absurd rfl (h bytes)
  | skipWritable n => exact contents_commitFront n components
  | skipReadable n => exact contents_consumeFront n components

/-- Whether a request is served is a matter of the components alone. -/
theorem granted_withComponents {components : List Component} (hopen : buffer.isOpen = true)
    (hadvances : List.Forall₂ Advances buffer.components components)
    (hreadable : total Component.readable components + request.taken =
      total Component.readable buffer.components + request.written)
    (hroom : total Component.room components + request.written =
      total Component.room buffer.components)
    (hcontents : (∀ bytes, request ≠ write bytes) →
      components.map (·.memory.content) = buffer.components.map (·.memory.content)) :
    request.Granted buffer (buffer.withComponents components) := by
  have hserved := components_withComponents hopen components
  constructor
  case isOpen =>
    rw [isOpen, withComponents, Option.isSome_map]
    exact hopen
  case hint => rfl
  -- No component changes its size, only how much of it is written or read.
  case capacity =>
    unfold capacity
    rw [hserved]
    exact Component.total_congr hadvances fun _ _ h => h.evolves.size
  case components => exact hserved.symm ▸ hadvances
  case readable =>
    unfold readable
    rw [hserved]
    exact hreadable
  case room =>
    unfold room
    rw [hserved]
    exact hroom
  case contents =>
    rw [hserved]
    exact hcontents

/-- **What there is enough of is served.** -/
theorem ask_granted (hopen : buffer.isOpen = true) (h : request.amount ≤ request.available buffer) :
    ∃ after, request.ask buffer = .ok after ∧ request.Granted buffer after := by
  have hamounts : request.amount ≤ request.available (.ofComponents buffer.components) := by
    cases request <;> exact h
  obtain ⟨hreadable, hroom⟩ := totals_serve hamounts
  exact ⟨_, ask_of_le hopen h, granted_withComponents hopen (request.advances_serve _) hreadable
    hroom (contents_serve buffer.components)⟩

/-- Whatever is asked, the components of a buffer go on from what they were. -/
theorem evolves_of_ask (request : Request) {after : Buffer} (h : request.ask buffer = .ok after) :
    List.Forall₂ Evolves buffer.components after.components := by
  rcases Bool.eq_false_or_eq_true buffer.isOpen with hopen | hclosed
  · rcases Nat.lt_or_ge (request.available buffer) request.amount with hbeyond | hle
    · rw [ask_beyond hopen hbeyond] at h
      cases h
    · obtain ⟨served, hserved, hgranted⟩ := ask_granted hopen hle
      cases h.symm.trans hserved
      exact hgranted.components.imp fun _ _ h => h.evolves
  · rw [ask_closed hclosed] at h
    cases h

end Request

/-- Bytes that are taken out are passed by the readers. -/
theorem evolves_readAll {buffer after : Buffer} {bytes : Bytes}
    (h : buffer.readAll = .ok (bytes, after)) :
    List.Forall₂ Evolves buffer.components after.components := by
  rcases Bool.eq_false_or_eq_true buffer.isOpen with hopen | hclosed
  · rw [readAll, ensureOpen_of_isOpen hopen] at h
    cases h
    rw [components_withComponents hopen, List.forall₂_map_right_iff]
    exact List.forall₂_same.mpr fun c _ => .consume c c.readable
  · rw [readAll, ensureOpen, hclosed] at h
    cases h

end Buffer

end UdpTransport
