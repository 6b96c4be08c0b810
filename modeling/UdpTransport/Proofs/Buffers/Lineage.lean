import UdpTransport.Proofs.Buffers.Requests
import UdpTransport.Proofs.Memory.Balance

/-!
# Where components come from

Buffers are made, joined, moved and closed, and their components change places all the time. What is
there after such a run of operations descends from what was there before: each component is one that
was there, or one that an allocator made on the way, with its cursors moved on
(`Lineage`). No component comes out of two, and none out of nothing, since allocators count what
they make. A component of borrowed memory therefore holds the bytes that it held when the run began,
or with which it was made.

What an allocator gives out is made by it (`Ledger.Supplies`), and so is a copy of bytes, which are
written to what was made.
-/

namespace UdpTransport

open Component (Evolves)

/-! ## Descent -/

/-- A component as an allocator makes it: fresh memory, or somebody else's bytes. -/
inductive Component.Made : Component → Prop where
  | fresh (id : AllocatorId) (kind : MemoryKind) (size : Nat) : Made (.zeroed id kind size)
  | wrapped (id : AllocatorId) (bytes : Bytes) : Made (.borrow id bytes)

/-- What is there after a run descends from what was there before it, and from what was made on the
way, which is as much as the accounts say. -/
def Lineage (ledger ledger' : Ledger) (before after : Multiset Component) : Prop :=
  ∃ made kept : Multiset Component,
    (∀ c ∈ made, c.Made) ∧
    (∀ id, ledger'.allocated id = ledger.allocated id + made.countP (·.allocator = id)) ∧
    kept ≤ before + made ∧ Multiset.Rel Evolves kept after

namespace Lineage

variable {ledger ledger' ledger'' : Ledger} {before after after' : Multiset Component}

theorem rel_refl (components : Multiset Component) : Multiset.Rel Evolves components components :=
  Multiset.rel_refl_of_refl_on fun c _ => .refl c

/-- Components that go on in their places go on in any order. -/
theorem rel_coe {first second : List Component} (h : List.Forall₂ Evolves first second) :
    Multiset.Rel Evolves (first : Multiset Component) second := by
  induction h with
  | nil => exact .zero
  | cons hfirst _ ih => exact .cons hfirst ih

theorem refl (ledger : Ledger) (components : Multiset Component) :
    Lineage ledger ledger components components := by
  refine ⟨0, components, fun c hc => absurd hc (Multiset.notMem_zero c), fun id => ?_, ?_,
    rel_refl components⟩
  · rw [Multiset.countP_zero, Nat.add_zero]
  · rw [add_zero]

/-- Operations that make nothing may be done with accounts. -/
theorem counting (h : Lineage ledger ledger' before after)
    (hsame : ∀ id, ledger''.allocated id = ledger'.allocated id) :
    Lineage ledger ledger'' before after := by
  obtain ⟨made, kept, hmade, hcounts, hkept, hrel⟩ := h
  exact ⟨made, kept, hmade, fun id => (hsame id).trans (hcounts id), hkept, hrel⟩

/-- Components go on from what they are. -/
theorem evolve (h : Lineage ledger ledger' before after)
    (hevolve : Multiset.Rel Evolves after after') : Lineage ledger ledger' before after' := by
  obtain ⟨made, kept, hmade, hcounts, hkept, hrel⟩ := h
  have : IsTrans Component Evolves := ⟨fun _ _ _ first later => first.trans later⟩
  exact ⟨made, kept, hmade, hcounts, hkept, Multiset.Rel.trans _ hrel hevolve⟩

/-- Components are given back. -/
theorem giveBack {gone : Multiset Component} (h : Lineage ledger ledger' before (gone + after)) :
    Lineage ledger ledger' before after := by
  obtain ⟨made, kept, hmade, hcounts, hkept, hrel⟩ := h
  -- What is left descends from a part of what was kept.
  obtain ⟨lost, left, -, hleft, rfl⟩ := Multiset.rel_add_right.mp hrel
  exact ⟨made, left, hmade, hcounts, le_trans (Multiset.le_add_left left lost) hkept, hleft⟩

/-- A component is made and counted. -/
theorem make {c : Component} (h : Lineage ledger ledger' before after) (hc : c.Made)
    (hcounted : ∀ id, ledger''.allocated id =
      ledger'.allocated id + if c.allocator = id then 1 else 0) :
    Lineage ledger ledger'' before (c ::ₘ after) := by
  obtain ⟨made, kept, hmade, hcounts, hkept, hrel⟩ := h
  refine ⟨c ::ₘ made, c ::ₘ kept, fun other hother => ?_, fun id => ?_, ?_, hrel.cons (.refl c)⟩
  · rcases Multiset.mem_cons.mp hother with rfl | hold
    · exact hc
    · exact hmade other hold
  · rw [hcounted, hcounts, Multiset.countP_cons, Nat.add_assoc]
  · rw [Multiset.add_cons]
    exact Multiset.cons_le_cons c hkept

end Lineage

/-! ## What allocators give out -/

namespace Buffer

/-- The components of a buffer, in no order. -/
def stock (buffer : Buffer) : Multiset Component := buffer.components

/-- The components of several buffers. -/
def stockAll (buffers : List Buffer) : Multiset Component := (buffers.map stock).sum

theorem stock_closed : closed.stock = 0 := rfl

theorem stock_compose (parts : List Buffer) : (compose parts).stock = stockAll parts := by
  show ((parts.flatMap components : List Component) : Multiset Component) = _
  induction parts with
  | nil => rfl
  | cons first rest ih =>
    show ((first.components ++ rest.flatMap components : List Component) :
      Multiset Component) = (first.stock :: rest.map stock).sum
    rw [List.sum_cons, ← Multiset.coe_add, ih]
    rfl

theorem rel_stock {before after : Buffer}
    (h : List.Forall₂ Evolves before.components after.components) :
    Multiset.Rel Evolves before.stock after.stock := Lineage.rel_coe h

end Buffer

namespace Ledger

/-- What an operation gives besides what is there is made and counted, or was made before. -/
def Supplies {α : Type} (act : Act Ledger α) (given : α → Multiset Component) : Prop :=
  ∀ ledger before after, Act.Triple (fun ledger' => Lineage ledger ledger' before after) act
    (fun a ledger' => Lineage ledger ledger' before (given a + after))
    fun _ ledger' => Lineage ledger ledger' before after

theorem supplies_allocate (id : AllocatorId) (size : Nat) :
    Supplies (allocate id size) Buffer.stock := by
  intro start before after
  refine .pointwise fun ledger h => ?_
  cases hspend : (ledger.account? id).bind Account.spend? with
  | none => exact .of_error (allocate_of_none hspend) h
  | some spent =>
    obtain ⟨account, haccount, hspent⟩ := Option.bind_eq_some_iff.mp hspend
    obtain ⟨hallocated, -⟩ := spend?_counts hspent
    rcases Nat.lt_or_ge largestBlock size with hlarge | hfits
    · -- The allowance is used up before the size is looked at, but nothing is counted.
      exact .of_error (allocate_of_large hspend hlarge)
        (h.counting fun other => tally_replace haccount hallocated other)
    · exact .of_ok (allocate_of_fits hspend hfits)
        (h.make (.fresh id spent.kind size) (allocated_charge haccount hallocated))

theorem supplies_wrap (id : AllocatorId) (bytes : Bytes) :
    Supplies (wrap id bytes) Buffer.stock := by
  intro start before after
  refine .pointwise fun ledger h => ?_
  cases haccount : ledger.account? id with
  | none => exact .of_error (wrap_of_none haccount) h
  | some account =>
    exact .of_ok (wrap_of_some haccount)
      (h.make (.wrapped id bytes) (allocated_charge haccount rfl))

theorem supplies_copyOf (id : AllocatorId) (bytes : Bytes) :
    Supplies (copyOf id bytes) Buffer.stock := by
  intro start before after
  refine Act.Triple.bind (supplies_allocate id bytes.length start before after) fun buffer => ?_
  refine Act.Triple.ofExcept (fun written hwrite ledger h => ?_) fun fault hwrite ledger h => ?_
  · have hevolves := Buffer.rel_stock (Buffer.Request.evolves_of_ask (.write bytes) hwrite)
    exact h.evolve (hevolves.add (Lineage.rel_refl after))
  · exact h.giveBack

theorem supplies_openAccount (kind : MemoryKind) :
    Supplies (openAccount kind) fun _ => 0 := by
  intro start before after
  refine .pointwise fun ledger h => ?_
  by_cases hkind : kind = .borrowed
  · exact .of_error (openAccount_borrowed hkind) h
  · refine .of_ok (openAccount_owned hkind) ?_
    rw [zero_add]
    exact h.counting (tally_append ledger kind rfl)

/-- What is given back is counted on another side. -/
theorem supplies_discard (buffer : Buffer) : Supplies (discard buffer) fun _ => 0 := by
  intro start before after
  refine Act.Triple.modify fun ledger h => ?_
  rw [zero_add]
  exact h.counting (allocated_release _ ledger)

end Ledger

end UdpTransport
