import Mathlib.Algebra.Order.Group.Multiset
import Mathlib.Tactic.Abel
import UdpTransport.Message
import UdpTransport.Proofs.Buffers.Visits
import UdpTransport.Proofs.Ledger
import UdpTransport.Proofs.Triples

/-!
# Ledgers in balance

A component is in use from its allocation until it is given back. Which components are in use is
told by the allocators that they are counted on, each as often as it has a component
(`Buffer.uses`); nothing that is done with a buffer but to close it changes that.

A ledger is in balance with such uses if each account has allocated what it has released and what is
in use (`Ledger.Balanced`). Allocating adds the new buffer to the uses, giving back takes a buffer
away, and everything else that is done with accounts keeps them balanced.
-/

namespace UdpTransport

/-! ## What is in use -/

/-- The allocators of components, each as often as it has a component. -/
def Component.uses (components : List Component) : Multiset AllocatorId :=
  ↑(components.map (·.allocator))

namespace Buffer

/-- The allocators of a buffer's components. -/
def uses (buffer : Buffer) : Multiset AllocatorId := Component.uses buffer.components

@[simp] theorem uses_closed : closed.uses = 0 := rfl

@[simp] theorem uses_close (buffer : Buffer) : buffer.close.uses = 0 := rfl

@[simp] theorem uses_touch (buffer : Buffer) (hint : String) :
    (buffer.touch hint).uses = buffer.uses := rfl

@[simp] theorem uses_zeroed (id : AllocatorId) (kind : MemoryKind) (size : Nat) :
    (ofComponents [.zeroed id kind size]).uses = {id} := rfl

@[simp] theorem uses_borrow (id : AllocatorId) (bytes : Bytes) :
    (ofComponents [.borrow id bytes]).uses = {id} := rfl

/-- Buffers that are joined are in use as before. -/
theorem uses_compose (parts : List Buffer) : (compose parts).uses = (parts.map uses).sum := by
  show Component.uses (parts.flatMap components) = _
  induction parts with
  | nil => rfl
  | cons first rest ih =>
    rw [List.map_cons, List.sum_cons, ← ih, List.flatMap_cons, Component.uses, List.map_append,
      ← Multiset.coe_add]
    rfl

/-! ### Cursors move, components stay -/

/-- Components that go on are in use as before. -/
theorem uses_of_evolves {before after : Buffer}
    (h : List.Forall₂ Component.Evolves before.components after.components) :
    after.uses = before.uses := by
  refine congrArg Multiset.ofList ?_
  generalize before.components = components, after.components = components' at h
  induction h with
  | nil => rfl
  | cons hfirst _ ih => rw [List.map_cons, List.map_cons, hfirst.allocator, ih]

theorem uses_ask (request : Request) {buffer after : Buffer} (h : request.ask buffer = .ok after) :
    after.uses = buffer.uses := uses_of_evolves (request.evolves_of_ask h)

theorem uses_readAll {buffer after : Buffer} {bytes : Bytes}
    (h : buffer.readAll = .ok (bytes, after)) : after.uses = buffer.uses :=
  uses_of_evolves (evolves_readAll h)

theorem uses_visit (side : Side) (buffer : Buffer) (visitor : Nat → Component → Visit) :
    (side.visit buffer visitor).1.uses = buffer.uses :=
  uses_of_evolves (side.evolves_visit buffer visitor)

end Buffer

namespace Message

/-- The allocators of the components of a message's payload. -/
def uses (message : Message) : Multiset AllocatorId := message.content.uses

@[simp] theorem uses_empty : empty.uses = 0 := rfl

theorem uses_withContent (message : Message) {content : Buffer} (h : message ≠ empty) :
    (message.withContent content).uses = content.uses := by
  unfold uses
  rw [content_withContent message content h]

/-- A message of the same payload, or of one with the same components. -/
theorem uses_withContent_of_eq {message : Message} {content : Buffer}
    (h : content.uses = message.uses) : (message.withContent content).uses = message.uses := by
  by_cases hempty : message = empty
  · subst hempty
    rfl
  · rw [uses_withContent message hempty, h]

/-- A message whose payload was moved elsewhere uses nothing. -/
@[simp] theorem uses_movedFrom (message : Message) : message.movedFrom.uses = 0 := by
  cases message <;> rfl

theorem uses_ofSegments {packet : Packet} {size : Int} {message : Message}
    (h : ofSegments packet size = .ok message) : message.uses = packet.content.uses := by
  unfold ofSegments at h
  split at h
  · cases h
    rfl
  · cases h

end Message

/-! ## Balance -/

namespace Ledger

/-- Each account has allocated what it has released and what is in use. What is in use is counted
on accounts that are there, and these make memory that can be written. -/
structure Balanced (ledger : Ledger) (uses : Multiset AllocatorId) : Prop where
  counted : ∀ {id account}, ledger.account? id = some account →
    account.allocated = account.released + uses.count id
  known : ∀ id ∈ uses, (ledger.account? id).isSome
  writable : ∀ {id account}, ledger.account? id = some account → account.kind ≠ .borrowed

namespace Balanced

variable {ledger : Ledger} {uses uses' : Multiset AllocatorId} {id : AllocatorId}

/-- A change of one account concerns the uses of that account only. -/
theorem update {change : Account → Account} (h : ledger.Balanced uses)
    (hcounted : ∀ account, ledger.account? id = some account →
      (change account).allocated = (change account).released + uses'.count id)
    (hwritable : ∀ account, ledger.account? id = some account →
      (change account).kind = account.kind)
    (hothers : ∀ other, other ≠ id → uses'.count other = uses.count other)
    (hknown : ∀ other ∈ uses', other = id ∨ other ∈ uses)
    (hthere : (ledger.account? id).isSome ∨ id ∉ uses') :
    (ledger.update id change).Balanced uses' where
  counted {other account} haccount := by
    rw [account?_update] at haccount
    obtain ⟨before, hbefore, rfl⟩ := Option.map_eq_some_iff.mp haccount
    by_cases hsame : id = other
    · subst hsame
      rw [if_pos rfl]
      exact hcounted before hbefore
    · rw [if_neg hsame, hothers other (Ne.symm hsame)]
      exact h.counted hbefore
  known other hother := by
    rw [account?_update, Option.isSome_map]
    rcases hknown other hother with rfl | hbefore
    · exact hthere.resolve_right (not_not_intro hother)
    · exact h.known other hbefore
  writable {other account} haccount := by
    rw [account?_update] at haccount
    obtain ⟨before, hbefore, rfl⟩ := Option.map_eq_some_iff.mp haccount
    by_cases hsame : id = other
    · subst hsame
      rw [if_pos rfl, hwritable before hbefore]
      exact h.writable hbefore
    · rw [if_neg hsame]
      exact h.writable hbefore

/-- A change of an account that leaves its counts alone. -/
theorem adjust {change : Account → Account} (h : ledger.Balanced uses)
    (hallocated : ∀ account, ledger.account? id = some account →
      (change account).allocated = account.allocated)
    (hreleased : ∀ account, ledger.account? id = some account →
      (change account).released = account.released)
    (hkind : ∀ account, ledger.account? id = some account →
      (change account).kind = account.kind) :
    (ledger.update id change).Balanced uses := by
  refine h.update (fun account haccount => ?_) hkind (fun _ _ => rfl)
    (fun _ hother => .inr hother) ?_
  · rw [hallocated account haccount, hreleased account haccount]
    exact h.counted haccount
  · by_cases hid : id ∈ uses
    · exact .inl (h.known id hid)
    · exact .inr hid

/-- One component more is in use. -/
theorem charge {account spent : Account} (h : ledger.Balanced uses)
    (haccount : ledger.account? id = some account)
    (hallocated : spent.allocated = account.allocated)
    (hreleased : spent.released = account.released) (hkind : spent.kind = account.kind) :
    (ledger.update id fun _ => spent.charge).Balanced (id ::ₘ uses) := by
  have hsame : ∀ found, ledger.account? id = some found → found = account := fun found hfound =>
    Option.some.inj (hfound.symm.trans haccount)
  refine h.update (fun found hfound => ?_) (fun found hfound => ?_) (fun other hother => ?_)
    (fun other hother => Multiset.mem_cons.mp hother) (.inl (by rw [haccount]; rfl))
  · show spent.allocated + 1 = spent.released + (id ::ₘ uses).count id
    rw [hallocated, hreleased, h.counted haccount, Multiset.count_cons_self, Nat.add_assoc]
  · rw [hsame found hfound]
    exact hkind
  · exact Multiset.count_cons_of_ne hother _

/-- A component is given back. -/
theorem credit (h : ledger.Balanced (id ::ₘ uses)) :
    (ledger.update id Account.credit).Balanced uses := by
  refine h.update (fun account haccount => ?_) (fun _ _ => rfl) (fun other hother => ?_)
    (fun other hother => .inr (Multiset.mem_cons_of_mem hother))
    (.inl (h.known id (Multiset.mem_cons_self ..)))
  · have hcounted := h.counted haccount
    rw [Multiset.count_cons_self] at hcounted
    show account.allocated = account.released + 1 + uses.count id
    omega
  · exact (Multiset.count_cons_of_ne hother _).symm

/-- Components are given back. -/
theorem release {components : List Component}
    (h : ledger.Balanced (Component.uses components + uses)) :
    (Ledger.release components ledger).Balanced uses := by
  induction components generalizing ledger with
  | nil => exact (zero_add uses) ▸ h
  | cons c rest ih =>
    have hcredited : (ledger.update c.allocator Account.credit).Balanced
        (Component.uses rest + uses) := by
      refine credit ?_
      rw [← Multiset.cons_add]
      exact h
    exact ih hcredited

theorem limit (h : ledger.Balanced uses) (id : AllocatorId) (allowance : Option Nat) :
    (ledger.limit id allowance).Balanced uses :=
  h.adjust (fun _ _ => rfl) (fun _ _ => rfl) fun _ _ => rfl

/-- A new account has nothing in use. -/
theorem append {kind : MemoryKind} (h : ledger.Balanced uses) (hkind : kind ≠ .borrowed) :
    Balanced ⟨ledger.accounts ++ [{ kind := kind }]⟩ uses := by
  -- An account is an old one, or the new one, which no use can name yet.
  have hcases : ∀ {id account}, account? ⟨ledger.accounts ++ [{ kind := kind }]⟩ id = some account →
      ledger.account? id = some account ∨
        ledger.account? id = none ∧ account = { kind := kind } := by
    intro id account haccount
    rcases Nat.lt_or_ge id ledger.accounts.length with hlt | hge
    · exact .inl ((List.getElem?_append_left hlt).symm.trans haccount)
    · refine .inr ⟨List.getElem?_eq_none hge, ?_⟩
      have hnew := (List.getElem?_append_right hge).symm.trans haccount
      exact (List.mem_singleton.mp (List.mem_of_getElem? hnew))
  constructor
  case counted =>
    intro id account haccount
    rcases hcases haccount with hold | ⟨hnone, rfl⟩
    · exact h.counted hold
    · have hunused : id ∉ uses := fun hid => by
        have hthere := h.known id hid
        rw [hnone] at hthere
        cases hthere
      rw [Multiset.count_eq_zero_of_notMem hunused]
  case known =>
    intro id hid
    obtain ⟨account, haccount⟩ := Option.isSome_iff_exists.mp (h.known id hid)
    have hlt : id < ledger.accounts.length := (List.getElem?_eq_some_iff.mp haccount).choose
    show ((ledger.accounts ++ _)[id]?).isSome
    rw [List.getElem?_append_left hlt]
    exact h.known id hid
  case writable =>
    intro id account haccount
    rcases hcases haccount with hold | ⟨_, rfl⟩
    · exact h.writable hold
    · exact hkind

end Balanced

/-! ## Allocations -/

/-- Fresh memory that can be written. -/
def Fresh (id : AllocatorId) (size : Nat) (buffer : Buffer) : Prop :=
  ∃ kind, kind ≠ .borrowed ∧ buffer = .ofComponents [.zeroed id kind size]

/-- An allocation that succeeds is counted, and one that fails is not. -/
theorem triple_allocate (id : AllocatorId) (size : Nat) (uses : Multiset AllocatorId) :
    Act.Triple (fun ledger => Balanced ledger uses) (allocate id size)
      (fun buffer ledger => Fresh id size buffer ∧ Balanced ledger (buffer.uses + uses))
      fun _ ledger => Balanced ledger uses := by
  refine .pointwise fun ledger h => ?_
  cases hspend : (ledger.account? id).bind Account.spend? with
  | none => exact .of_error (allocate_of_none hspend) h
  | some spent =>
    obtain ⟨account, haccount, hspent⟩ := Option.bind_eq_some_iff.mp hspend
    obtain ⟨hallocated, hreleased⟩ := spend?_counts hspent
    have hkind := kind_of_spend? hspent
    rcases Nat.lt_or_ge largestBlock size with hlarge | hfits
    · refine .of_error (allocate_of_large hspend hlarge) (h.adjust ?_ ?_ ?_)
      all_goals
        intro found hfound
        cases hfound.symm.trans haccount
        assumption
    · refine .of_ok (allocate_of_fits hspend hfits) ⟨⟨spent.kind, ?_, rfl⟩, ?_⟩
      · rw [hkind]
        exact h.writable haccount
      · rw [Buffer.uses_zeroed, Multiset.singleton_add]
        exact h.charge haccount hallocated hreleased hkind

theorem triple_wrap (id : AllocatorId) (bytes : Bytes) (uses : Multiset AllocatorId) :
    Act.Triple (fun ledger => Balanced ledger uses) (wrap id bytes)
      (fun buffer ledger => Balanced ledger (buffer.uses + uses))
      fun _ ledger => Balanced ledger uses := by
  refine .pointwise fun ledger h => ?_
  cases haccount : ledger.account? id with
  | none => exact .of_error (wrap_of_none haccount) h
  | some account =>
    refine .of_ok (wrap_of_some haccount) ?_
    rw [Buffer.uses_borrow, Multiset.singleton_add]
    exact h.charge haccount rfl rfl rfl

theorem triple_openAccount (kind : MemoryKind) (uses : Multiset AllocatorId) :
    Act.Triple (fun ledger => Balanced ledger uses) (openAccount kind)
      (fun _ ledger => Balanced ledger uses) fun _ ledger => Balanced ledger uses := by
  refine .pointwise fun ledger h => ?_
  by_cases hkind : kind = .borrowed
  · exact .of_error (openAccount_borrowed hkind) h
  · exact .of_ok (openAccount_owned hkind) (h.append hkind)

end Ledger

end UdpTransport
