import UdpTransport.Receive.Handle

/-!
# The sizes of receive buffers

A receive handle asks for buffers of some size, and an adaptive one for another size after every
read. Whatever is read, the size stays positive and small enough to be asked for
(`ReceiveHandle.Sized`), if it was in the beginning; so it is for the handles of every policy that
can be made, as long as the least size is one that the table has (`sized_of_fixed`,
`sized_of_adaptive`).
-/

namespace UdpTransport

/-! ## The table -/

namespace SizeTable

theorem size_bounds {position : Nat} (h : position ≤ last) :
    0 < size position ∧ size position ≤ size last := by
  have hall : ∀ position ∈ List.range (last + 1),
      0 < size position ∧ size position ≤ size last := by decide
  exact hall position (List.mem_range.mpr (Nat.lt_succ_of_le h))

/-- The position of a size that the table reaches is one of a size that is large enough. -/
theorem le_size_position {wanted : Int} (h : wanted ≤ size last) :
    wanted ≤ size (position wanted) := by
  have hlast : size last ∈ sizes := by decide
  have hfound : sizes.findIdx (fun (size : Nat) => wanted ≤ (size : Int)) < sizes.length :=
    List.findIdx_lt_length_of_exists ⟨size last, hlast, decide_eq_true h⟩
  have hposition : position wanted = sizes.findIdx fun (size : Nat) => wanted ≤ (size : Int) := by
    rw [length_sizes] at hfound
    exact Nat.min_eq_right (Nat.le_of_lt_succ hfound)
  have hlarge := List.findIdx_getElem (w := hfound)
  rw [hposition]
  show wanted ≤ ((sizes.getD _ 0 : Nat) : Int)
  rw [List.getD_eq_getElem?_getD, List.getElem?_eq_getElem hfound]
  exact of_decide_eq_true hlarge

end SizeTable

/-! ## Adaptive sizes -/

namespace ReceivePolicy

theorem highestPosition_le (maximum : Int) : highestPosition maximum ≤ SizeTable.last := by
  have hposition := SizeTable.position_le maximum
  unfold highestPosition
  dsimp only
  split <;> omega

/-- What an adaptive policy comes to, if there is one with these bounds. -/
theorem sizing_of_adaptive {policy : ReceivePolicy} {minimum initial maximum : Int}
    (hpolicy : adaptive minimum initial maximum = .ok policy) :
    policy.sizing = .adaptive (lowestPosition minimum)
      (min (max (SizeTable.position initial) (lowestPosition minimum)) (highestPosition maximum))
      (highestPosition maximum) := by
  unfold adaptive at hpolicy
  split at hpolicy
  · cases hpolicy
  split at hpolicy
  · cases hpolicy
  split at hpolicy
  · cases hpolicy
  cases hpolicy
  rfl

end ReceivePolicy

namespace AdaptiveSize

/-- All positions are in the table. -/
structure InTable (state : AdaptiveSize) : Prop where
  lowest : state.lowest ≤ SizeTable.last
  highest : state.highest ≤ SizeTable.last
  position : state.position ≤ SizeTable.last

theorem InTable.record {state : AdaptiveSize} (h : state.InTable) (amount : Int) :
    (state.record amount).InTable := by
  obtain ⟨lowest, highest, position⟩ := h
  unfold AdaptiveSize.record
  split
  · split
    · refine ⟨lowest, highest, ?_⟩
      show max (state.position - 1) state.lowest ≤ SizeTable.last
      omega
    · exact ⟨lowest, highest, position⟩
  · split
    · refine ⟨lowest, highest, ?_⟩
      show min (state.position + 4) state.highest ≤ SizeTable.last
      omega
    · exact ⟨lowest, highest, position⟩

end AdaptiveSize

/-! ## Receive handles -/

/-- Sizes that can be asked for, now and whatever is read. -/
def BufferSize.Sized : BufferSize → Prop
  | fixed size => 0 < size ∧ size ≤ maxInt32
  | adaptive state => state.InTable

namespace ReceiveHandle

variable {handle : ReceiveHandle}

@[simp] theorem limit_noteRead (handle : ReceiveHandle) (amount : Int) :
    (handle.noteRead amount).limit = handle.limit := by
  show (if amount = handle.attempted then handle.record amount else handle).limit = _
  unfold record
  grind

@[simp] theorem messages_noteRead (handle : ReceiveHandle) (amount : Int) :
    (handle.noteRead amount).messages = handle.messages := by
  show (if amount = handle.attempted then handle.record amount else handle).messages = _
  unfold record
  grind

@[simp] theorem last_noteRead (handle : ReceiveHandle) (amount : Int) :
    (handle.noteRead amount).last = amount := rfl

/-- The handle asks for buffers that are to be had. -/
def Sized (handle : ReceiveHandle) : Prop := handle.sizing.Sized

theorem Sized.guess_bounds (h : handle.Sized) :
    0 < handle.guess.toNat ∧ handle.guess.toNat ≤ maxInt32 := by
  unfold Sized at h
  unfold guess
  cases hsizing : handle.sizing with
  | fixed size =>
    rw [hsizing] at h
    obtain ⟨hpositive, hle⟩ := h
    dsimp only
    omega
  | adaptive state =>
    rw [hsizing] at h
    obtain ⟨hpositive, hle⟩ := SizeTable.size_bounds h.position
    have hlargest : SizeTable.size SizeTable.last ≤ maxInt32 := by decide
    exact ⟨hpositive, Nat.le_trans hle hlargest⟩

theorem Sized.record (h : handle.Sized) (amount : Int) : (handle.record amount).Sized := by
  unfold Sized at h
  unfold ReceiveHandle.record
  cases hsizing : handle.sizing with
  | fixed size => exact h
  | adaptive state =>
    rw [hsizing] at h
    exact h.record amount

theorem Sized.noteRead (h : handle.Sized) (amount : Int) : (handle.noteRead amount).Sized := by
  unfold ReceiveHandle.noteRead
  show (if amount = handle.attempted then handle.record amount else handle).sizing.Sized
  split
  · exact h.record amount
  · exact h

theorem Sized.complete (h : handle.Sized) : handle.complete.Sized := h.record handle.total

/-! ## New handles -/

/-- New handles of a policy of fixed buffers. -/
theorem sized_of_fixed {policy : ReceivePolicy} {size : Int}
    (hpolicy : ReceivePolicy.fixed size = .ok policy) (hsize : size ≤ maxInt32) (id : PolicyId) :
    (ofPolicy id policy).Sized := by
  unfold ReceivePolicy.fixed at hpolicy
  split at hpolicy
  · cases hpolicy
    exact ⟨‹_›, hsize⟩
  · cases hpolicy

/-- New handles of a policy of adaptive buffers. -/
theorem sized_of_adaptive {policy : ReceivePolicy} {minimum initial maximum : Int}
    (hpolicy : ReceivePolicy.adaptive minimum initial maximum = .ok policy)
    (hminimum : minimum ≤ SizeTable.size SizeTable.last) (id : PolicyId) :
    (ofPolicy id policy).Sized := by
  have hlowest : ReceivePolicy.lowestPosition minimum ≤ SizeTable.last := by
    have hlarge := SizeTable.le_size_position hminimum
    unfold ReceivePolicy.lowestPosition
    dsimp only
    rw [if_neg (by omega)]
    exact SizeTable.position_le minimum
  have hhighest := ReceivePolicy.highestPosition_le maximum
  unfold Sized ofPolicy
  dsimp only
  rw [ReceivePolicy.sizing_of_adaptive hpolicy]
  exact ⟨hlowest, hhighest, Nat.le_trans (Nat.min_le_right ..) hhighest⟩

end ReceiveHandle

end UdpTransport
