import UdpTransport.Proofs.Sizing

/-!
# The bounds of adaptive sizes

The sizes of the table increase strictly, so bounds in bytes are bounds on positions: the lowest
position of an adaptive policy is the first one whose size reaches the minimum, and the highest is
the last one whose size is within the maximum (`lowestPosition_le_iff`, `le_highestPosition_iff`).
If the table has a size between the two, then whatever is done with a handle of the policy
(`HandleCall`), its position stays between them (`ReceiveHandle.ranges_runAll`).
-/

namespace UdpTransport

/-! ## Positions and sizes -/

namespace SizeTable

variable {first second i : Nat} {wanted : Int}

theorem pairwise_sizes : sizes.Pairwise (· < ·) := by decide

theorem size_eq_getElem (h : i < sizes.length) : size i = sizes[i] :=
  (List.getElem_eq_getD 0).symm

theorem size_lt (h : first < second) (hle : second ≤ last) : size first < size second := by
  have hsecond : second < sizes.length := Nat.lt_succ_of_le hle
  have hfirst : first < sizes.length := Nat.lt_trans h hsecond
  rw [size_eq_getElem hfirst, size_eq_getElem hsecond]
  exact List.pairwise_iff_getElem.mp pairwise_sizes first second hfirst hsecond h

/-- The sizes increase strictly. -/
theorem size_lt_iff (hfirst : first ≤ last) (hsecond : second ≤ last) :
    size first < size second ↔ first < second := by
  refine ⟨fun h => Nat.not_le.mp fun hle => ?_, fun h => size_lt h hsecond⟩
  rcases Nat.lt_or_eq_of_le hle with hlt | rfl
  · exact Nat.lt_asymm h (size_lt hlt hfirst)
  · exact Nat.lt_irrefl _ h

theorem size_le (h : first ≤ second) (hle : second ≤ last) : size first ≤ size second := by
  rcases Nat.lt_or_eq_of_le h with hlt | rfl
  · exact Nat.le_of_lt (size_lt hlt hle)
  · exact Nat.le_refl _

theorem size_inj (hfirst : first ≤ last) (hsecond : second ≤ last)
    (h : size first = size second) : first = second := by
  have hlt := size_lt_iff hfirst hsecond
  have hgt := size_lt_iff hsecond hfirst
  omega

/-- Every size stands at a position. -/
theorem exists_position {bytes : Nat} (h : bytes ∈ sizes) : ∃ i ≤ last, size i = bytes := by
  obtain ⟨i, hi, rfl⟩ := List.getElem_of_mem h
  exact ⟨i, Nat.le_of_lt_succ hi, size_eq_getElem hi⟩

/-- The sizes before the position of a wanted size are too small. -/
theorem size_lt_of_lt_position (h : i < position wanted) : (size i : Int) < wanted := by
  have hbefore : i < sizes.findIdx fun (size : Nat) => wanted ≤ (size : Int) :=
    Nat.lt_of_lt_of_le h (Nat.min_le_right ..)
  have hlength : i < sizes.length := Nat.lt_of_lt_of_le hbefore List.findIdx_le_length
  have hsmall := List.not_of_lt_findIdx hbefore
  rw [size_eq_getElem hlength]
  exact Int.not_le.mp (of_decide_eq_false hsmall)

/-- A size that is too small is found only where all are. -/
theorem le_size_of_position_lt (h : position wanted < last) : wanted ≤ size (position wanted) := by
  refine le_size_position (Int.not_lt.mp fun hbeyond => ?_)
  have hnone : sizes.findIdx (fun (size : Nat) => wanted ≤ (size : Int)) = sizes.length := by
    refine List.findIdx_eq_length.mpr fun bytes hmem => decide_eq_false ?_
    obtain ⟨i, hi, rfl⟩ := exists_position hmem
    have hsize := (size_bounds hi).2
    omega
  rw [position, hnone, length_sizes] at h
  omega

/-- Where the table has a size that is large enough, the position is that of the first one. -/
theorem position_le_iff (hi : i ≤ last) (hwanted : wanted ≤ size last) :
    position wanted ≤ i ↔ wanted ≤ size i := by
  refine ⟨fun h => ?_, fun h => Nat.not_lt.mp fun hlt => ?_⟩
  · have hposition := le_size_position hwanted
    rcases Nat.lt_or_eq_of_le h with hlt | heq
    · have hsize := size_lt hlt hi
      omega
    · rwa [heq] at hposition
  · have hsmall := size_lt_of_lt_position hlt
    omega

end SizeTable

/-! ## Bounds of a policy -/

namespace ReceivePolicy

variable {minimum maximum : Int} {i : Nat}

open SizeTable (size last)

/-- **The lowest position** is the first one whose size reaches the minimum. -/
theorem lowestPosition_le_iff (hi : i ≤ last) (hminimum : minimum ≤ size last) :
    lowestPosition minimum ≤ i ↔ minimum ≤ size i := by
  have hlarge := SizeTable.le_size_position hminimum
  unfold lowestPosition
  dsimp only
  rw [if_neg (Int.not_lt.mpr hlarge), SizeTable.position_le_iff hi hminimum]

/-- **The highest position** is the last one whose size is within the maximum. -/
theorem le_highestPosition_iff (hi : i ≤ last) (hmaximum : (size 0 : Int) ≤ maximum) :
    i ≤ highestPosition maximum ↔ (size i : Int) ≤ maximum := by
  have hposition := SizeTable.position_le maximum
  have hbefore := fun j => @SizeTable.size_lt_of_lt_position j maximum
  unfold highestPosition
  dsimp only
  split
  case isTrue hlarge =>
    -- The size that was found is too large, and it is not the first one.
    have hpos : 0 < SizeTable.position maximum := by
      refine Nat.pos_of_ne_zero fun hzero => ?_
      rw [hzero] at hlarge
      omega
    refine ⟨fun h => Int.le_of_lt (hbefore i (by omega)), fun h => ?_⟩
    refine Nat.le_sub_one_of_lt (Nat.not_le.mp fun hle => ?_)
    rcases Nat.lt_or_eq_of_le hle with hlt | heq
    · have hsize := SizeTable.size_lt hlt hi
      omega
    · rw [heq] at hlarge
      omega
  case isFalse hsmall =>
    refine ⟨fun h => ?_, fun h => Nat.not_lt.mp fun hlt => ?_⟩
    · rcases Nat.lt_or_eq_of_le h with hlt | heq
      · exact Int.le_of_lt (hbefore i hlt)
      · rw [heq]
        exact Int.not_lt.mp hsmall
    · -- A position behind the one that was found has a size that is larger still.
      have hsize := SizeTable.size_lt hlt hi
      have hlarge := SizeTable.le_size_of_position_lt (Nat.lt_of_lt_of_le hlt hi)
      omega

section Entry

variable (hentry : ∃ bytes ∈ SizeTable.sizes, minimum ≤ (bytes : Int) ∧ (bytes : Int) ≤ maximum)

include hentry

/-- If the table has a size within the bounds, it reaches from one bound to the other. -/
theorem bounds_of_entry : minimum ≤ size last ∧ (size 0 : Int) ≤ maximum := by
  obtain ⟨bytes, hmem, hmin, hmax⟩ := hentry
  obtain ⟨i, hi, rfl⟩ := SizeTable.exists_position hmem
  have hlarge := SizeTable.size_le hi (Nat.le_refl last)
  have hsmall := SizeTable.size_le (Nat.zero_le i) hi
  omega

/-- Then there are positions between the lowest and the highest one. -/
theorem lowestPosition_le_highestPosition :
    lowestPosition minimum ≤ highestPosition maximum := by
  obtain ⟨hminimum, hmaximum⟩ := bounds_of_entry hentry
  obtain ⟨bytes, hmem, hmin, hmax⟩ := hentry
  obtain ⟨i, hi, rfl⟩ := SizeTable.exists_position hmem
  exact Nat.le_trans ((lowestPosition_le_iff hi hminimum).mpr hmin)
    ((le_highestPosition_iff hi hmaximum).mpr hmax)

end Entry

end ReceivePolicy

/-! ## Handles of a policy -/

/-- The position is between two others, for good. -/
structure AdaptiveSize.Ranges (lowest highest : Nat) (state : AdaptiveSize) : Prop where
  lowest_eq : state.lowest = lowest
  highest_eq : state.highest = highest
  lowest_le : lowest ≤ state.position
  le_highest : state.position ≤ highest

theorem AdaptiveSize.Ranges.record {lowest highest : Nat} {state : AdaptiveSize}
    (h : state.Ranges lowest highest) (amount : Int) :
    (state.record amount).Ranges lowest highest := by
  obtain ⟨rfl, rfl, hlow, hhigh⟩ := h
  unfold AdaptiveSize.record
  split
  · split
    · refine ⟨rfl, rfl, ?_, ?_⟩ <;> dsimp only <;> omega
    · exact ⟨rfl, rfl, hlow, hhigh⟩
  · split
    · refine ⟨rfl, rfl, ?_, ?_⟩ <;> dsimp only <;> omega
    · exact ⟨rfl, rfl, hlow, hhigh⟩

/-- What a channel asks of a receive handle: to begin a burst, to note what was tried and what came,
to count datagrams, and to end the burst. -/
inductive HandleCall where
  | reset (policy : ReceivePolicy)
  | attempt (bytes : Int)
  | noteRead (bytes : Int)
  | count (datagrams : Int)
  | complete
  deriving DecidableEq, Repr

namespace HandleCall

/-- Does what is asked of a handle. -/
def perform (handle : ReceiveHandle) : HandleCall → ReceiveHandle
  | reset policy => handle.reset policy
  | attempt bytes => handle.attempt bytes
  | noteRead bytes => handle.noteRead bytes
  | count datagrams => handle.count datagrams
  | complete => handle.complete

/-- The amount of bytes that an adaptive size reacts to: that of a read that came to what was tried,
and the total of a burst. -/
def amount? (handle : ReceiveHandle) : HandleCall → Option Int
  | noteRead bytes => if bytes = handle.attempted then some bytes else none
  | complete => some handle.total
  | _ => none

/-- All that a call does to an adaptive size. -/
theorem sizing_perform {handle : ReceiveHandle} {state : AdaptiveSize}
    (h : handle.sizing = .adaptive state) (call : HandleCall) :
    (call.perform handle).sizing = .adaptive ((call.amount? handle).elim state state.record) := by
  have hrecord : ∀ amount, (handle.record amount).sizing = .adaptive (state.record amount) := by
    intro amount
    unfold ReceiveHandle.record
    rw [h]
  cases call with
  | reset policy => exact h
  | attempt bytes => exact h
  | noteRead bytes =>
    show (if bytes = handle.attempted then handle.record bytes else handle).sizing = _
    by_cases hfull : bytes = handle.attempted
    · rw [if_pos hfull, hrecord, amount?, if_pos hfull]
      rfl
    · rw [if_neg hfull, h, amount?, if_neg hfull]
      rfl
  | count datagrams => exact h
  | complete => exact hrecord handle.total

end HandleCall

namespace ReceiveHandle

/-- The handle that calls lead to, in any order and number. -/
def runAll (handle : ReceiveHandle) (calls : List HandleCall) : ReceiveHandle :=
  calls.foldl HandleCall.perform handle

/-- The handle adapts its size between two positions. -/
def Ranges (lowest highest : Nat) (handle : ReceiveHandle) : Prop :=
  ∃ state, handle.sizing = .adaptive state ∧ state.Ranges lowest highest

variable {lowest highest : Nat} {handle : ReceiveHandle}

theorem Ranges.perform (h : handle.Ranges lowest highest) (call : HandleCall) :
    (call.perform handle).Ranges lowest highest := by
  obtain ⟨state, hsizing, hranges⟩ := h
  refine ⟨_, call.sizing_perform hsizing, ?_⟩
  cases call.amount? handle with
  | none => exact hranges
  | some amount => exact hranges.record amount

theorem Ranges.runAll (h : handle.Ranges lowest highest) (calls : List HandleCall) :
    (handle.runAll calls).Ranges lowest highest := by
  induction calls generalizing handle with
  | nil => exact h
  | cons call rest ih => exact ih (h.perform call)

/-- **A handle of an adaptive policy keeps to the bounds of the policy**, whatever is asked of it.
-/
theorem ranges_runAll {minimum initial maximum : Int} {policy : ReceivePolicy}
    (hpolicy : ReceivePolicy.adaptive minimum initial maximum = .ok policy)
    (hentry : ∃ bytes ∈ SizeTable.sizes, minimum ≤ (bytes : Int) ∧ (bytes : Int) ≤ maximum)
    (id : PolicyId) (calls : List HandleCall) :
    ((ofPolicy id policy).runAll calls).Ranges (ReceivePolicy.lowestPosition minimum)
      (ReceivePolicy.highestPosition maximum) := by
  have hle := ReceivePolicy.lowestPosition_le_highestPosition hentry
  refine Ranges.runAll ?_ calls
  unfold Ranges ofPolicy
  dsimp only
  rw [ReceivePolicy.sizing_of_adaptive hpolicy]
  refine ⟨_, rfl, rfl, rfl, ?_, ?_⟩ <;> dsimp only <;> omega

end ReceiveHandle

end UdpTransport
