import Mathlib.Data.Nat.PSub
import Mathlib.Order.Bounds.Basic
import UdpTransport.Proofs.Receive.Bounds

/-!
# Sizes are only looked up where the table has them

Policies and handles look sizes up by their position. `SizeTable.size` answers zero outside of the
table, so that a look-up at a wrong position would go unnoticed. Here each of them is made again
with look-ups that can fail (`SizeTable.size?`), and with a step down that fails at the first
position: `ReceivePolicy.adaptive?` makes a policy that way, and `ReceiveHandle.runAll?` runs calls.

**The main result is `guess_within`**: if the table has a size within the bounds, no look-up fails,
so that the runs agree, and the size is always one of the table within the bounds. What it is to
begin with is `IsFirstSize`.
-/

namespace UdpTransport

/-! ## Checked look-ups -/

/-- The size at a position, if the table goes that far. -/
def SizeTable.size? (position : Nat) : Option Nat := sizes[position]?

namespace ReceivePolicy

/-- The lowest position, found by checked look-ups. -/
def lowestPosition? (minimum : Int) : Option Nat := do
  let position := SizeTable.position minimum
  let size ← SizeTable.size? position
  return if (size : Int) < minimum then position + 1 else position

/-- The highest position, found by checked look-ups; there is nothing below the first one. -/
def highestPosition? (maximum : Int) : Option Nat := do
  let position := SizeTable.position maximum
  let size ← SizeTable.size? position
  if maximum < (size : Int) then position.ppred else return position

/-- The policy between two bounds, made by checked look-ups. -/
def adaptive? (minimum initial maximum : Int) : Option ReceivePolicy := do
  let lowest ← lowestPosition? minimum
  let highest ← highestPosition? maximum
  return { sizing := .adaptive lowest
             (min (max (SizeTable.position initial) lowest) highest) highest }

end ReceivePolicy

namespace AdaptiveSize

/-- Goes to a position, whose size is looked up. -/
def moveTo? (state : AdaptiveSize) (position : Nat) : Option AdaptiveSize := do
  let _ ← SizeTable.size? position
  return { state with position := position, shrinkNext := false }

/-- Reacts to an amount of bytes read, by checked look-ups. -/
def record? (state : AdaptiveSize) (amount : Int) : Option AdaptiveSize := do
  let below ← SizeTable.size? (state.position - 1)
  let size ← SizeTable.size? state.position
  if amount ≤ (below : Int) then
    if state.shrinkNext then state.moveTo? (max (state.position - 1) state.lowest)
    else return { state with shrinkNext := true }
  else if (size : Int) ≤ amount then state.moveTo? (min (state.position + 4) state.highest)
  else return state

end AdaptiveSize

namespace ReceiveHandle

/-- The size of the next receive buffer, by a checked look-up. -/
def guess? (handle : ReceiveHandle) : Option Int :=
  match handle.sizing with
  | .fixed size => some size
  | .adaptive state => (SizeTable.size? state.position).map Nat.cast

/-- Reacts to an amount of bytes read if the size is adaptive, by checked look-ups. -/
def record? (handle : ReceiveHandle) (amount : Int) : Option ReceiveHandle :=
  match handle.sizing with
  | .fixed _ => some handle
  | .adaptive state => do
    let next ← state.record? amount
    return { handle with sizing := .adaptive next }

/-- Notes the bytes of the last read, by checked look-ups. -/
def noteRead? (handle : ReceiveHandle) (bytes : Int) : Option ReceiveHandle := do
  let handle ← if bytes = handle.attempted then handle.record? bytes else some handle
  return { handle with
    last := bytes
    total := if 0 < bytes then saturatingAdd handle.total bytes else handle.total }

end ReceiveHandle

/-- Does what is asked of a handle, by checked look-ups. -/
def HandleCall.perform? (handle : ReceiveHandle) : HandleCall → Option ReceiveHandle
  | noteRead bytes => handle.noteRead? bytes
  | complete => handle.record? handle.total
  | call => some (call.perform handle)

/-- The handle that calls lead to, by checked look-ups. -/
def ReceiveHandle.runAll? (handle : ReceiveHandle) (calls : List HandleCall) :
    Option ReceiveHandle := calls.foldlM HandleCall.perform? handle

/-! ## No look-up fails -/

namespace SizeTable

variable {position : Nat}

theorem size?_eq (h : position ≤ last) : size? position = some (size position) := by
  have hlength : position < sizes.length := Nat.lt_succ_of_le h
  rw [size?, List.getElem?_eq_getElem hlength, size_eq_getElem hlength]

theorem size_mem (h : position ≤ last) : size position ∈ sizes :=
  List.mem_of_getElem? (size?_eq h)

end SizeTable

namespace AdaptiveSize

variable {state : AdaptiveSize}

theorem moveTo?_eq {position : Nat} (h : position ≤ SizeTable.last) :
    state.moveTo? position = some { state with position := position, shrinkNext := false } := by
  rw [moveTo?, SizeTable.size?_eq h]
  rfl

/-- Where all positions are in the table, no look-up fails. -/
theorem record?_eq (h : state.InTable) (amount : Int) :
    state.record? amount = some (state.record amount) := by
  obtain ⟨hlowest, hhighest, hposition⟩ := h
  have hbelow : state.position - 1 ≤ SizeTable.last := Nat.le_trans (Nat.sub_le ..) hposition
  have hdown : max (state.position - 1) state.lowest ≤ SizeTable.last :=
    Nat.max_le.mpr ⟨hbelow, hlowest⟩
  have hup : min (state.position + 4) state.highest ≤ SizeTable.last :=
    Nat.le_trans (Nat.min_le_right ..) hhighest
  rw [record?, record, SizeTable.size?_eq hbelow, SizeTable.size?_eq hposition, moveTo?_eq hdown,
    moveTo?_eq hup]
  show (if amount ≤ (SizeTable.size (state.position - 1) : Int) then _ else _) = _
  split
  case isTrue => split <;> rfl
  case isFalse =>
    show (if (state.size : Int) ≤ amount then _ else _) = _
    split <;> rfl

end AdaptiveSize

theorem AdaptiveSize.Ranges.inTable {lowest highest : Nat} {state : AdaptiveSize}
    (h : state.Ranges lowest highest) (hlast : highest ≤ SizeTable.last) : state.InTable := by
  obtain ⟨rfl, rfl, hlow, hhigh⟩ := h
  have hposition := Nat.le_trans hhigh hlast
  exact ⟨Nat.le_trans hlow hposition, hlast, hposition⟩

namespace ReceiveHandle

variable {lowest highest : Nat} {handle : ReceiveHandle}

section InTable

variable (h : handle.Ranges lowest highest) (hlast : highest ≤ SizeTable.last)

include h hlast

theorem guess?_eq : handle.guess? = some handle.guess := by
  obtain ⟨state, hsizing, hranges⟩ := h
  have hposition := (hranges.inTable hlast).position
  rw [guess?, guess, hsizing]
  show (SizeTable.size? state.position).map Nat.cast = some (state.size : Int)
  rw [SizeTable.size?_eq hposition]
  rfl

theorem record?_eq (amount : Int) : handle.record? amount = some (handle.record amount) := by
  obtain ⟨state, hsizing, hranges⟩ := h
  rw [record?, record, hsizing]
  show (state.record? amount >>= fun next => _) = _
  rw [AdaptiveSize.record?_eq (hranges.inTable hlast)]
  rfl

theorem perform?_eq (call : HandleCall) : call.perform? handle = some (call.perform handle) := by
  cases call with
  | noteRead bytes =>
    show handle.noteRead? bytes = some (handle.noteRead bytes)
    rw [noteRead?, noteRead, record?_eq h hlast]
    split <;> rfl
  | complete => exact record?_eq h hlast handle.total
  | reset policy => rfl
  | attempt bytes => rfl
  | count datagrams => rfl

end InTable

/-- A handle that keeps to positions of the table looks sizes up there only. -/
theorem runAll?_eq (h : handle.Ranges lowest highest) (hlast : highest ≤ SizeTable.last)
    (calls : List HandleCall) : handle.runAll? calls = some (handle.runAll calls) := by
  induction calls generalizing handle with
  | nil => rfl
  | cons call rest ih =>
    rw [runAll?, List.foldlM_cons, perform?_eq h hlast]
    exact ih (h.perform call)

end ReceiveHandle

/-! ## Sizes between two bounds -/

namespace SizeTable

/-- Where the table has a size that is large enough, the least of them is found. -/
theorem isLeast_size_position {wanted : Int} (h : wanted ≤ size last) :
    IsLeast {bytes | bytes ∈ sizes ∧ wanted ≤ (bytes : Int)} (size (position wanted)) := by
  refine ⟨⟨size_mem (position_le wanted), le_size_position h⟩, ?_⟩
  rintro bytes ⟨hmem, hlarge⟩
  obtain ⟨i, hi, rfl⟩ := exists_position hmem
  exact size_le ((position_le_iff hi h).mpr hlarge) hi

/-- Where it has none, the last size is found. -/
theorem position_eq_last {wanted : Int} (h : size last < wanted) : position wanted = last := by
  refine Nat.le_antisymm (position_le wanted) (Nat.not_lt.mp fun hlt => ?_)
  have hfound := le_size_of_position_lt hlt
  have hlargest := (size_bounds (position_le wanted)).2
  omega

theorem isGreatest_size_last : IsGreatest {bytes | bytes ∈ sizes} (size last) := by
  refine ⟨size_mem (Nat.le_refl last), fun bytes hmem => ?_⟩
  obtain ⟨i, hi, rfl⟩ := exists_position hmem
  exact size_le hi (Nat.le_refl last)

theorem size_min {first second : Nat} (hfirst : first ≤ last) (hsecond : second ≤ last) :
    size (min first second) = min (size first) (size second) := by
  rcases Nat.le_total first second with hle | hle
  · rw [Nat.min_eq_left hle, Nat.min_eq_left (size_le hle hsecond)]
  · rw [Nat.min_eq_right hle, Nat.min_eq_right (size_le hle hfirst)]

end SizeTable

/-- The size that buffers begin with: the least size that is wanted or more, or the last one if
there is none, but no more than the largest size that is allowed. -/
def IsFirstSize (wanted maximum : Int) (bytes : Nat) : Prop :=
  ∃ found largest,
    (IsLeast {bytes | bytes ∈ SizeTable.sizes ∧ wanted ≤ (bytes : Int)} found ∨
      (∀ bytes ∈ SizeTable.sizes, (bytes : Int) < wanted) ∧
        IsGreatest {bytes | bytes ∈ SizeTable.sizes} found) ∧
    IsGreatest {bytes | bytes ∈ SizeTable.sizes ∧ (bytes : Int) ≤ maximum} largest ∧
    bytes = min found largest

namespace ReceivePolicy

variable {minimum initial maximum : Int}

open SizeTable (size last)

theorem lowestPosition?_eq (minimum : Int) :
    lowestPosition? minimum = some (lowestPosition minimum) := by
  rw [lowestPosition?, SizeTable.size?_eq (SizeTable.position_le minimum)]
  rfl

theorem highestPosition?_eq (hmaximum : (size 0 : Int) ≤ maximum) :
    highestPosition? maximum = some (highestPosition maximum) := by
  rw [highestPosition?, SizeTable.size?_eq (SizeTable.position_le maximum), highestPosition]
  show (if maximum < (size (SizeTable.position maximum) : Int) then
    (SizeTable.position maximum).ppred else some _) = _
  split
  case isTrue hlarge =>
    cases hposition : SizeTable.position maximum with
    | zero =>
      rw [hposition] at hlarge
      omega
    | succ below => rfl
  case isFalse => rfl

theorem isGreatest_size_highestPosition (hmaximum : (size 0 : Int) ≤ maximum) :
    IsGreatest {bytes | bytes ∈ SizeTable.sizes ∧ (bytes : Int) ≤ maximum}
      (size (highestPosition maximum)) := by
  have hhighest := highestPosition_le maximum
  refine ⟨⟨SizeTable.size_mem hhighest,
    (le_highestPosition_iff hhighest hmaximum).mp (Nat.le_refl _)⟩, ?_⟩
  rintro bytes ⟨hmem, hsmall⟩
  obtain ⟨i, hi, rfl⟩ := SizeTable.exists_position hmem
  exact SizeTable.size_le ((le_highestPosition_iff hi hmaximum).mpr hsmall) hhighest

/-- The position to begin with is not below the lowest one. -/
theorem lowestPosition_le_position (hminimum : minimum ≤ size last) (hinitial : minimum ≤ initial) :
    lowestPosition minimum ≤ SizeTable.position initial := by
  refine (lowestPosition_le_iff (SizeTable.position_le initial) hminimum).mpr ?_
  rcases Int.lt_or_le (size last) initial with hbeyond | hreached
  · rw [SizeTable.position_eq_last hbeyond]
    exact hminimum
  · exact Int.le_trans hinitial (SizeTable.le_size_position hreached)

theorem isFirstSize (hminimum : minimum ≤ size last) (hinitial : minimum ≤ initial)
    (hmaximum : (size 0 : Int) ≤ maximum) :
    IsFirstSize initial maximum
      (size (min (max (SizeTable.position initial) (lowestPosition minimum))
        (highestPosition maximum))) := by
  have hlowest := lowestPosition_le_position hminimum hinitial
  refine ⟨size (SizeTable.position initial), _, ?_, isGreatest_size_highestPosition hmaximum, ?_⟩
  · rcases Int.lt_or_le (size last) initial with hbeyond | hreached
    · refine .inr ⟨fun bytes hmem => ?_, ?_⟩
      · have hlargest := SizeTable.isGreatest_size_last.2 hmem
        omega
      · rw [SizeTable.position_eq_last hbeyond]
        exact SizeTable.isGreatest_size_last
    · exact .inl (SizeTable.isLeast_size_position hreached)
  · rw [Nat.max_eq_left hlowest,
      SizeTable.size_min (SizeTable.position_le initial) (highestPosition_le maximum)]

end ReceivePolicy

/-! ## Handles between two bounds -/

namespace ReceiveHandle

/-- **Sizes stay within the bounds.** If the table has a size within the bounds, then there is a
policy with these bounds. Its handles begin with the size that is wanted, as far as there is one.
Whatever is asked of them, all look-ups are within the table, and the size is one of the table
within the bounds. -/
theorem guess_within {minimum initial maximum : Int} (hpositive : 0 < minimum)
    (hinitial : minimum ≤ initial) (hmaximum : initial ≤ maximum)
    (hentry : ∃ bytes ∈ SizeTable.sizes, minimum ≤ (bytes : Int) ∧ (bytes : Int) ≤ maximum) :
    ∃ policy, ReceivePolicy.adaptive minimum initial maximum = .ok policy ∧
      ReceivePolicy.adaptive? minimum initial maximum = some policy ∧
      ∀ id, (∃ bytes, (ofPolicy id policy).guess = (bytes : Nat) ∧
          IsFirstSize initial maximum bytes) ∧
        ∀ calls, let handle := (ofPolicy id policy).runAll calls
          (ofPolicy id policy).runAll? calls = some handle ∧ handle.guess? = some handle.guess ∧
            ∃ bytes ∈ SizeTable.sizes, handle.guess = (bytes : Nat) ∧ minimum ≤ (bytes : Int) ∧
              (bytes : Int) ≤ maximum := by
  obtain ⟨hlarge, hsmall⟩ := ReceivePolicy.bounds_of_entry hentry
  have hlast := ReceivePolicy.highestPosition_le maximum
  obtain ⟨policy, hpolicy⟩ :
      ∃ policy, ReceivePolicy.adaptive minimum initial maximum = .ok policy :=
    ⟨_, by rw [ReceivePolicy.adaptive, if_neg (by omega), if_neg (by omega), if_neg (by omega)]⟩
  have hchecked : ReceivePolicy.adaptive? minimum initial maximum = some policy := by
    rw [ReceivePolicy.adaptive?, ReceivePolicy.lowestPosition?_eq,
      ReceivePolicy.highestPosition?_eq hsmall]
    rw [ReceivePolicy.adaptive, if_neg (by omega), if_neg (by omega), if_neg (by omega)] at hpolicy
    cases hpolicy
    rfl
  refine ⟨policy, hpolicy, hchecked, fun id =>
    ⟨⟨_, ?_, ReceivePolicy.isFirstSize hlarge hinitial hsmall⟩,
    fun calls => ?_⟩⟩
  · unfold guess ofPolicy
    dsimp only
    rw [ReceivePolicy.sizing_of_adaptive hpolicy]
    rfl
  -- Positions stay in range from the start on, which is all the checked variants ask.
  · have hstart : (ofPolicy id policy).Ranges _ _ := ranges_runAll hpolicy hentry id []
    have hrun := ranges_runAll hpolicy hentry id calls
    refine ⟨runAll?_eq hstart hlast calls, guess?_eq hrun hlast, ?_⟩
    obtain ⟨state, hsizing, hranges⟩ := hrun
    have hposition := (hranges.inTable hlast).position
    refine ⟨state.size, SizeTable.size_mem hposition, ?_, ?_, ?_⟩
    · unfold guess
      rw [hsizing]
    · exact (ReceivePolicy.lowestPosition_le_iff hposition hlarge).mp hranges.lowest_le
    · exact (ReceivePolicy.le_highestPosition_iff hposition hsmall).mp hranges.le_highest

/-- Bounds that are no sizes of the table, and reads of fewer than no bytes. -/
theorem guess_within_hundreds :
    let calls : List HandleCall := [.attempt (-5), .noteRead (-5), .complete, .complete]
    (0 : Int) < 100 ∧ (100 : Int) ≤ 600 ∧ (600 : Int) ≤ 1000 ∧
      (∃ bytes ∈ SizeTable.sizes, (100 : Int) ≤ bytes ∧ (bytes : Int) ≤ 1000) ∧
      ∃ policy, ReceivePolicy.adaptive 100 600 1000 = .ok policy ∧
        (ofPolicy 0 policy).guess = 512 ∧ ((ofPolicy 0 policy).runAll calls).guess = 496 ∧
        (ofPolicy 0 policy).runAll? calls = some ((ofPolicy 0 policy).runAll calls) := by
  intro calls
  have hpositive : (0 : Int) < 100 := by decide
  have hinitial : (100 : Int) ≤ 600 := by decide
  have hmaximum : (600 : Int) ≤ 1000 := by decide
  have hentry : ∃ bytes ∈ SizeTable.sizes, (100 : Int) ≤ bytes ∧ (bytes : Int) ≤ 1000 :=
    ⟨112, by decide, by decide, by decide⟩
  obtain ⟨policy, hpolicy, -, hruns⟩ := guess_within hpositive hinitial hmaximum hentry
  obtain ⟨hchecked, -⟩ := (hruns 0).2 calls
  have hmade : ReceivePolicy.adaptive 100 600 1000 = .ok { sizing := .adaptive 6 31 31 } := rfl
  obtain rfl : policy = _ := Except.ok.inj (hpolicy.symm.trans hmade)
  exact ⟨hpositive, hinitial, hmaximum, hentry, _, hpolicy, by decide, by decide, hchecked⟩

end ReceiveHandle

end UdpTransport
