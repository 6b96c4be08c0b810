import Mathlib.Algebra.BigOperators.Group.List.Basic
import Mathlib.Algebra.Ring.Int.Defs
import Mathlib.Data.List.Forall2
import UdpTransport.Kernel.Call
import UdpTransport.Proofs.Receive.Bounds

/-!
# The total of a burst

A handle counts the bytes of a burst in a number of 32 bits, which must not overflow: it asks how
much room is left before it adds an amount, and stays at the largest number once that is reached.
Here the count is made again in arithmetic that fails where a result does not fit
(`Number.checked`), and compared with the sum of all amounts that came (`arrived`), which is not
bounded.

**The main result is `total_runAll`**: the total is that sum, or the largest number if the sum is
larger, and nothing overflows on the way. What the end of a burst makes of the size is therefore
monotone in the reads of the burst, in their number as in their amounts.
-/

namespace UdpTransport

/-- A result that a signed number of 32 bits can hold. -/
def Number.checked (n : Int) : Option Int := if narrow n = n then some n else none

theorem Number.checked_eq {n : Int} (hlow : -(maxInt32 : Int) - 1 ≤ n) (hhigh : n ≤ maxInt32) :
    checked n = some n := by
  have hlargest : (maxInt32 : Int) = 2147483647 := rfl
  have hspan : Bytes.span 4 = 4294967296 := rfl
  refine if_pos (Int.bmod_eq_of_le ?_ ?_) <;> omega

/-! ## Amounts -/

/-- The bytes that reads came to; an amount that is not positive means that nothing came. -/
def arrived (reads : List Int) : Int := (reads.filter (0 < ·)).sum

theorem arrived_cons (bytes : Int) (rest : List Int) :
    arrived (bytes :: rest) = max 0 bytes + arrived rest := by
  unfold arrived
  by_cases h : 0 < bytes
  · rw [List.filter_cons_of_pos (by simpa using h), List.sum_cons,
      Int.max_eq_right (Int.le_of_lt h)]
  · rw [List.filter_cons_of_neg (by simpa using h), Int.max_eq_left (Int.not_lt.mp h), Int.zero_add]

theorem arrived_concat (reads : List Int) (bytes : Int) :
    arrived (reads ++ [bytes]) = arrived reads + max 0 bytes := by
  induction reads with
  | nil => rw [List.nil_append, arrived_cons, Int.add_comm]
  | cons first rest ih => rw [List.cons_append, arrived_cons, arrived_cons, ih, Int.add_assoc]

theorem arrived_nonneg (reads : List Int) : 0 ≤ arrived reads := by
  induction reads with
  | nil => exact Int.le_refl 0
  | cons bytes rest ih =>
    rw [arrived_cons]
    omega

/-- More reads of larger amounts come to more bytes. -/
theorem arrived_mono {reads others : List Int} (h : reads.SublistForall₂ (· ≤ ·) others) :
    arrived reads ≤ arrived others := by
  induction h with
  | nil => exact arrived_nonneg _
  | cons hle _ ih =>
    rw [arrived_cons, arrived_cons]
    omega
  | cons_right _ ih =>
    rw [arrived_cons]
    omega

/-! ## Counting -/

/-- The amounts noted in the current burst, after another call. -/
def HandleCall.noted (reads : List Int) : HandleCall → List Int
  | reset _ => []
  | noteRead bytes => reads ++ [bytes]
  | _ => reads

/-- The amounts noted since the last burst began. -/
def burstReads (calls : List HandleCall) : List Int := calls.foldl HandleCall.noted []

/-- The sum of two amounts, at most `maxInt32`, in 32 bits. -/
def ReceiveHandle.saturatingAdd? (total bytes : Int) : Option Int := do
  let room ← Number.checked (maxInt32 - total)
  if room < bytes then some maxInt32 else Number.checked (total + bytes)

/-- The total after a call, in 32 bits. -/
def HandleCall.total? (total : Int) : HandleCall → Option Int
  | reset _ => some 0
  | noteRead bytes => if 0 < bytes then ReceiveHandle.saturatingAdd? total bytes else some total
  | _ => some total

namespace ReceiveHandle

/-- The total that calls lead to, in 32 bits. -/
def totalOf? (handle : ReceiveHandle) (calls : List HandleCall) : Option Int :=
  calls.foldlM HandleCall.total? handle.total

theorem saturatingAdd?_eq {total bytes : Int} (hlow : 0 ≤ total) (hhigh : total ≤ maxInt32)
    (hpos : 0 < bytes) : saturatingAdd? total bytes = some (saturatingAdd total bytes) := by
  have hroom : Number.checked (maxInt32 - total) = some (maxInt32 - total) :=
    Number.checked_eq (by omega) (by omega)
  rw [saturatingAdd?, saturatingAdd, hroom]
  show (if (maxInt32 : Int) - total < bytes then _ else _) = _
  split
  · rfl
  · exact Number.checked_eq (by omega) (by omega)

/-- The handle has counted what came, as far as that goes. -/
def Counts (reads : List Int) (handle : ReceiveHandle) : Prop :=
  handle.total = min (maxInt32 : Int) (arrived reads)

variable {handle : ReceiveHandle} {reads : List Int}

theorem Counts.bounds (h : handle.Counts reads) : 0 ≤ handle.total ∧ handle.total ≤ maxInt32 := by
  have hsum := arrived_nonneg reads
  unfold Counts at h
  omega

theorem total_noteRead (handle : ReceiveHandle) (bytes : Int) :
    (handle.noteRead bytes).total =
      if 0 < bytes then saturatingAdd handle.total bytes else handle.total := by
  have hrecord : (if bytes = handle.attempted then handle.record bytes else handle).total =
      handle.total := by
    split
    · exact total_record ..
    · rfl
  show (if 0 < bytes then saturatingAdd _ bytes else _) = _
  rw [hrecord]

/-- One call keeps the count, and nothing overflows. -/
theorem Counts.perform (h : handle.Counts reads) (call : HandleCall) :
    (call.perform handle).Counts (call.noted reads) ∧
      call.total? handle.total = some (call.perform handle).total := by
  have hsum := arrived_nonneg reads
  obtain ⟨hlow, hhigh⟩ := h.bounds
  -- Only noting a read adds to the total, and only a reset clears what was read.
  cases call with
  | reset policy => exact ⟨rfl, rfl⟩
  | attempt bytes => exact ⟨h, rfl⟩
  | count datagrams => exact ⟨h, rfl⟩
  | complete =>
    have htotal : handle.complete.total = handle.total := total_record ..
    exact ⟨htotal.trans h, congrArg some htotal.symm⟩
  | noteRead bytes =>
    have htotal := handle.total_noteRead bytes
    constructor
    · show (handle.noteRead bytes).total = min (maxInt32 : Int) (arrived (reads ++ [bytes]))
      rw [htotal, arrived_concat]
      unfold Counts at h
      unfold saturatingAdd
      split
      · split <;> omega
      · omega
    · show (if 0 < bytes then saturatingAdd? handle.total bytes else some handle.total) =
        some (handle.noteRead bytes).total
      rw [htotal]
      split
      · exact saturatingAdd?_eq hlow hhigh ‹_›
      · rfl

theorem Counts.runAll (h : handle.Counts reads) (calls : List HandleCall) :
    (handle.runAll calls).Counts (calls.foldl HandleCall.noted reads) ∧
      handle.totalOf? calls = some (handle.runAll calls).total := by
  induction calls generalizing handle reads with
  | nil => exact ⟨h, rfl⟩
  | cons call rest ih =>
    obtain ⟨hcounts, hchecked⟩ := h.perform call
    rw [totalOf?, List.foldlM_cons, hchecked]
    exact ih hcounts

/-- **The total of a burst** is the sum of the amounts that came since the burst began, or the
largest number if the sum is larger. It is never negative, nothing overflows on the way, and it is
what the end of the burst makes of an adaptive size. More reads of larger amounts come to at least
this total. -/
theorem total_runAll (id : PolicyId) (policy : ReceivePolicy) (calls : List HandleCall) :
    let handle := (ofPolicy id policy).runAll calls
    handle.total = min (maxInt32 : Int) (arrived (burstReads calls)) ∧ 0 ≤ handle.total ∧
      (ofPolicy id policy).totalOf? calls = some handle.total ∧
      (∀ state, handle.sizing = .adaptive state →
        handle.complete.sizing =
          .adaptive (state.record (min (maxInt32 : Int) (arrived (burstReads calls))))) ∧
      ∀ id' policy' calls', (burstReads calls).SublistForall₂ (· ≤ ·) (burstReads calls') →
        handle.total ≤ ((ofPolicy id' policy').runAll calls').total := by
  intro handle
  have hnew : ∀ id policy, (ofPolicy id policy).Counts [] := fun _ _ => rfl
  obtain ⟨hcounts, hchecked⟩ := (hnew id policy).runAll calls
  have htotal : handle.total = min (maxInt32 : Int) (arrived (burstReads calls)) := hcounts
  refine ⟨htotal, hcounts.bounds.1, hchecked, fun state hsizing => ?_,
    fun id' policy' calls' hmore => ?_⟩
  · rw [← htotal]
    exact HandleCall.complete.sizing_perform hsizing
  · have hle := arrived_mono hmore
    have hothers : ((ofPolicy id' policy').runAll calls').total =
        min (maxInt32 : Int) (arrived (burstReads calls')) := ((hnew id' policy').runAll calls').1
    omega

/-- A burst that comes to more than 32 bits can hold, with a read between that brings nothing. One
byte less leaves the total where it is, and so does a read that is left out. -/
theorem total_runAll_largest :
    let policy : ReceivePolicy := { sizing := .adaptive 0 0 52 }
    let calls : List HandleCall :=
      [.noteRead 9, .reset policy, .noteRead 2147483647, .noteRead (-2147483648),
       .noteRead 2147483647]
    let others : List HandleCall := [.noteRead 2147483647, .noteRead 2147483646]
    burstReads calls = [2147483647, -2147483648, 2147483647] ∧
      (burstReads others).SublistForall₂ (· ≤ ·) (burstReads calls) ∧
      ((ofPolicy 0 policy).runAll calls).total = 2147483647 ∧
      ((ofPolicy 0 policy).runAll others).total ≤ ((ofPolicy 0 policy).runAll calls).total := by
  intro policy calls others
  have hreads : burstReads calls = [2147483647, -2147483648, 2147483647] := rfl
  have hmore : (burstReads others).SublistForall₂ (· ≤ ·) (burstReads calls) :=
    .cons (by decide) (.cons_right (.cons (by decide) .nil))
  obtain ⟨htotal, -⟩ := total_runAll 0 policy calls
  obtain ⟨-, -, -, -, hmono⟩ := total_runAll 0 policy others
  refine ⟨hreads, hmore, htotal.trans ?_, hmono 0 policy calls hmore⟩
  rw [hreads]
  rfl

end ReceiveHandle

end UdpTransport
