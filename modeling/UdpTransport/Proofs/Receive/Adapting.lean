import Mathlib.Data.List.Induction
import UdpTransport.Proofs.Receive.Bounds

/-!
# How adaptive sizes follow the traffic

A handle with an adaptive size reacts to amounts of bytes: to that of a read that came to what was
tried, and to the total of a burst. It only heeds how an amount compares with the size and with the
one a position below (`Reading`). A large amount moves the size up by four positions, within the
bounds. A small one moves it down by one position every second time, counted from the last large one
(`smallStreak`). Medium ones do nothing, so they do not interrupt the count either.

**The main results are `guess_fillUp` and `complete_shrinks_iff`.** The first says what a read does
that fills the whole buffer: the size goes up from every position but the very first of the table,
where there is no size below and the only one there is counts as small. The second says when the end
of a burst moves the size down.
-/

namespace UdpTransport

/-- What an amount of bytes says about a size. -/
inductive Reading where
  /-- It is at most the size a position below. -/
  | small
  | medium
  /-- It reaches the size. -/
  | large
  deriving DecidableEq, Repr

namespace AdaptiveSize

open SizeTable (last)

variable {state : AdaptiveSize} {amount : Int}

/-- How an amount compares with the size. -/
def reading (state : AdaptiveSize) (amount : Int) : Reading :=
  if amount ≤ (SizeTable.size (state.position - 1) : Int) then .small
  else if (state.size : Int) ≤ amount then .large
  else .medium

theorem reading_eq_small_iff :
    state.reading amount = .small ↔ amount ≤ (SizeTable.size (state.position - 1) : Int) := by
  unfold reading
  split
  · simp [*]
  · split <;> simp [*]

/-- **All that an amount does to a size.** -/
theorem record_eq (state : AdaptiveSize) (amount : Int) :
    state.record amount = match state.reading amount with
      | .small =>
        if state.shrinkNext then
          { state with position := max (state.position - 1) state.lowest, shrinkNext := false }
        else { state with shrinkNext := true }
      | .medium => state
      | .large =>
        { state with position := min (state.position + 4) state.highest, shrinkNext := false } := by
  unfold record reading
  split
  · rfl
  · split <;> rfl

/-- The size itself is large, unless it is the first one of the table. -/
theorem reading_size (hpos : 0 < state.position) (hle : state.position ≤ last) :
    state.reading state.size = .large := by
  have hbelow : SizeTable.size (state.position - 1) < state.size :=
    SizeTable.size_lt (Nat.sub_one_lt_of_lt hpos) hle
  unfold reading
  rw [if_neg (by omega), if_pos (Int.le_refl _)]

theorem reading_size_first (h : state.position = 0) : state.reading state.size = .small := by
  have hsame : state.size = SizeTable.size (state.position - 1) := by rw [size, h]
  exact reading_eq_small_iff.mpr (Int.le_of_eq (congrArg _ hsame))

end AdaptiveSize

namespace ReceiveHandle

variable {handle : ReceiveHandle} {state : AdaptiveSize}

theorem guess_of_adaptive (h : handle.sizing = .adaptive state) :
    handle.guess = SizeTable.size state.position := by
  unfold guess
  rw [h]
  rfl

/-! ## Reads that fill the buffer -/

/-- The handle after a read that filled a buffer of the size that it had asked for. -/
def fillUp (handle : ReceiveHandle) : ReceiveHandle :=
  handle.runAll [.attempt handle.guess, .noteRead handle.guess]

theorem sizing_fillUp (h : handle.sizing = .adaptive state) :
    handle.fillUp.sizing = .adaptive (state.record state.size) := by
  have htried : (handle.attempt handle.guess).sizing = .adaptive state := h
  have hamount : (HandleCall.noteRead handle.guess).amount? (handle.attempt handle.guess) =
      some handle.guess := if_pos rfl
  have hread := (HandleCall.noteRead handle.guess).sizing_perform htried
  rw [hamount, guess_of_adaptive h] at hread
  unfold fillUp
  rw [guess_of_adaptive h]
  exact hread

/-- From every position but the first one of the table, the size goes up. -/
theorem guess_fillUp_of_pos (h : handle.sizing = .adaptive state) (hpos : 0 < state.position)
    (hle : state.position ≤ SizeTable.last) :
    handle.fillUp.guess = SizeTable.size (min (state.position + 4) state.highest) := by
  rw [guess_of_adaptive (sizing_fillUp h), AdaptiveSize.record_eq,
    AdaptiveSize.reading_size hpos hle]

/-- At the first position of the table, the size stays. -/
theorem guess_fillUp_of_first (h : handle.sizing = .adaptive state) (hfirst : state.position = 0)
    (hlowest : state.lowest ≤ state.position) : handle.fillUp.guess = handle.guess := by
  have hstays : (state.record state.size).position = state.position := by
    rw [AdaptiveSize.record_eq, AdaptiveSize.reading_size_first hfirst]
    dsimp only
    split
    · dsimp only
      omega
    · rfl
  rw [guess_of_adaptive (sizing_fillUp h), hstays, guess_of_adaptive h]

/-- **What a read does that fills the whole buffer.** The highest position is that of the last size
within the maximum. Whatever was asked of the handle before, its size stands at a position up to
there, and after such a read it is the one four positions further on, or at the highest position if
that is nearer. This is so exactly if the size was not the first one of the table, or is the only
one within the bounds: the first size stays as it is. -/
theorem guess_fillUp {minimum initial maximum : Int} {policy : ReceivePolicy}
    (hpolicy : ReceivePolicy.adaptive minimum initial maximum = .ok policy)
    (hentry : ∃ bytes ∈ SizeTable.sizes, minimum ≤ (bytes : Int) ∧ (bytes : Int) ≤ maximum)
    (id : PolicyId) (calls : List HandleCall) :
    let handle := (ofPolicy id policy).runAll calls
    ∃ highest ≤ SizeTable.last,
      (∀ i ≤ SizeTable.last, (SizeTable.size i : Int) ≤ maximum ↔ i ≤ highest) ∧
      ∃ i ≤ highest, handle.guess = SizeTable.size i ∧
        (handle.fillUp.guess = SizeTable.size (min (i + 4) highest) ↔ 0 < i ∨ highest = 0) ∧
        (i = 0 → handle.fillUp.guess = handle.guess) := by
  intro handle
  obtain ⟨state, hsizing, hlowest, hhighest, hlow, hhigh⟩ :=
    ranges_runAll hpolicy hentry id calls
  have hlast := ReceivePolicy.highestPosition_le maximum
  have hmaximum := (ReceivePolicy.bounds_of_entry hentry).2
  refine ⟨_, hlast, fun i hi => (ReceivePolicy.le_highestPosition_iff hi hmaximum).symm,
    state.position, hhigh, guess_of_adaptive hsizing, ?_, fun hfirst => ?_⟩
  · rcases Nat.eq_zero_or_pos state.position with hfirst | hpos
    · -- The first size stays, and this is where it should go only if nothing is above it.
      rw [guess_fillUp_of_first hsizing hfirst (by omega), guess_of_adaptive hsizing, hfirst]
      refine ⟨fun h => .inr ?_, fun h => ?_⟩
      · have hsame := SizeTable.size_inj (Nat.zero_le SizeTable.last)
          (Nat.le_trans (Nat.min_le_right ..) hlast) (Int.ofNat_inj.mp h)
        omega
      · have hzero := h.resolve_left (Nat.lt_irrefl 0)
        rw [hzero]
        rfl
    · rw [guess_fillUp_of_pos hsizing hpos (Nat.le_trans hhigh hlast), hhighest]
      exact ⟨fun _ => .inl hpos, fun _ => rfl⟩
  · exact guess_fillUp_of_first hsizing hfirst (by omega)

/-- Buffers of the first size that are filled leave the size as it is; a burst that comes to more
than one of them moves it. -/
theorem guess_fillUp_first :
    let policy : ReceivePolicy := { sizing := .adaptive 0 0 32 }
    let handle := (ofPolicy 0 policy).runAll [.reset policy]
    ReceivePolicy.adaptive 16 16 1024 = .ok policy ∧ 16 ∈ SizeTable.sizes ∧
      handle.guess = 16 ∧ handle.fillUp.guess = 16 ∧ handle.fillUp.fillUp.complete.guess = 80 := by
  intro policy handle
  have hpolicy : ReceivePolicy.adaptive 16 16 1024 = .ok policy := rfl
  have hentry : 16 ∈ SizeTable.sizes := by decide
  have hguess : handle.guess = 16 := by decide
  obtain ⟨highest, hlast, -, i, hle, hi, -, hfirst⟩ :=
    guess_fillUp hpolicy ⟨16, hentry, by decide, by decide⟩ 0 [.reset policy]
  have hsize : SizeTable.size i = SizeTable.size 0 := Int.ofNat_inj.mp (hi.symm.trans hguess)
  have hzero : i = 0 :=
    SizeTable.size_inj (Nat.le_trans hle hlast) (Nat.zero_le SizeTable.last) hsize
  exact ⟨hpolicy, hentry, hguess, (hfirst hzero).trans hguess, by decide⟩

end ReceiveHandle

/-! ## The end of a burst -/

/-- What a call says about the size of a handle, if it says anything. -/
def HandleCall.reading? (handle : ReceiveHandle) (call : HandleCall) : Option Reading :=
  match handle.sizing with
  | .fixed _ => none
  | .adaptive state => (call.amount? handle).map state.reading

namespace Reading

/-- Counts small readings, from the last large one on. -/
def tally (count : Nat) : Reading → Nat
  | small => count + 1
  | medium => count
  | large => 0

/-- The number of small readings since the last large one. -/
def smallStreak (readings : List Reading) : Nat := readings.foldl tally 0

/-- If there were small readings since the last large one, then there was a last small one, and only
medium ones after it. -/
theorem exists_last_small {readings : List Reading} (h : 0 < smallStreak readings) :
    ∃ earlier later, readings = earlier ++ small :: later ∧
      ∀ reading ∈ later, reading = medium := by
  induction readings using List.reverseRecOn with
  | nil => exact absurd h (Nat.lt_irrefl 0)
  | append_singleton front reading ih =>
    rw [smallStreak, List.foldl_append] at h
    cases reading with
    | small => exact ⟨front, [], rfl, by simp⟩
    | medium =>
      obtain ⟨earlier, later, rfl, hlater⟩ := ih h
      refine ⟨earlier, later ++ [medium], by simp, fun reading hmem => ?_⟩
      rcases List.mem_append.mp hmem with hold | hnew
      · exact hlater reading hold
      · exact List.mem_singleton.mp hnew
    | large => exact absurd h (Nat.lt_irrefl 0)

end Reading

namespace AdaptiveSize

variable {state : AdaptiveSize} {amount : Int}

/-- The size is about to go down at a small amount if the number of small ones is odd. -/
theorem shrinkNext_record {count : Nat} (h : state.shrinkNext = decide (count % 2 = 1)) :
    (state.record amount).shrinkNext =
      decide ((state.reading amount).tally count % 2 = 1) := by
  rw [record_eq]
  cases state.reading amount with
  | small =>
    dsimp only [Reading.tally]
    cases hshrink : state.shrinkNext with
    | true =>
      rw [hshrink, eq_comm, decide_eq_true_iff] at h
      rw [if_pos rfl]
      exact (decide_eq_false (by omega)).symm
    | false =>
      rw [hshrink, eq_comm, decide_eq_false_iff_not] at h
      rw [if_neg Bool.false_ne_true]
      exact (decide_eq_true (by omega)).symm
  | medium => exact h
  | large => rfl

/-- An amount moves the size down exactly if it is small, the size was about to go down, and there
is a position to go to. -/
theorem position_record_lt_iff (hlowest : state.lowest ≤ state.position)
    (hhighest : state.position ≤ state.highest) :
    (state.record amount).position < state.position ↔
      state.reading amount = .small ∧ state.lowest < state.position ∧ state.shrinkNext = true := by
  rw [record_eq]
  cases state.reading amount with
  | small =>
    cases state.shrinkNext with
    | true =>
      simp only [if_true, true_and, and_true]
      omega
    | false => simp
  | medium => simp
  | large =>
    simp only [reduceCtorEq, false_and, iff_false]
    omega

/-- If an amount moves the size down, then by one position. -/
theorem position_record_of_lt (hlowest : state.lowest ≤ state.position)
    (hhighest : state.position ≤ state.highest)
    (h : (state.record amount).position < state.position) :
    (state.record amount).position = state.position - 1 := by
  obtain ⟨hsmall, hpos, hshrink⟩ := (position_record_lt_iff hlowest hhighest).mp h
  rw [record_eq, hsmall, hshrink]
  simp only [if_true]
  omega

end AdaptiveSize

namespace ReceiveHandle

variable {handle : ReceiveHandle} {state : AdaptiveSize}

/-- What calls say about the size of a handle, in order. -/
def readings : ReceiveHandle → List HandleCall → List Reading
  | _, [] => []
  | handle, call :: rest => (call.reading? handle).toList ++ readings (call.perform handle) rest

/-- **Whether the size is about to go down** is whether the number of small readings since the last
large one is odd. -/
theorem shrinkNext_runAll {count : Nat} (h : handle.sizing = .adaptive state)
    (hcount : state.shrinkNext = decide (count % 2 = 1)) (calls : List HandleCall) :
    ∃ reached, (handle.runAll calls).sizing = .adaptive reached ∧
      reached.shrinkNext = decide ((handle.readings calls).foldl Reading.tally count % 2 = 1) := by
  -- A call that says nothing leaves the size alone; any other one adds its reading to the count.
  induction calls generalizing handle state count with
  | nil => exact ⟨state, h, hcount⟩
  | cons call rest ih =>
    have hsizing := call.sizing_perform h
    have hreading : call.reading? handle = (call.amount? handle).map state.reading := by
      rw [HandleCall.reading?, h]
    cases hamount : call.amount? handle with
    | none =>
      rw [hamount] at hsizing hreading
      rw [readings, hreading]
      exact ih hsizing hcount
    | some amount =>
      rw [hamount] at hsizing hreading
      rw [readings, hreading]
      exact ih hsizing (AdaptiveSize.shrinkNext_record hcount)

theorem guess_complete (h : handle.sizing = .adaptive state) :
    handle.complete.guess = SizeTable.size (state.record handle.total).position :=
  guess_of_adaptive (HandleCall.complete.sizing_perform h)

section Policy

variable {minimum initial maximum : Int} {policy : ReceivePolicy}
  (hpolicy : ReceivePolicy.adaptive minimum initial maximum = .ok policy)

include hpolicy

theorem shrinkNext_iff (id : PolicyId) (calls : List HandleCall)
    (h : ((ofPolicy id policy).runAll calls).sizing = .adaptive state) :
    state.shrinkNext = true ↔
      Reading.smallStreak ((ofPolicy id policy).readings calls) % 2 = 1 := by
  have hstarts : ∃ start, (ofPolicy id policy).sizing = .adaptive start ∧
      start.shrinkNext = decide (0 % 2 = 1) := by
    unfold ofPolicy
    rw [ReceivePolicy.sizing_of_adaptive hpolicy]
    exact ⟨_, rfl, rfl⟩
  obtain ⟨start, hstart, hfresh⟩ := hstarts
  obtain ⟨reached, hreached, hshrink⟩ := shrinkNext_runAll hstart hfresh calls
  rw [h] at hreached
  cases hreached
  rw [hshrink, decide_eq_true_iff, Reading.smallStreak]

variable (hentry : ∃ bytes ∈ SizeTable.sizes, minimum ≤ (bytes : Int) ∧ (bytes : Int) ≤ maximum)

include hentry

/-- **When the end of a burst moves the size down.** It does if the total of the burst is at most
the size a position below, this one is within the bounds, and the number of small readings since the
last large one is odd. So it is the second small reading of two that moves the size, by one
position; but there may be any number of medium ones between the two. -/
theorem complete_shrinks_iff (id : PolicyId) (calls : List HandleCall) :
    let handle := (ofPolicy id policy).runAll calls
    let readings := (ofPolicy id policy).readings calls
    ∃ i ≤ SizeTable.last, handle.guess = SizeTable.size i ∧
      (handle.complete.guess < handle.guess ↔
        handle.total ≤ SizeTable.size (i - 1) ∧
          (0 < i ∧ minimum ≤ (SizeTable.size (i - 1) : Int)) ∧
          Reading.smallStreak readings % 2 = 1) ∧
      (handle.complete.guess < handle.guess →
        handle.complete.guess = SizeTable.size (i - 1) ∧
          ∃ earlier later, readings = earlier ++ Reading.small :: later ∧
            ∀ reading ∈ later, reading = Reading.medium) := by
  intro handle readings
  obtain ⟨state, hsizing, hranges⟩ := ranges_runAll hpolicy hentry id calls
  have hnext := hranges.record handle.total
  obtain ⟨hlowest, hhighest, hlow, hhigh⟩ := hranges
  have habove : state.lowest ≤ state.position := by omega
  have hunder : state.position ≤ state.highest := by omega
  have hle := ReceivePolicy.highestPosition_le maximum
  have hlast : state.position ≤ SizeTable.last := Nat.le_trans hhigh hle
  have hguess : handle.guess = SizeTable.size state.position := guess_of_adaptive hsizing
  have hcomplete : handle.complete.guess = _ := guess_complete hsizing
  -- The table is strictly increasing, so sizes compare as their positions do.
  have hdown : handle.complete.guess < handle.guess ↔
      (state.record handle.total).position < state.position := by
    rw [hcomplete, hguess, Int.ofNat_lt]
    exact SizeTable.size_lt_iff (Nat.le_trans hnext.le_highest hle) hlast
  have hmoves := @AdaptiveSize.position_record_lt_iff state handle.total habove hunder
  have hbelow : state.lowest < state.position ↔
      0 < state.position ∧ minimum ≤ (SizeTable.size (state.position - 1) : Int) := by
    have hreaches := ReceivePolicy.lowestPosition_le_iff (i := state.position - 1)
      (Nat.le_trans (Nat.sub_le ..) hlast) (ReceivePolicy.bounds_of_entry hentry).1
    omega
  have hodd := shrinkNext_iff hpolicy id calls hsizing
  refine ⟨state.position, hlast, hguess, ?_, fun h => ⟨?_, ?_⟩⟩
  · rw [hdown, hmoves, AdaptiveSize.reading_eq_small_iff, hbelow, hodd]
  · rw [hcomplete, AdaptiveSize.position_record_of_lt habove hunder (hdown.mp h)]
  · have hstreak := hodd.mp (hmoves.mp (hdown.mp h)).2.2
    -- An odd streak is not empty, so a small reading began it.
    refine Reading.exists_last_small (Nat.pos_of_ne_zero fun hnone => ?_)
    rw [hnone] at hstreak
    exact absurd hstreak (by decide)

end Policy

/-- Small bursts with one between them that is not small: the second small one moves the size down.
-/
theorem complete_shrinks_interrupted :
    let policy : ReceivePolicy := { sizing := .adaptive 3 33 38 }
    let burst : Int → List HandleCall := fun bytes =>
      [.reset policy, .attempt 2048, .noteRead bytes, .complete]
    let calls := burst 100 ++ burst 1500 ++ [.reset policy, .attempt 2048, .noteRead 100]
    let handle := (ofPolicy 0 policy).runAll calls
    ReceivePolicy.adaptive 64 2048 65536 = .ok policy ∧ 64 ∈ SizeTable.sizes ∧
      (ofPolicy 0 policy).readings calls = [.small, .medium] ∧
      handle.guess = 2048 ∧ handle.complete.guess = 1024 := by
  intro policy burst calls handle
  have hpolicy : ReceivePolicy.adaptive 64 2048 65536 = .ok policy := rfl
  have hentry : 64 ∈ SizeTable.sizes := by decide
  have hreadings : (ofPolicy 0 policy).readings calls = [.small, .medium] := by decide
  have hguess : handle.guess = 2048 := by decide
  have htotal : handle.total = 100 := by decide
  obtain ⟨i, hi, hsize, hshrinks, hdown⟩ :=
    complete_shrinks_iff hpolicy ⟨64, hentry, by decide, by decide⟩ 0 calls
  -- The size of 2048 bytes stands at position 33.
  have hsame : SizeTable.size i = SizeTable.size 33 := Int.ofNat_inj.mp (hsize.symm.trans hguess)
  obtain rfl : i = 33 := SizeTable.size_inj hi (by decide) hsame
  have hsmall : handle.complete.guess < handle.guess := by
    refine hshrinks.mpr ⟨?_, by decide, ?_⟩
    · show handle.total ≤ _
      rw [htotal]
      decide
    · rw [hreadings]
      rfl
  exact ⟨hpolicy, hentry, hreadings, hguess, (hdown hsmall).1⟩

end ReceiveHandle

end UdpTransport
