import Mathlib.Algebra.GroupWithZero.Nat
import UdpTransport.Gather

/-!
# The limits of a gather

Whatever is added to a gather and however often it is cleared, it keeps to the number of regions
that one call takes, and none of them is empty. The limit in bytes is another matter, since the
first region is taken whatever its size: it is kept by every gather whose first region fits
(`FirstFits`), and there the size is the exact sum of the lengths and a region is refused exactly
when it would break a limit. **The main result is `limited_runAll`.**

The check subtracts words of 64 bits. It says what it is meant to say only where the size is within
the limit, which is why the invariant (`Limited`) has to carry the exact sum along with the bound.
-/

namespace UdpTransport

/-- What is done with a gather between two sends. -/
inductive GatherOp where
  | add (region : Region)
  | addReadable (buffer : Buffer)
  | clear

namespace Gather

variable {gather : Gather}

/-- Does an operation to a gather. -/
def perform (gather : Gather) : GatherOp → Gather
  | .add region => (gather.add region).2
  | .addReadable buffer => (gather.addReadable buffer).2
  | .clear => gather.clear

/-- The gather that operations end in. -/
def runAll (gather : Gather) (ops : List GatherOp) : Gather := ops.foldl perform gather

/-- The sum of the lengths, as a number. -/
def total (gather : Gather) : Nat := (gather.regions.map fun region => region.length.toNat).sum

/-- The first region alone is within the limit in bytes. -/
def FirstFits (gather : Gather) : Prop :=
  ∀ region ∈ gather.regions.head?, region.length ≤ gather.maxBytes

/-- What is true of a gather between any two operations. -/
structure Limited (gather : Gather) : Prop where
  few : gather.regions.length ≤ maxRegions
  nonempty : ∀ region ∈ gather.regions, region.length ≠ 0
  /-- The size has not wrapped around, at the latest until a second region is added. -/
  exact_size : gather.FirstFits ∨ gather.regions.length ≤ 1 → gather.size.toNat = gather.total
  within : gather.FirstFits → gather.total ≤ gather.maxBytes.toNat

/-- What an addition to a gather says. -/
structure Answers (gather : Gather) (region : Region) : Prop where
  skipped : region.length = 0 → gather.add region = (true, gather)
  unchanged : (gather.add region).1 = false → (gather.add region).2 = gather
  full : region.length ≠ 0 → maxRegions ≤ gather.regions.length → (gather.add region).1 = false
  first : gather.regions = [] → (gather.add region).1 = true
  refused_iff : gather.FirstFits → ((gather.add region).1 = false ↔
    region.length ≠ 0 ∧ (maxRegions ≤ gather.regions.length ∨
      gather.regions ≠ [] ∧ gather.maxBytes.toNat < gather.total + region.length.toNat))

/-! ## One region -/

/-- A gather with one more region. -/
def push (gather : Gather) (region : Region) : Gather :=
  { gather with
    regions := gather.regions ++ [region]
    size := gather.size + region.length }

/-- A limit as the check sees it: in words of 64 bits. -/
def Blocks (gather : Gather) (region : Region) : Prop :=
  maxRegions ≤ gather.regions.length ∨
    gather.maxBytes - gather.size < region.length ∧ gather.regions ≠ []

/-- All that an addition can come to. -/
theorem add_cases (gather : Gather) (region : Region) :
    (region.length = 0 ∧ gather.add region = (true, gather)) ∨
    (region.length ≠ 0 ∧ gather.Blocks region ∧ gather.add region = (false, gather)) ∨
    (region.length ≠ 0 ∧ ¬ gather.Blocks region ∧
      gather.add region = (true, gather.push region)) := by
  by_cases hzero : region.length = 0
  · exact .inl ⟨hzero, if_pos hzero⟩
  by_cases hcount : maxRegions ≤ gather.regions.length
  · exact .inr (.inl ⟨hzero, .inl hcount, by rw [add, if_neg hzero, if_pos hcount]⟩)
  by_cases hbytes : gather.maxBytes - gather.size < region.length ∧ gather.regions ≠ []
  · exact .inr (.inl ⟨hzero, .inr hbytes,
      by rw [add, if_neg hzero, if_neg hcount, if_pos hbytes]⟩)
  · exact .inr (.inr ⟨hzero, fun hblocks => hblocks.elim hcount hbytes,
      by rw [add, if_neg hzero, if_neg hcount, if_neg hbytes]; rfl⟩)

theorem total_push (region : Region) :
    (gather.push region).total = gather.total + region.length.toNat := by
  simp [push, total]

/-- Only the first region decides whether the first region fits. -/
theorem firstFits_push (hregions : gather.regions ≠ []) (region : Region) :
    (gather.push region).FirstFits ↔ gather.FirstFits := by
  obtain ⟨first, rest, hcons⟩ := List.exists_cons_of_ne_nil hregions
  simp [FirstFits, push, hcons]

theorem total_of_regions_nil (hregions : gather.regions = []) : gather.total = 0 := by
  simp [total, hregions]

theorem firstFits_of_regions_nil (hregions : gather.regions = []) : gather.FirstFits := by
  simp [FirstFits, hregions]

namespace Limited

/-- Where the first region fits, the check in words is the one in numbers. -/
theorem blocks_iff (h : gather.Limited) (hfits : gather.FirstFits) (region : Region) :
    gather.Blocks region ↔ maxRegions ≤ gather.regions.length ∨
      gather.regions ≠ [] ∧ gather.maxBytes.toNat < gather.total + region.length.toNat := by
  have hsize := h.exact_size (.inl hfits)
  have hwithin := h.within hfits
  have hle : gather.size ≤ gather.maxBytes := UInt64.le_iff_toNat_le.mpr (by omega)
  have hword : gather.maxBytes - gather.size < region.length ↔
      gather.maxBytes.toNat < gather.total + region.length.toNat := by
    rw [UInt64.lt_iff_toNat_lt, UInt64.toNat_sub_of_le _ _ hle]
    omega
  rw [Blocks, hword, and_comm]

/-- A region that is taken after a first one that fits keeps the size exact and within the limit. -/
theorem size_push (h : gather.Limited) (hregions : gather.regions ≠ [])
    (hfits : gather.FirstFits) {region : Region} (hblocks : ¬ gather.Blocks region) :
    (gather.push region).size.toNat = (gather.push region).total ∧
      (gather.push region).total ≤ gather.maxBytes.toNat := by
  rw [h.blocks_iff hfits, not_or, not_and, Nat.not_lt] at hblocks
  have hroom := hblocks.2 hregions
  have hsize := h.exact_size (.inl hfits)
  have hmax := gather.maxBytes.toNat_lt
  rw [total_push]
  refine ⟨?_, hroom⟩
  rw [push, UInt64.toNat_add, hsize, Nat.mod_eq_of_lt (by omega)]

/-- The first region makes the whole size, be it within the limit or not. -/
theorem size_push_first (h : gather.Limited) (hregions : gather.regions = []) (region : Region) :
    (gather.push region).size.toNat = (gather.push region).total := by
  have hsize := h.exact_size (.inl (firstFits_of_regions_nil hregions))
  rw [total_of_regions_nil hregions] at hsize
  have hlength := region.length.toNat_lt
  rw [total_push, total_of_regions_nil hregions, push, UInt64.toNat_add, hsize,
    Nat.mod_eq_of_lt (by omega)]

theorem push (h : gather.Limited) {region : Region} (hregion : region.length ≠ 0)
    (hblocks : ¬ gather.Blocks region) : (gather.push region).Limited where
  few := by
    have hcount : ¬ maxRegions ≤ gather.regions.length := fun hcount => hblocks (.inl hcount)
    simp only [Gather.push, List.length_append, List.length_singleton]
    omega
  nonempty := by
    intro other hmem
    rcases List.mem_append.mp hmem with hold | hnew
    · exact h.nonempty other hold
    · rw [List.mem_singleton.mp hnew]
      exact hregion
  exact_size := by
    intro hexact
    by_cases hregions : gather.regions = []
    · exact h.size_push_first hregions region
    -- with a region before it the gather now has two, so it is the first one that fits
    have hfits : gather.FirstFits := by
      refine (firstFits_push hregions region).mp (hexact.resolve_right ?_)
      have hpos := List.length_pos_iff.mpr hregions
      simp only [Gather.push, List.length_append, List.length_singleton]
      omega
    exact (h.size_push hregions hfits hblocks).1
  within := by
    intro hfits
    by_cases hregions : gather.regions = []
    · have hle : region.length ≤ gather.maxBytes :=
        hfits region (by simp [Gather.push, hregions])
      rw [total_push, total_of_regions_nil hregions, Nat.zero_add]
      exact UInt64.le_iff_toNat_le.mp hle
    · exact (h.size_push hregions ((firstFits_push hregions region).mp hfits) hblocks).2

theorem answers (h : gather.Limited) (region : Region) : gather.Answers region where
  skipped := fun hzero => if_pos hzero
  unchanged := add_refused
  full := by
    intro hregion hcount
    rw [add, if_neg hregion, if_pos hcount]
  first := by
    intro hregions
    have hfree : ¬ gather.Blocks region := by
      simp [Blocks, hregions]
    rcases gather.add_cases region with ⟨-, hadd⟩ | ⟨-, hblocks, -⟩ | ⟨-, -, hadd⟩
    · rw [hadd]
    · exact absurd hblocks hfree
    · rw [hadd]
  refused_iff := by
    intro hfits
    rw [← h.blocks_iff hfits]
    rcases gather.add_cases region with ⟨hzero, hadd⟩ | ⟨hregion, hblocks, hadd⟩ |
      ⟨-, hfree, hadd⟩
    · simp [hadd, hzero]
    · simp [hadd, hregion, hblocks]
    · simp [hadd, hfree]

end Limited

/-! ## Any run of operations -/

theorem limited_empty (maxBytes : UInt64) : (empty maxBytes).Limited where
  few := Nat.zero_le _
  nonempty := by simp [empty]
  exact_size := fun _ => rfl
  within := fun _ => Nat.zero_le _

theorem limited_add (h : gather.Limited) (region : Region) : (gather.add region).2.Limited := by
  rcases gather.add_cases region with ⟨-, hadd⟩ | ⟨-, -, hadd⟩ | ⟨hregion, hfree, hadd⟩
  · rwa [hadd]
  · rwa [hadd]
  · rw [hadd]
    exact h.push hregion hfree

theorem maxBytes_add (gather : Gather) (region : Region) :
    (gather.add region).2.maxBytes = gather.maxBytes := by
  rcases gather.add_cases region with ⟨-, hadd⟩ | ⟨-, -, hadd⟩ | ⟨-, -, hadd⟩
  all_goals rw [hadd]
  rfl

/-- What every addition keeps is kept by adding regions up to the first that is refused. -/
theorem addAll_induction {P : Gather → Prop}
    (hadd : ∀ gather region, P gather → P (gather.add region).2) (regions : List Region)
    (h : P gather) : P (gather.addAll regions).2 := by
  induction regions generalizing gather with
  | nil => exact h
  | cons region rest ih =>
    have hnext := hadd gather region h
    rw [addAll]
    split <;> rename_i heq <;> rw [heq] at hnext
    · exact ih hnext
    · exact hnext

/-- What every addition and every clearing keeps is kept by every operation. -/
theorem perform_induction {P : Gather → Prop}
    (hadd : ∀ gather region, P gather → P (gather.add region).2)
    (hclear : ∀ gather, P gather → P gather.clear) (op : GatherOp) (h : P gather) :
    P (gather.perform op) := by
  cases op with
  | add region => exact hadd gather region h
  | addReadable buffer => exact addAll_induction hadd _ h
  | clear => exact hclear gather h

theorem runAll_induction {P : Gather → Prop}
    (hadd : ∀ gather region, P gather → P (gather.add region).2)
    (hclear : ∀ gather, P gather → P gather.clear) (ops : List GatherOp) (h : P gather) :
    P (gather.runAll ops) := by
  induction ops generalizing gather with
  | nil => exact h
  | cons op rest ih => exact ih (perform_induction hadd hclear op h)

/-- **The limits of a gather.** After any operations there are no more regions than one call takes,
none is empty, an empty region is left out, and a region that is refused changes nothing. A gather
without regions takes any region. While the first region is within the limit in bytes, the size is
the exact sum of the lengths and within that limit, and a region is refused exactly if it is not
empty and would break the limit in number or, after a first region, the limit in bytes. -/
theorem limited_runAll (maxBytes : UInt64) (ops : List GatherOp) :
    let reached := (empty maxBytes).runAll ops
    reached.maxBytes = maxBytes ∧ reached.Limited ∧ ∀ region, reached.Answers region := by
  have hlimited : ((empty maxBytes).runAll ops).Limited :=
    runAll_induction (P := Limited) (fun _ region h => limited_add h region)
      (fun gather _ => limited_empty gather.maxBytes) ops (limited_empty maxBytes)
  have hmax : ((empty maxBytes).runAll ops).maxBytes = maxBytes :=
    runAll_induction (P := fun gather => gather.maxBytes = maxBytes)
      (fun gather region h => (maxBytes_add gather region).trans h) (fun _ h => h) ops rfl
  exact ⟨hmax, hlimited, hlimited.answers⟩

/-- A first region of 20 bytes is taken by a gather that is limited to 10 bytes. -/
theorem size_exceeds_maxBytes :
    ((empty 10).add ⟨20, []⟩).1 = true ∧
      ((empty 10).runAll [.add ⟨20, []⟩]).maxBytes < ((empty 10).runAll [.add ⟨20, []⟩]).size := by
  decide

end Gather

end UdpTransport
