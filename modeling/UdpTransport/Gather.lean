import UdpTransport.Buffer.Basic

/-!
# Regions of one vectorized send

A vectorized send hands the system several regions of memory at once. `Gather` collects them within
the limits of one call: at most `maxRegions` regions, and at most `maxBytes` bytes, except that the
first region is always taken. Sizes are words of 64 bits. Empty regions are accepted and left out,
so no region is ever empty, and a region that is refused changes nothing (`add_refused`).
-/

namespace UdpTransport

/-- A stretch of memory by its length; `bytes` is what it holds, where that matters. -/
structure Region where
  length : UInt64
  bytes : Bytes
  deriving DecidableEq, Repr

/-- The region that some bytes occupy. -/
def Region.ofBytes (bytes : Bytes) : Region := ⟨UInt64.ofNat bytes.length, bytes⟩

/-- The regions collected for one send. -/
structure Gather where
  regions : List Region
  /-- The sum of the lengths. -/
  size : UInt64
  maxBytes : UInt64
  deriving DecidableEq, Repr

namespace Gather

/-- The largest number of regions that one call takes. -/
abbrev maxRegions : Nat := 1024

/-- The largest number of bytes that one call can report as sent. -/
abbrev maxReported : UInt64 := 9223372036854775807

/-- No regions yet. -/
def empty (maxBytes : UInt64) : Gather := ⟨[], 0, maxBytes⟩

/-- Drops all regions and keeps the limit. -/
def clear (gather : Gather) : Gather := empty gather.maxBytes

/-- Adds a region unless a limit is hit; says whether the region was accepted. -/
def add (gather : Gather) (region : Region) : Bool × Gather :=
  if region.length = 0 then (true, gather)
  else if maxRegions ≤ gather.regions.length then (false, gather)
  else if gather.maxBytes - gather.size < region.length ∧ gather.regions ≠ [] then (false, gather)
  else (true,
    { gather with
      regions := gather.regions ++ [region]
      size := gather.size + region.length })

/-- Adds regions up to the first that is refused; says whether all were accepted. -/
def addAll (gather : Gather) : List Region → Bool × Gather
  | [] => (true, gather)
  | region :: rest =>
    match gather.add region with
    | (true, gather) => gather.addAll rest
    | (false, gather) => (false, gather)

/-- Adds the readable components of a buffer. -/
def addReadable (gather : Gather) (buffer : Buffer) : Bool × Gather :=
  gather.addAll (buffer.readableComponents.map fun c => Region.ofBytes c.readableBytes)

/-- All bytes of the regions in order. -/
def toBytes (gather : Gather) : Bytes := gather.regions.flatMap Region.bytes

theorem add_refused {gather : Gather} {region : Region} (h : (gather.add region).1 = false) :
    (gather.add region).2 = gather := by
  unfold add at h ⊢
  split
  · rfl
  · split
    · rfl
    · split
      · rfl
      · simp_all

end Gather

end UdpTransport
