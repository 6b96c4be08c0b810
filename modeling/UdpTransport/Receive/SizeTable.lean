import UdpTransport.Bytes

/-!
# Sizes of receive buffers

Adaptive receive buffers take their sizes from one table: steps of 16 bytes up to 496, then powers
of two from 512 to 2^30. `SizeTable.position` finds the smallest size that is large enough, the
largest of all if there is none.
-/

namespace UdpTransport.SizeTable

/-- The sizes in increasing order. -/
def sizes : List Nat :=
  (List.range 31).map (fun step => 16 * (step + 1)) ++
    (List.range 22).map (fun power => 512 <<< power)

/-- The last position of the table. -/
abbrev last : Nat := 52

/-- The size at a position. -/
def size (position : Nat) : Nat := sizes.getD position 0

/-- The position of the smallest size that is at least `wanted`, the last one if none is. -/
def position (wanted : Int) : Nat :=
  min last (sizes.findIdx fun (size : Nat) => wanted ≤ (size : Int))

theorem length_sizes : sizes.length = last + 1 := rfl

theorem position_le (wanted : Int) : position wanted ≤ last := Nat.min_le_left ..

end UdpTransport.SizeTable
