/-!
# Byte strings

Payloads, raw addresses and option values are lists of bytes. This module fixes the list of
bytes that stands for a stretch of zeroed memory, the cut-or-pad operation `Bytes.fit` with which
a value is stored in a field of fixed size, and the two byte orders in which numbers are laid out.

Main facts: `Bytes.length_fit` (a fitted string has exactly the length asked for),
`Bytes.fit_eq_self` (fitting to its own length changes nothing), and the laws that tie a number to
its bytes, `Bytes.littleEndian_encodeLittle` and `Bytes.encodeLittle_littleEndian`.
-/

namespace UdpTransport

/-- A string of bytes. -/
abbrev Bytes := List UInt8

namespace Bytes

/-- The content of `n` bytes of zeroed memory. -/
def zeros (n : Nat) : Bytes := List.replicate n 0

/-- Exactly `n` bytes: the string is cut, or continued with zeros. -/
def fit (n : Nat) (bytes : Bytes) : Bytes := bytes.take n ++ zeros (n - bytes.length)

/-- The byte at an index; memory past the end of the string reads as zero. -/
def byteAt (bytes : Bytes) (index : Nat) : UInt8 := bytes.getD index 0

/-- `count` bytes from `start` on; memory past the end of the string reads as zero. -/
def window (bytes : Bytes) (start count : Nat) : Bytes := fit count (bytes.drop start)

@[simp] theorem length_zeros (n : Nat) : (zeros n).length = n := by simp [zeros]

@[simp] theorem length_fit (n : Nat) (bytes : Bytes) : (fit n bytes).length = n := by
  simp only [fit, List.length_append, List.length_take, length_zeros]
  omega

@[simp] theorem length_window (bytes : Bytes) (start count : Nat) :
    (window bytes start count).length = count := length_fit ..

/-- Bytes of the right length fit as they are. -/
theorem fit_eq_self {n : Nat} {bytes : Bytes} (h : bytes.length = n) : fit n bytes = bytes := by
  subst h
  simp [fit, zeros]

/-! ## Numbers in memory -/

/-- The number that bytes spell with the least significant byte first. -/
def littleEndian : Bytes → Nat
  | [] => 0
  | b :: rest => b.toNat + 256 * littleEndian rest

/-- The number that bytes spell with the most significant byte first. -/
def bigEndian (bytes : Bytes) : Nat := littleEndian bytes.reverse

/-- The `count` low bytes of a number, least significant first. -/
def encodeLittle : (count : Nat) → Nat → Bytes
  | 0, _ => []
  | count + 1, n => UInt8.ofNat n :: encodeLittle count (n / 256)

/-- The `count` low bytes of a number, most significant first. -/
def encodeBig (count n : Nat) : Bytes := (encodeLittle count n).reverse

/-- The number of values that `count` bytes can spell. -/
def span : (count : Nat) → Nat
  | 0 => 1
  | count + 1 => 256 * span count

/-- A signed number as a word of 32 bits, least significant byte first. -/
def encodeWord (n : Int) : Bytes := encodeLittle 4 (n % span 4).toNat

@[simp] theorem length_encodeLittle (count n : Nat) : (encodeLittle count n).length = count := by
  induction count generalizing n with
  | zero => rfl
  | succ count ih => simp [encodeLittle, ih]

@[simp] theorem length_encodeBig (count n : Nat) : (encodeBig count n).length = count := by
  simp [encodeBig]

/-- Reading back what was laid out gives the number's low bytes. -/
theorem littleEndian_encodeLittle (count n : Nat) :
    littleEndian (encodeLittle count n) = n % span count := by
  induction count generalizing n with
  | zero => simp [encodeLittle, littleEndian, span, Nat.mod_one]
  | succ count ih => simp [encodeLittle, littleEndian, ih, span, Nat.mod_mul]

/-- A number comes back as far as its bytes hold it. -/
theorem bigEndian_encodeBig (count n : Nat) : bigEndian (encodeBig count n) = n % span count := by
  simp [bigEndian, encodeBig, littleEndian_encodeLittle]

/-- Bytes in memory are a number below their span. -/
theorem littleEndian_lt (bytes : Bytes) : littleEndian bytes < span bytes.length := by
  induction bytes with
  | nil => simp [littleEndian, span]
  | cons b rest ih =>
    have hb : b.toNat < 256 := b.toNat_lt
    simp only [List.length_cons, span, littleEndian]
    omega

/-- A number of `count` bytes is laid out as the bytes that spell it. -/
theorem encodeLittle_littleEndian (bytes : Bytes) :
    encodeLittle bytes.length (littleEndian bytes) = bytes := by
  induction bytes with
  | nil => rfl
  | cons b rest ih =>
    have hb : b.toNat < 256 := b.toNat_lt
    have quotient : (b.toNat + 256 * littleEndian rest) / 256 = littleEndian rest := by omega
    have low : UInt8.ofNat (b.toNat + 256 * littleEndian rest) = b := by
      apply UInt8.toNat_inj.mp
      rw [UInt8.toNat_ofNat']
      omega
    simp only [List.length_cons, littleEndian, encodeLittle, quotient, low, ih]

end Bytes

end UdpTransport
