import Mathlib.Tactic.Common
import UdpTransport.Bytes

/-!
# Stretches of byte strings

Fields of a layout and blocks of memory are both read as windows of a byte string. A field is found
where it was laid out (`Bytes.window_append`), neighbouring windows are one (`Bytes.window_add`),
and a string that was cut or padded falls apart into two that were (`Bytes.fit_add`).
-/

namespace UdpTransport.Bytes

/-! ## Fields of a layout -/

/-- The front of a string, cut to its own length. -/
theorem fit_append {count : Nat} {field : Bytes} (h : field.length = count) (rest : Bytes) :
    fit count (field ++ rest) = field := by
  subst h
  simp [fit, zeros]

theorem window_front {count : Nat} {field : Bytes} (h : field.length = count) (rest : Bytes) :
    window (field ++ rest) 0 count = field := fit_append h rest

/-- A field is found where it was laid out. -/
theorem window_append {start count : Nat} {before field : Bytes} (hstart : before.length = start)
    (hcount : field.length = count) (rest : Bytes) :
    window (before ++ (field ++ rest)) start count = field := by
  subst hstart
  rw [window, List.drop_left, fit_append hcount]

theorem fit_add (m n : Nat) (bytes : Bytes) :
    fit (m + n) bytes = fit m bytes ++ fit n (bytes.drop m) := by
  rcases Nat.le_total m bytes.length with hle | hle
  · have hleft : m + n - bytes.length = n - (bytes.length - m) := by omega
    simp [fit, zeros, List.take_add, hle, hleft]
  · rw [fit, fit, fit, List.take_of_length_le hle, List.take_of_length_le (by omega),
      List.drop_of_length_le hle, List.take_nil, List.nil_append, List.length_nil,
      List.append_assoc,
      zeros, zeros, zeros, List.replicate_append_replicate]
    congr 2
    omega

/-- Neighbouring windows are one. -/
theorem window_add (bytes : Bytes) (start m n : Nat) :
    window bytes start (m + n) = window bytes start m ++ window bytes (start + m) n := by
  rw [window, fit_add, List.drop_drop]
  rfl

theorem encodeBig_bigEndian (bytes : Bytes) : encodeBig bytes.length (bigEndian bytes) = bytes := by
  have h := encodeLittle_littleEndian bytes.reverse
  rw [List.length_reverse] at h
  rw [encodeBig, bigEndian, h, List.reverse_reverse]

/-! ## Parts of a fitted string -/

theorem take_fit_add (m n : Nat) (bytes : Bytes) : (fit (m + n) bytes).take m = fit m bytes := by
  rw [fit_add, List.take_left' (length_fit ..)]

theorem drop_fit_add (m n : Nat) (bytes : Bytes) :
    (fit (m + n) bytes).drop m = fit n (bytes.drop m) := by
  rw [fit_add, List.drop_left' (length_fit ..)]

end UdpTransport.Bytes
