import Mathlib.Tactic.Common
import UdpTransport.Address.Numeric
import UdpTransport.Address.Text

/-!
# Numbers and dotted hosts, written and read back

A number is read back from its digits in any base up to sixteen (`number?_toDigits`), and a text
that was put together with a separator falls into its parts again (`pieces_intercalate`). Four
decimal numbers with dots between them are therefore read back as the host that they were written
for, in the liberal notation and in the strict one (`looseHost4_dotted`, `strictHost4_dotted`).
-/

namespace UdpTransport.Address

/-! ## Numbers -/

section Numbers

variable {base : Nat}

theorem digitValue?_digitChar {digit : Nat} (h : digit < 16) :
    digitValue? digit.digitChar = some digit :=
  (by decide : ∀ digit < 16, digitValue? digit.digitChar = some digit) digit h

theorem numberFrom_append (base value : Nat) (front back : List Char) :
    numberFrom base value (front ++ back) =
      (numberFrom base value front).bind (numberFrom base · back) := by
  induction front generalizing value with
  | nil => rfl
  | cons c rest ih =>
    rw [List.cons_append, numberFrom, numberFrom]
    cases digitValue? c with
    | none => rfl
    | some digit =>
      dsimp only
      split
      · exact ih _
      · rfl

variable (hbase : 1 < base) (hsixteen : base ≤ 16)

include hbase hsixteen

/-- The digits of a number are read from the front, and the last one is what is left of the number
when the others are taken from it. -/
theorem numberFrom_toDigits (n : Nat) : numberFrom base 0 (Nat.toDigits base n) = some n := by
  have hdigit : ∀ {value digit}, digit < base →
      numberFrom base value [digit.digitChar] = some (value * base + digit) := by
    intro value digit hlt
    rw [numberFrom, digitValue?_digitChar (by omega)]
    exact if_pos hlt
  induction n using Nat.strongRecOn with
  | ind n ih =>
    rcases Nat.lt_or_ge n base with hlt | hge
    · rw [Nat.toDigits_of_lt_base hlt, hdigit hlt, Nat.zero_mul, Nat.zero_add]
    · have hsmaller : n / base < n := Nat.div_lt_self (by omega) hbase
      rw [Nat.toDigits_of_base_le hbase hge, numberFrom_append, ih _ hsmaller, Option.bind_some,
        hdigit (Nat.mod_lt n (by omega)), Nat.div_add_mod']

/-- **A number is read back from its digits.** -/
theorem number?_toDigits (n : Nat) : number? base (Nat.toDigits base n) = some n := by
  rw [number?, if_neg (by simp), numberFrom_toDigits hbase hsixteen]

theorem mem_toDigits {n : Nat} {c : Char} (h : c ∈ Nat.toDigits base n) :
    ∃ digit < 16, c = digit.digitChar := by
  induction n using Nat.strongRecOn with
  | ind n ih =>
    rcases Nat.lt_or_ge n base with hlt | hge
    · rw [Nat.toDigits_of_lt_base hlt, List.mem_singleton] at h
      exact ⟨n, by omega, h⟩
    · rw [Nat.toDigits_of_base_le hbase hge, List.mem_append, List.mem_singleton] at h
      rcases h with hfront | hlast
      · exact ih _ (Nat.div_lt_self (by omega) hbase) hfront
      · exact ⟨n % base, Nat.lt_of_lt_of_le (Nat.mod_lt n (by omega)) hsixteen, hlast⟩

/-- What is not a digit does not occur in a number. -/
theorem not_mem_toDigits {mark : Char} (hmark : digitValue? mark = none) (n : Nat) :
    mark ∉ Nat.toDigits base n := by
  intro hmem
  obtain ⟨digit, hlt, rfl⟩ := mem_toDigits hbase hsixteen hmem
  rw [digitValue?_digitChar hlt] at hmark
  cases hmark

/-- Only zero is written with a leading zero. -/
theorem head?_toDigits {n : Nat} (hn : 0 < n) : (Nat.toDigits base n).head? ≠ some '0' := by
  induction n using Nat.strongRecOn with
  | ind n ih =>
    rcases Nat.lt_or_ge n base with hlt | hge
    · rw [Nat.toDigits_of_lt_base hlt, List.head?_cons, Ne, Option.some.injEq,
        Nat.digitChar_eq_zero]
      omega
    · have hfront := ih _ (Nat.div_lt_self (by omega) hbase) (Nat.div_pos hge (by omega))
      obtain ⟨first, rest, hcons⟩ :=
        List.exists_cons_of_ne_nil (Nat.toDigits_ne_nil (n := n / base) (b := base))
      rw [Nat.toDigits_of_base_le hbase hge, hcons]
      rwa [hcons] at hfront

end Numbers

/-! ## Separators -/

theorem pieces_eq_splitOn (separator : Char) (text : List Char) :
    pieces separator text = text.splitOn separator := by
  induction text with
  | nil => rfl
  | cons c rest ih =>
    rw [List.splitOn_cons_eq_if_modifyHead, pieces, ih]
    by_cases hc : c = separator
    · simp [hc]
    · cases hrest : rest.splitOn separator with
      | nil => exact absurd hrest (List.splitOn_ne_nil separator rest)
      | cons piece others => simp [hc]

/-- A text falls into the parts that it was put together from. -/
theorem pieces_intercalate {separator : Char} {parts : List (List Char)}
    (hparts : ∀ part ∈ parts, separator ∉ part) (hnonempty : parts ≠ []) :
    pieces separator ([separator].intercalate parts) = parts := by
  rw [pieces_eq_splitOn, List.splitOn_intercalate separator hparts hnonempty]

theorem mem_intercalate {separator : Char} {parts : List (List Char)} {c : Char}
    (h : c ∈ [separator].intercalate parts) : c = separator ∨ ∃ part ∈ parts, c ∈ part := by
  induction parts with
  | nil => simp at h
  | cons part rest ih =>
    by_cases hrest : rest = []
    · subst hrest
      rw [List.intercalate_singleton] at h
      exact .inr ⟨part, List.mem_cons_self, h⟩
    · rw [List.intercalate_cons_of_ne_nil hrest, List.mem_append, List.mem_append,
        List.mem_singleton] at h
      rcases h with (hpart | hmark) | hlater
      · exact .inr ⟨part, List.mem_cons_self, hpart⟩
      · exact .inl hmark
      · exact (ih hlater).imp_right fun ⟨other, hmem, hc⟩ =>
          ⟨other, List.mem_cons_of_mem part hmem, hc⟩

/-! ## Dotted hosts -/

section Dotted

variable {host : Bytes}

theorem loosePart?_of_head? {text : List Char} (h : text.head? ≠ some '0') :
    loosePart? text = number? 10 text := by
  unfold loosePart?
  split
  · exact absurd rfl h
  · rfl

/-- Decimal numbers are read in the liberal notation as decimal numbers. -/
theorem loosePart?_toDigits (n : Nat) : loosePart? (Nat.toDigits 10 n) = some n := by
  rcases Nat.eq_zero_or_pos n with rfl | hpos
  · rfl
  · rw [loosePart?_of_head? (head?_toDigits (by decide) (by decide) hpos),
      number?_toDigits (by decide) (by decide)]

theorem strictPart?_toDigits (byte : UInt8) :
    strictPart? (Nat.toDigits 10 byte.toNat) = some byte := by
  have hbyte := byte.toNat_lt
  have hlength : (Nat.toDigits 10 byte.toNat).length ≤ 3 :=
    (Nat.length_toDigits_le_iff (by decide) (by decide)).mpr (by omega)
  have hhead : (Nat.toDigits 10 byte.toNat).head? = some '0' →
      (Nat.toDigits 10 byte.toNat).length = 1 := by
    intro hzero
    rcases Nat.eq_zero_or_pos byte.toNat with hnil | hpos
    · rw [hnil]
      rfl
    · exact absurd hzero (head?_toDigits (by decide) (by decide) hpos)
  rw [strictPart?, if_pos ⟨hlength, hhead⟩, number?_toDigits (by decide) (by decide),
    Option.bind_some, if_pos hbyte, UInt8.ofNat_toNat]

theorem pieces_dotted (hlength : host.length = 4) :
    pieces '.' (dotted host) = host.map fun byte => Nat.toDigits 10 byte.toNat := by
  rw [dotted, Bytes.fit_eq_self hlength]
  refine pieces_intercalate (fun part hpart => ?_) ?_
  · obtain ⟨byte, -, rfl⟩ := List.mem_map.mp hpart
    exact not_mem_toDigits (by decide) (by decide) (by decide) byte.toNat
  · rw [Ne, List.map_eq_nil_iff]
    rintro rfl
    cases hlength

/-- A part for each byte that is left gives these bytes. -/
theorem looseBytes_toNat (hnonempty : host ≠ []) :
    looseBytes host.length (host.map UInt8.toNat) = some host := by
  induction host with
  | nil => exact absurd rfl hnonempty
  | cons byte rest ih =>
    have hbyte := byte.toNat_lt
    cases rest with
    | nil =>
      -- the last part fills all bytes that are left, which is one
      have hlast : byte.toNat < Bytes.span 1 := hbyte
      show (if byte.toNat < Bytes.span 1 then some [UInt8.ofNat byte.toNat] else none) = some [byte]
      rw [if_pos hlast, UInt8.ofNat_toNat]
    | cons next rest =>
      have hrest := ih (List.cons_ne_nil next rest)
      rw [List.length_cons, List.map_cons, List.map_cons, looseBytes, if_pos hbyte,
        ← List.map_cons, hrest, Option.map_some, UInt8.ofNat_toNat]
      exact List.cons_ne_nil _ _

/-- **A dotted host is read back in the liberal notation.** -/
theorem looseHost4_dotted (hlength : host.length = 4) : looseHost4 (dotted host) = some host := by
  have hparts : (pieces '.' (dotted host)).mapM loosePart? = some (host.map UInt8.toNat) := by
    rw [pieces_dotted hlength, List.mapM_map]
    simp only [Function.comp_def, loosePart?_toDigits]
    exact List.mapM_pure
  have hnonempty : host ≠ [] := by
    rintro rfl
    cases hlength
  have hbytes := looseBytes_toNat hnonempty
  rw [hlength] at hbytes
  rw [looseHost4, hparts]
  show (if (host.map UInt8.toNat).length ≤ 4 then _ else _) = _
  rw [List.length_map, if_pos (Nat.le_of_eq hlength), hbytes]

/-- **A dotted host is read back in the strict notation.** -/
theorem strictHost4_dotted (hlength : host.length = 4) :
    strictHost4 (dotted host) = some host := by
  have hparts : (pieces '.' (dotted host)).mapM strictPart? = some host := by
    rw [pieces_dotted hlength, List.mapM_map]
    simp only [Function.comp_def, strictPart?_toDigits]
    exact List.mapM_pure.trans (congrArg some (List.map_id' host))
  rw [strictHost4, hparts]
  exact if_pos hlength

end Dotted

end UdpTransport.Address
