import Mathlib.Tactic.Common
import UdpTransport.Address.Native
import UdpTransport.Proofs.Bytes

/-!
# Addresses to the system and back

An address goes to the system in the form that the socket's family asks for (`Address.toNative`),
and comes back from it in the form that names its own family (`Address.ofNative`). Between the two
lies a change of form that is many-to-one: an IPv4 host and the IPv6 host that stands for it
(`Address.Mapped`) go out as the same bytes, and only the first of them comes back.

`Address.translates` says what is left of an address on the way out and back, and that nothing is
lost of a native address on the way in and out, so that what was reported can be answered.
-/

namespace UdpTransport

namespace Address

open Bytes (window)

/-- A port in wire layout has two bytes. -/
theorem rawPort_lt (raw : Bytes) : rawPort raw < Bytes.span 2 := by
  have h := Bytes.littleEndian_lt (window raw 2 2).reverse
  rwa [List.length_reverse, Bytes.length_window] at h

/-- A port is laid out as the bytes that it was read from. -/
theorem encodeBig_rawPort (raw : Bytes) : Bytes.encodeBig 2 (rawPort raw) = window raw 2 2 := by
  have h := Bytes.encodeBig_bigEndian (window raw 2 2)
  rwa [Bytes.length_window] at h

section Raw4

variable (port : Nat) (host : Bytes)

@[simp] theorem rawFamily_raw4 : rawFamily (raw4 port host) = Family.ipv4 := by
  rw [rawFamily, raw4, List.append_assoc, List.append_assoc,
    Bytes.window_front (Bytes.length_encodeLittle ..)]
  rfl

/-- The port survives as far as it fits. -/
@[simp] theorem rawPort_raw4 : rawPort (raw4 port host) = port % Bytes.span 2 := by
  rw [rawPort, raw4, List.append_assoc, List.append_assoc,
    Bytes.window_append (by simp) (by simp), Bytes.bigEndian_encodeBig]

/-- The host is cut or filled up to four bytes. -/
@[simp] theorem rawHost4_raw4 : rawHost4 (raw4 port host) = Bytes.fit 4 host := by
  rw [rawHost4, raw4, List.append_assoc]
  exact Bytes.window_append (by simp) (by simp) _

end Raw4

section Raw6

variable (port : Nat) (host : Bytes) (scope : Nat)

@[simp] theorem rawFamily_raw6 : rawFamily (raw6 port host scope) = Family.ipv6 := by
  simp only [rawFamily, raw6, List.append_assoc]
  rw [Bytes.window_front (Bytes.length_encodeLittle ..)]
  rfl

@[simp] theorem rawPort_raw6 : rawPort (raw6 port host scope) = port % Bytes.span 2 := by
  simp only [rawPort, raw6, List.append_assoc]
  rw [Bytes.window_append (by simp) (by simp), Bytes.bigEndian_encodeBig]

/-- The host is cut or filled up to sixteen. -/
@[simp] theorem rawHost6_raw6 : rawHost6 (raw6 port host scope) = Bytes.fit 16 host := by
  rw [rawHost6, raw6, List.append_assoc]
  exact Bytes.window_append (by simp) (by simp) _

end Raw6

/-! ## Hosts that stand for others -/

/-- An IPv6 address whose host stands for an IPv4 host. -/
def Mapped (address : Address) : Prop :=
  address.family = Family.ipv6 ∧ isMapped (rawHost6 address.bytes) = true

instance (address : Address) : Decidable address.Mapped := inferInstanceAs (Decidable (_ ∧ _))

/-- A host that stands for an IPv4 host is that host behind a fixed start. -/
theorem mappedStart_append_drop {host : Bytes} (h : isMapped host = true) :
    mappedStart ++ host.drop 12 = host := by
  rw [← beq_iff_eq.mp h, List.take_append_drop]

theorem length_mappedStart : mappedStart.length = 12 := rfl

/-- Whatever follows the start of a mapped host, the host is mapped. -/
theorem isMapped_append (host : Bytes) : isMapped (mappedStart ++ host) = true := by
  rw [isMapped, ← length_mappedStart, List.take_left, beq_self_eq_true]

/-- An address of four bytes is not mapped. -/
theorem not_mapped_ofHost4 (port : Nat) (host : Bytes) : ¬ (ofHost4 port host).Mapped := fun h =>
  absurd ((rawFamily_raw4 port host).symm.trans h.1) (by decide)

/-- One of sixteen is only as far as its host is. -/
theorem not_mapped_ofHost6 {host : Bytes} (hlength : host.length = 16) (h : isMapped host = false)
    (port scope : Nat) : ¬ (ofHost6 port host scope).Mapped := fun hmapped => by
  have hhost : rawHost6 (ofHost6 port host scope).bytes = host :=
    (rawHost6_raw6 port host scope).trans (Bytes.fit_eq_self hlength)
  rw [Mapped, hhost, h] at hmapped
  exact Bool.false_ne_true hmapped.2

/-! ## Reading -/

/-- What the system reports under an IPv6 address that stands for an IPv4 host is that host. -/
theorem ofNative_of_mapped {memory : Bytes} (hlength : memory.length ≤ capacity)
    (hfamily : rawFamily memory = Family.ipv6) (hmapped : isMapped (rawHost6 memory) = true) :
    ofNative memory memory.length =
      .ok (ofHost4 (rawPort memory) ((rawHost6 memory).drop 12)) := by
  simp [ofNative, List.take_of_length_le hlength, hfamily, hmapped]

/-- Anything else is taken as it is. -/
theorem ofNative_of_not_mapped {memory : Bytes} (hlength : memory.length ≤ capacity)
    (hnonempty : memory ≠ []) (h : ¬ (rawFamily memory = Family.ipv6 ∧
      isMapped (rawHost6 memory) = true)) :
    ofNative memory memory.length = .ok ⟨memory, hlength⟩ := by
  have hother : (rawFamily memory = Family.ipv6 && isMapped (rawHost6 memory)) = false := by
    simpa using h
  simp [ofNative, List.take_of_length_le hlength, hother, ofRaw, hlength, hnonempty,
    Bytes.fit_eq_self]

/-- **Nothing that was read stands for an IPv4 host.** -/
theorem not_mapped_of_ofNative {memory : Bytes} {address : Address}
    (h : ofNative memory memory.length = .ok address) : ¬ address.Mapped := by
  unfold ofNative at h
  dsimp only at h
  split at h
  · cases h
    exact not_mapped_ofHost4 _ _
  · rename_i hother
    unfold ofRaw at h
    split at h
    · rename_i hlength
      split at h
      · cases h
      · cases h
        rw [List.take_of_length_le hlength] at hother
        simpa [Mapped, family, Bytes.fit_eq_self, List.take_of_length_le hlength] using hother
    · cases h

/-! ## Out and back -/

/-- A socket takes addresses of its own family, and one of IPv6 takes those of IPv4 as well. -/
theorem toNative_ok_iff {address : Address} {socketFamily : Nat} {raw : Bytes} :
    address.toNative socketFamily = .ok raw ↔
      (address.family = socketFamily ∧ raw = address.bytes) ∨
        (socketFamily = Family.ipv6 ∧ address.family = Family.ipv4 ∧
          raw = raw6 (rawPort address.bytes) (mappedStart ++ rawHost4 address.bytes) 0) := by
  unfold toNative
  -- The families agree, or the address is mapped into the other family, or there is no translation.
  split
  · rename_i hown
    constructor
    · intro h
      cases h
      exact .inl ⟨hown, rfl⟩
    · rintro (⟨-, rfl⟩ | ⟨hsix, hfour, -⟩)
      · rfl
      · exact absurd (hfour.symm.trans (hown.trans hsix)) (by decide)
  · rename_i hforeign
    split
    · rename_i hfamilies
      constructor
      · intro h
        cases h
        exact .inr ⟨hfamilies.1, hfamilies.2, rfl⟩
      · rintro (⟨hown, -⟩ | ⟨-, -, rfl⟩)
        · exact absurd hown hforeign
        · rfl
    · rename_i hfamilies
      constructor
      · intro h
        cases h
      · rintro (⟨hown, -⟩ | ⟨hsix, hfour, -⟩)
        · exact absurd hown hforeign
        · exact absurd ⟨hsix, hfour⟩ hfamilies

/-- What is read back of an address: it is written in the same way, and it is the same endpoint
unless the address stood for another one. -/
structure Recalled (address read : Address) : Prop where
  text : read.toText = address.toText
  port : read.port = address.port
  same : same read address = true ↔ ¬ address.Mapped

/-- Host and port make up the text of an address. -/
theorem toText_congr {a b : Address} {host : String} (ha : a.hostText = .ok host)
    (hb : b.hostText = .ok host) (hport : a.port = b.port) : a.toText = b.toText := by
  simp only [toText, ha, hb, hport]

/-- The port of an internet address stands in its bytes. -/
theorem port_of_internet {address : Address} (h : address.isInternet = true) :
    address.port = rawPort address.bytes := if_pos h

section Text

variable {address : Address}

/-- Four bytes are written with dots. -/
theorem hostText_of_ipv4 (h : address.family = Family.ipv4) :
    address.hostText = .ok (String.ofList (dotted (rawHost4 address.bytes))) := by
  have hraw : rawFamily address.bytes = Family.ipv4 := h
  simp [hostText, isInternet, h, rawHostText, hraw]

/-- A mapped host is written as the four bytes that it stands for. -/
theorem hostText_of_mapped (h : address.Mapped) :
    address.hostText = .ok (String.ofList (dotted ((rawHost6 address.bytes).drop 12))) := by
  have hraw : rawFamily address.bytes = Family.ipv6 := h.1
  have hother : Family.ipv6 ≠ Family.ipv4 := by decide
  simp [hostText, isInternet, h.1, rawHostText, hraw, h.2, hother]

/-- Other hosts are written in groups. -/
theorem hostText_of_ipv6 (hfamily : address.family = Family.ipv6) (hmapped : ¬ address.Mapped) :
    address.hostText = .ok (String.ofList (host6Text (rawHost6 address.bytes))) := by
  have hraw : rawFamily address.bytes = Family.ipv6 := hfamily
  have hother : Family.ipv6 ≠ Family.ipv4 := by decide
  have hplain : isMapped (rawHost6 address.bytes) = false := by
    simpa [Mapped, hfamily] using hmapped
  simp [hostText, isInternet, hfamily, rawHostText, hraw, hplain, hother]

end Text

/-- An address that is made has the port it was made with. -/
theorem port_ofHost6 {port : Nat} (h : port < Bytes.span 2) (host : Bytes) (scope : Nat) :
    (ofHost6 port host scope).port = port := by
  have hbytes : (ofHost6 port host scope).bytes = raw6 port host scope := rfl
  simp [Address.port, isInternet, family, hbytes, Nat.mod_eq_of_lt h]

/-- In both families. -/
theorem port_ofHost4 {port : Nat} (h : port < Bytes.span 2) (host : Bytes) :
    (ofHost4 port host).port = port := by
  have hbytes : (ofHost4 port host).bytes = raw4 port host := rfl
  simp [Address.port, isInternet, family, hbytes, Nat.mod_eq_of_lt h]

/-- And the text of its host. -/
theorem hostText_ofHost4 (port : Nat) {host : Bytes} (h : host.length = 4) :
    (ofHost4 port host).hostText = .ok (String.ofList (dotted host)) := by
  have hbytes : (ofHost4 port host).bytes = raw4 port host := rfl
  simp [hostText, isInternet, family, rawHostText, hbytes, Bytes.fit_eq_self h]

/-- An address that is not mapped is recalled as itself. -/
theorem recalled_self {address : Address} (h : ¬ address.Mapped) : Recalled address address :=
  ⟨rfl, rfl, iff_of_true (same_refl address) h⟩

/-- An IPv4 address is recalled by its port and host. -/
theorem recalled_of_ipv4 {address : Address} (h : address.family = Family.ipv4) :
    Recalled address (ofHost4 (rawPort address.bytes) (rawHost4 address.bytes)) := by
  have hlength : (rawHost4 address.bytes).length = 4 := Bytes.length_window ..
  have hport : address.port = rawPort address.bytes := port_of_internet (by simp [isInternet, h])
  have hread := port_ofHost4 (rawPort_lt address.bytes) (rawHost4 address.bytes)
  constructor
  case text =>
    exact toText_congr (hostText_ofHost4 _ hlength) (hostText_of_ipv4 h) (hread.trans hport.symm)
  case port => exact hread.trans hport.symm
  case same =>
    refine iff_of_true ?_ fun hmapped => absurd (h.symm.trans hmapped.1) (by decide)
    have hbytes : (ofHost4 (rawPort address.bytes) (rawHost4 address.bytes)).bytes =
      raw4 (rawPort address.bytes) (rawHost4 address.bytes) := rfl
    have hfamily : (ofHost4 (rawPort address.bytes) (rawHost4 address.bytes)).family =
      Family.ipv4 := rawFamily_raw4 _ _
    simp [Address.same, hfamily, h, hbytes, Nat.mod_eq_of_lt (rawPort_lt _),
      Bytes.fit_eq_self hlength]

/-- An address that stands for an IPv4 host is recalled as that host. -/
theorem recalled_of_mapped {address : Address} (h : address.Mapped) :
    Recalled address (ofHost4 (rawPort address.bytes) ((rawHost6 address.bytes).drop 12)) := by
  have hlength : ((rawHost6 address.bytes).drop 12).length = 4 := by
    rw [List.length_drop, rawHost6, Bytes.length_window]
  have hport : address.port = rawPort address.bytes := port_of_internet (by simp [isInternet, h.1])
  have hread := port_ofHost4 (rawPort_lt address.bytes) ((rawHost6 address.bytes).drop 12)
  constructor
  case text =>
    exact toText_congr (hostText_ofHost4 _ hlength) (hostText_of_mapped h) (hread.trans hport.symm)
  case port => exact hread.trans hport.symm
  case same =>
    refine iff_of_false (fun hsame => ?_) (not_not.mpr h)
    have hfour : (ofHost4 (rawPort address.bytes) ((rawHost6 address.bytes).drop 12)).family =
      Family.ipv4 := rawFamily_raw4 _ _
    simp only [Address.same, hfour, h.1, Bool.and_eq_true, decide_eq_true_eq] at hsame
    exact absurd hsame.1 (by decide)

/-- **Out and back.** What goes out comes back, as far as it can. -/
theorem recalled_of_toNative {address : Address} {socketFamily : Nat} {raw : Bytes}
    (hinternet : socketFamily = Family.ipv4 ∨ socketFamily = Family.ipv6)
    (h : address.toNative socketFamily = .ok raw) :
    ∃ read, ofNative raw raw.length = .ok read ∧ Recalled address read := by
  rcases toNative_ok_iff.mp h with ⟨hown, rfl⟩ | ⟨rfl, hfour, rfl⟩
  · by_cases hmapped : address.Mapped
    · exact ⟨_, ofNative_of_mapped address.length_le hmapped.1 hmapped.2,
        recalled_of_mapped hmapped⟩
    · have hnonempty : address.bytes ≠ [] := by
        intro hempty
        rw [family, hempty] at hown
        rcases hinternet with rfl | rfl <;> exact absurd hown (by decide)
      exact ⟨address, ofNative_of_not_mapped address.length_le hnonempty hmapped,
        recalled_self hmapped⟩
  · -- An IPv4 address has gone out as the IPv6 address that stands for it.
    have hlength : (mappedStart ++ rawHost4 address.bytes).length = 16 := by
      rw [List.length_append, length_mappedStart, rawHost4, Bytes.length_window]
    have hhost := rawHost6_raw6 (rawPort address.bytes) (mappedStart ++ rawHost4 address.bytes) 0
    rw [Bytes.fit_eq_self hlength] at hhost
    refine ⟨_, ofNative_of_mapped ?_ (rawFamily_raw6 ..) (by rw [hhost, isMapped_append]), ?_⟩
    · rw [length_raw6]
      decide
    · rw [hhost, ← length_mappedStart, List.drop_left, rawPort_raw6,
        Nat.mod_eq_of_lt (rawPort_lt address.bytes)]
      exact recalled_of_ipv4 hfour

/-! ## In and out -/

/-- An address as a socket of some family has it from the system. One that stands for an IPv4 host
has the length of its layout, and neither flow label nor scope. -/
structure IsNative (socketFamily : Nat) (raw : Bytes) : Prop where
  family : rawFamily raw = socketFamily
  length_le : raw.length ≤ capacity
  mapped : socketFamily = Family.ipv6 → isMapped (rawHost6 raw) = true →
    raw.length = ipv6Length ∧ window raw 4 4 = Bytes.zeros 4 ∧ rawScope raw = 0

/-- The layout of IPv6, field by field. -/
theorem eq_raw6 {raw : Bytes} (hlength : raw.length = ipv6Length)
    (hfamily : rawFamily raw = Family.ipv6) (hflow : window raw 4 4 = Bytes.zeros 4) :
    raw = raw6 (rawPort raw) (rawHost6 raw) (rawScope raw) := by
  have hspelt : Bytes.encodeLittle 2 Family.ipv6 = window raw 0 2 := by
    have h := Bytes.encodeLittle_littleEndian (window raw 0 2)
    rwa [Bytes.length_window, show Bytes.littleEndian (window raw 0 2) = Family.ipv6 from hfamily]
      at h
  have hscope : Bytes.encodeLittle 4 (rawScope raw) = window raw 24 4 := by
    have h := Bytes.encodeLittle_littleEndian (window raw 24 4)
    rwa [Bytes.length_window] at h
  have hhost : Bytes.fit 16 (rawHost6 raw) = window raw 8 16 :=
    Bytes.fit_eq_self (Bytes.length_window ..)
  calc raw
    _ = window raw 0 28 := (Bytes.fit_eq_self hlength).symm
    _ = window raw 0 2 ++ window raw 2 26 := Bytes.window_add raw 0 2 26
    _ = window raw 0 2 ++ (window raw 2 2 ++ window raw 4 24) :=
        congrArg _ (Bytes.window_add raw 2 2 24)
    _ = window raw 0 2 ++ (window raw 2 2 ++ (window raw 4 4 ++
          (window raw 8 16 ++ window raw 24 4))) :=
        congrArg (fun rest => _ ++ (_ ++ rest)) ((Bytes.window_add raw 4 4 20).trans
          (congrArg _ (Bytes.window_add raw 8 16 4)))
    _ = raw6 (rawPort raw) (rawHost6 raw) (rawScope raw) := by
        simp only [raw6, encodeBig_rawPort, hspelt, hscope, hhost, hflow, List.append_assoc]

/-- **In and out.** What came from the system goes back to it byte by byte. -/
theorem toNative_of_ofNative {socketFamily : Nat} {raw : Bytes} (h : IsNative socketFamily raw)
    (hinternet : socketFamily = Family.ipv4 ∨ socketFamily = Family.ipv6) :
    ∃ read, ofNative raw raw.length = .ok read ∧ read.toNative socketFamily = .ok raw := by
  by_cases hmapped : rawFamily raw = Family.ipv6 ∧ isMapped (rawHost6 raw) = true
  · obtain ⟨hsix, hstart⟩ := hmapped
    have hsocket : socketFamily = Family.ipv6 := h.family.symm.trans hsix
    obtain ⟨hlength, hflow, hscope⟩ := h.mapped hsocket hstart
    refine ⟨_, ofNative_of_mapped h.length_le hsix hstart, ?_⟩
    refine toNative_ok_iff.mpr (.inr ⟨hsocket, rawFamily_raw4 _ _, ?_⟩)
    have hbytes : (ofHost4 (rawPort raw) ((rawHost6 raw).drop 12)).bytes =
      raw4 (rawPort raw) ((rawHost6 raw).drop 12) := rfl
    have hfour : ((rawHost6 raw).drop 12).length = 4 := by
      rw [List.length_drop, rawHost6, Bytes.length_window]
    rw [hbytes, rawPort_raw4, rawHost4_raw4, Nat.mod_eq_of_lt (rawPort_lt raw),
      Bytes.fit_eq_self hfour, mappedStart_append_drop hstart, ← hscope]
    exact eq_raw6 hlength hsix hflow
  · have hnonempty : raw ≠ [] := by
      rintro rfl
      rcases hinternet with rfl | rfl <;> exact absurd h.family (by decide)
    exact ⟨_, ofNative_of_not_mapped h.length_le hnonempty hmapped,
      toNative_ok_iff.mpr (.inl ⟨h.family, rfl⟩)⟩

/-- Addresses that go to the system and come back, for sockets of one family. -/
structure Translates (socketFamily : Nat) : Prop where
  /-- Which addresses a socket of the family takes. -/
  accepts : ∀ address : Address, (∃ raw, address.toNative socketFamily = .ok raw) ↔
    address.family = socketFamily ∨
      (socketFamily = Family.ipv6 ∧ address.family = Family.ipv4)
  back : ∀ (address : Address) (raw : Bytes), address.toNative socketFamily = .ok raw →
    ∃ read, ofNative raw raw.length = .ok read ∧ Recalled address read
  forth : ∀ raw, IsNative socketFamily raw →
    ∃ read, ofNative raw raw.length = .ok read ∧ read.toNative socketFamily = .ok raw

/-- **Addresses go out to a socket of either family and come back from it.** -/
theorem translates {socketFamily : Nat}
    (hinternet : socketFamily = Family.ipv4 ∨ socketFamily = Family.ipv6) :
    Translates socketFamily where
  accepts address := by
    constructor
    · rintro ⟨raw, h⟩
      exact (toNative_ok_iff.mp h).imp And.left fun hother => ⟨hother.1, hother.2.1⟩
    · rintro (hown | ⟨hsix, hfour⟩)
      · exact ⟨_, toNative_ok_iff.mpr (.inl ⟨hown, rfl⟩)⟩
      · exact ⟨_, toNative_ok_iff.mpr (.inr ⟨hsix, hfour, rfl⟩)⟩
  back _ _ h := recalled_of_toNative hinternet h
  forth _ h := toNative_of_ofNative h hinternet

end Address

end UdpTransport
