import Mathlib.Data.List.TakeWhile
import UdpTransport.Proofs.Addresses.Groups

/-!
# Addresses through their text

The host of an address is written as text, and a text is resolved to an address. **The main result
is `resolve_hostText`**: the text of every internet address resolves, with its port, to an address
that is written in the same way. It is the same endpoint if nothing was lost, that is, if the
address had no scope and did not stand for an IPv4 host (`Reread`).

On the way in, a host is first tried as one of IPv4. The liberal notation takes no colons, and the
text of an IPv6 host always has one, so neither kind of host is ever taken for the other.
-/

namespace UdpTransport.Address

/-! ## The characters of a host -/

/-- A character that the text of a host may contain. -/
def IsHostChar (c : Char) : Prop := c = ':' ∨ c = '.' ∨ ∃ digit < 16, c = digit.digitChar

theorem IsHostChar.ne {c mark : Char} (h : IsHostChar c) (hcolon : mark ≠ ':') (hdot : mark ≠ '.')
    (hdigit : digitValue? mark = none) : c ≠ mark := by
  rintro rfl
  rcases h with rfl | rfl | ⟨digit, hlt, rfl⟩
  · exact hcolon rfl
  · exact hdot rfl
  · rw [digitValue?_digitChar hlt] at hdigit
    cases hdigit

theorem isHostChar_of_mem_dotted {host : Bytes} {c : Char} (h : c ∈ dotted host) : IsHostChar c :=
  .inr (mem_dotted h)

theorem isHostChar_of_mem_colonSeparated {groups : List Nat} {c : Char}
    (h : c ∈ colonSeparated groups) : IsHostChar c := by
  rcases mem_intercalate h with hcolon | ⟨part, hpart, hc⟩
  · exact .inl hcolon
  · obtain ⟨group, -, rfl⟩ := List.mem_map.mp hpart
    exact .inr (.inr (mem_toDigits (by decide) (by decide) hc))

theorem isHostChar_of_mem_host6Text {host : Bytes} {c : Char} (h : c ∈ host6Text host) :
    IsHostChar c := by
  have hdouble : ∀ c ∈ "::".toList, IsHostChar c := by
    simp [IsHostChar]
  have hmapped : ∀ c ∈ "::ffff:".toList, IsHostChar c := by
    simp [IsHostChar]
  simp only [host6Text] at h
  split at h
  · exact isHostChar_of_mem_colonSeparated h
  split at h
  · exact (List.mem_append.mp h).elim (hdouble c) isHostChar_of_mem_dotted
  split at h
  · exact (List.mem_append.mp h).elim (hmapped c) isHostChar_of_mem_dotted
  · rcases List.mem_append.mp h with hfront | hback
    · exact (List.mem_append.mp hfront).elim isHostChar_of_mem_colonSeparated (hdouble c)
    · exact isHostChar_of_mem_colonSeparated hback

/-- There is a colon in the text of every IPv6 host. -/
theorem colon_mem_host6Text {host : Bytes} (hlength : host.length = 16) :
    ':' ∈ host6Text host := by
  simp only [host6Text, Bytes.fit_eq_self hlength]
  split
  · -- eight groups have colons between them
    have hcount := length_hostGroups hlength
    generalize hostGroups host = groups at hcount
    rcases groups with _ | ⟨group, _ | ⟨next, rest⟩⟩
    · cases hcount
    · cases hcount
    · rw [colonSeparated_cons_cons]
      exact List.mem_append_right _ List.mem_cons_self
  split
  · exact List.mem_append_left _ (by decide)
  split
  · exact List.mem_append_left _ (by decide)
  · exact List.mem_append_left _ (List.mem_append_right _ (by decide))

/-! ## Colons and the liberal notation -/

theorem numberFrom_eq_none {base : Nat} {mark : Char} (hmark : digitValue? mark = none)
    {text : List Char} (hmem : mark ∈ text) (value : Nat) : numberFrom base value text = none := by
  induction text generalizing value with
  | nil => cases hmem
  | cons c rest ih =>
    rw [numberFrom]
    rcases List.mem_cons.mp hmem with rfl | hrest
    · rw [hmark]
    · cases digitValue? c with
      | none => rfl
      | some digit =>
        dsimp only
        split
        · exact ih hrest _
        · rfl

theorem number?_eq_none {base : Nat} {mark : Char} (hmark : digitValue? mark = none)
    {text : List Char} (hmem : mark ∈ text) : number? base text = none := by
  rw [number?]
  split
  · rfl
  · exact numberFrom_eq_none hmark hmem 0

theorem loosePart?_eq_none {text : List Char} (hmem : ':' ∈ text) : loosePart? text = none := by
  have hmark : digitValue? ':' = none := by decide
  unfold loosePart?
  -- After a zero the number may be octal or hexadecimal; a colon is no digit in any base.
  split
  · rename_i c rest
    have hlater : ':' ∈ c :: rest := (List.mem_cons.mp hmem).resolve_left (by decide)
    split
    · rename_i hx
      refine number?_eq_none hmark ((List.mem_cons.mp hlater).resolve_left ?_)
      rintro rfl
      exact absurd hx (by decide)
    · exact number?_eq_none hmark hlater
  · exact number?_eq_none hmark hmem

theorem mapM_eq_none {α β : Type} {f : α → Option β} {items : List α} {item : α}
    (hmem : item ∈ items) (h : f item = none) : items.mapM f = none := by
  induction items with
  | nil => cases hmem
  | cons first rest ih =>
    rw [List.mapM_cons]
    rcases List.mem_cons.mp hmem with rfl | hrest
    · rw [h]
      rfl
    · rw [ih hrest]
      cases f first <;> rfl

/-- A text with a colon is no IPv4 host. -/
theorem looseHost4_eq_none {text : List Char} (hmem : ':' ∈ text) : looseHost4 text = none := by
  have hpieces : ['.'].intercalate (pieces '.' text) = text := by
    rw [pieces_eq_splitOn, List.intercalate_splitOn]
  have hpiece : ∃ piece ∈ pieces '.' text, ':' ∈ piece := by
    rw [← hpieces] at hmem
    exact (mem_intercalate hmem).resolve_left (by decide)
  obtain ⟨piece, hpiece, hcolon⟩ := hpiece
  rw [looseHost4, mapM_eq_none hpiece (loosePart?_eq_none hcolon)]
  rfl

/-! ## Resolution -/

section Resolution

variable {text : List Char} (hchars : ∀ c ∈ text, IsHostChar c)

include hchars

theorem ne_of_isHostChar {mark : Char} (hcolon : mark ≠ ':') (hdot : mark ≠ '.')
    (hdigit : digitValue? mark = none) : ∀ c ∈ text, (c != mark) = true :=
  fun c hc => bne_iff_ne.mpr ((hchars c hc).ne hcolon hdot hdigit)

/-- Nothing in the text of a host is cut off or stands for anything else. -/
theorem resolve_of_isHostChar (hnonempty : text ≠ []) (port : Nat) :
    resolve (String.ofList text) port 0 =
      match looseHost4 text with
      | some host => .ok (ofHost4 port host)
      | none =>
        match host6 text with
        | some host => .ok (ofHost6 port host 0)
        | none => .error (.resolution ErrorCode.unknownHost) := by
  have hwhole : text.takeWhile (· != '\x00') = text := List.takeWhile_eq_self_iff.mpr
    (ne_of_isHostChar hchars (by decide) (by decide) (by decide))
  have hpercent : ∀ c ∈ text, (c != '%') = true :=
    ne_of_isHostChar hchars (by decide) (by decide) (by decide)
  have hscope : atMark '%' text = (text, none) := by
    rw [atMark, List.takeWhile_eq_self_iff.mpr hpercent, List.dropWhile_eq_nil_iff.mpr hpercent]
  have hother : text ≠ ownHost := by
    rintro rfl
    exact (hchars '*' List.mem_cons_self).ne (by decide) (by decide) (by decide) rfl
  have hstring : (String.ofList text).isEmpty = false := by
    rw [← Bool.not_eq_true, String.isEmpty_iff]
    intro hempty
    exact hnonempty (by simpa using congrArg String.toList hempty)
  -- There is no end of text, no scope and no name in it, so only the two notations are left.
  unfold resolve
  simp only [hstring, String.toList_ofList, hwhole, hother, hscope]
  cases looseHost4 text with
  | some host => rfl
  | none => cases host6 text <;> rfl

end Resolution

/-- The text of an IPv4 host resolves to an address of that host. -/
theorem resolve_dotted {host : Bytes} (hlength : host.length = 4) (port : Nat) :
    resolve (String.ofList (dotted host)) port 0 = .ok (ofHost4 port host) := by
  have hnonempty : dotted host ≠ [] := List.ne_nil_of_mem (dot_mem_dotted hlength)
  rw [resolve_of_isHostChar (fun c => isHostChar_of_mem_dotted) hnonempty,
    looseHost4_dotted hlength]

/-- The text of an IPv6 host resolves to an address of that host, without a scope. -/
theorem resolve_host6Text {host : Bytes} (hlength : host.length = 16) (port : Nat) :
    resolve (String.ofList (host6Text host)) port 0 = .ok (ofHost6 port host 0) := by
  have hcolon := colon_mem_host6Text hlength
  rw [resolve_of_isHostChar (fun c => isHostChar_of_mem_host6Text) (List.ne_nil_of_mem hcolon),
    looseHost4_eq_none hcolon, host6_host6Text hlength]

/-! ## Out as text and back -/

theorem rawScope_raw6 (port : Nat) (host : Bytes) (scope : Nat) :
    rawScope (raw6 port host scope) = scope % Bytes.span 4 := by
  have hbefore : (Bytes.encodeLittle 2 Family.ipv6 ++ Bytes.encodeBig 2 port ++ Bytes.zeros 4 ++
      Bytes.fit 16 host).length = 24 := by simp
  have hwindow := Bytes.window_append hbefore (Bytes.length_encodeLittle 4 scope) []
  rw [List.append_nil] at hwindow
  rw [rawScope, raw6, hwindow, Bytes.littleEndian_encodeLittle]

theorem hostText_ofHost6 (port : Nat) {host : Bytes} (h : host.length = 16)
    (hmapped : isMapped host = false) (scope : Nat) :
    (ofHost6 port host scope).hostText = .ok (String.ofList (host6Text host)) := by
  have hbytes : (ofHost6 port host scope).bytes = raw6 port host scope := rfl
  have hother : Family.ipv6 ≠ Family.ipv4 := by decide
  simp [hostText, isInternet, family, rawHostText, hbytes, Bytes.fit_eq_self h, hmapped, hother]

/-- What is read back of an address from its text: it is written in the same way, one that stood for
an IPv4 host is that host, and any other is the same endpoint unless it had a scope. -/
structure Reread (address read : Address) : Prop where
  text : read.toText = address.toText
  port : read.port = address.port
  mapped : address.Mapped → read = ofHost4 address.port ((rawHost6 address.bytes).drop 12)
  same : same read address = true ↔
    ¬ address.Mapped ∧ (address.family = Family.ipv6 → address.scope = 0)

section Reading

variable {address : Address}

theorem reread_of_ipv4 (h : address.family = Family.ipv4) :
    ∃ host read, address.hostText = .ok host ∧ resolve host address.port 0 = .ok read ∧
      Reread address read := by
  have hlength : (rawHost4 address.bytes).length = 4 := Bytes.length_window ..
  have hport : address.port = rawPort address.bytes := port_of_internet (by simp [isInternet, h])
  have hrecalled := recalled_of_ipv4 h
  have hmapped : ¬ address.Mapped := fun hmapped => absurd (h.symm.trans hmapped.1) (by decide)
  refine ⟨_, _, hostText_of_ipv4 h, resolve_dotted hlength address.port, ?_⟩
  rw [hport]
  exact
    { text := hrecalled.text
      port := hrecalled.port
      mapped := fun h => absurd h hmapped
      same := hrecalled.same.trans ⟨fun h' => ⟨h', fun hsix => absurd (h.symm.trans hsix)
        (by decide)⟩, And.left⟩ }

theorem reread_of_mapped (h : address.Mapped) :
    ∃ host read, address.hostText = .ok host ∧ resolve host address.port 0 = .ok read ∧
      Reread address read := by
  have hrecalled := recalled_of_mapped h
  have hlength : ((rawHost6 address.bytes).drop 12).length = 4 := by
    rw [List.length_drop, rawHost6, Bytes.length_window]
  have hport : address.port = rawPort address.bytes := port_of_internet (by simp [isInternet, h.1])
  refine ⟨_, _, hostText_of_mapped h, resolve_dotted hlength address.port, ?_⟩
  rw [hport]
  exact
    { text := hrecalled.text
      port := hrecalled.port
      mapped := fun _ => by rw [hport]
      same := hrecalled.same.trans ⟨fun hplain => absurd h hplain, And.left⟩ }

theorem reread_of_ipv6 (hfamily : address.family = Family.ipv6) (hmapped : ¬ address.Mapped) :
    ∃ host read, address.hostText = .ok host ∧ resolve host address.port 0 = .ok read ∧
      Reread address read := by
  have hlength : (rawHost6 address.bytes).length = 16 := Bytes.length_window ..
  have hport : address.port = rawPort address.bytes :=
    port_of_internet (by simp [isInternet, hfamily])
  have hplain : isMapped (rawHost6 address.bytes) = false := by
    simpa [Mapped, hfamily] using hmapped
  have htext := hostText_of_ipv6 hfamily hmapped
  refine ⟨_, _, htext, resolve_host6Text hlength address.port, ?_⟩
  rw [hport]
  have hread := port_ofHost6 (rawPort_lt address.bytes) (rawHost6 address.bytes) 0
  -- The scope is not part of the text, so an address is its own reading only without one.
  constructor
  case text =>
    exact toText_congr (hostText_ofHost6 _ hlength hplain 0) htext (hread.trans hport.symm)
  case port => exact hread.trans hport.symm
  case mapped => exact fun h => absurd h hmapped
  case same =>
    have hbytes : (ofHost6 (rawPort address.bytes) (rawHost6 address.bytes) 0).bytes =
      raw6 (rawPort address.bytes) (rawHost6 address.bytes) 0 := rfl
    have hsix : (ofHost6 (rawPort address.bytes) (rawHost6 address.bytes) 0).family =
      Family.ipv6 := rawFamily_raw6 _ _ _
    have hscope : (ofHost6 (rawPort address.bytes) (rawHost6 address.bytes) 0).scope = 0 :=
      rawScope_raw6 _ _ 0
    have hother : Family.ipv6 ≠ Family.ipv4 := by decide
    have hboth : (0 : Nat) = address.scope ↔ address.scope = 0 := eq_comm
    simpa [Address.same, hsix, hfamily, hscope, hbytes, hother, Nat.mod_eq_of_lt (rawPort_lt _),
      Bytes.fit_eq_self hlength, hmapped] using hboth

end Reading

/-- **Out as text and back.** -/
theorem resolve_hostText (address : Address) (hinternet : address.isInternet = true) :
    ∃ host read, address.hostText = .ok host ∧ resolve host address.port 0 = .ok read ∧
      Reread address read := by
  simp only [isInternet, Bool.or_eq_true, decide_eq_true_eq] at hinternet
  rcases hinternet with hfour | hsix
  · exact reread_of_ipv4 hfour
  · by_cases hmapped : address.Mapped
    · exact reread_of_mapped hmapped
    · exact reread_of_ipv6 hsix hmapped

/-- An IPv6 address whose host embeds an IPv4 host, and which has a scope: its text is read back,
but the scope is lost. -/
theorem resolve_hostText_embedding :
    let address := ofHost6 9000 (Bytes.zeros 12 ++ [10, 0, 0, 1]) 3
    address.isInternet = true ∧ address.hostText = .ok "::10.0.0.1" ∧
      ∃ read, resolve "::10.0.0.1" 9000 0 = .ok read ∧ Reread address read ∧
        same read address = false := by
  intro address
  have hinternet : address.isInternet = true := by decide
  have htext : address.hostText = .ok "::10.0.0.1" := by decide
  obtain ⟨host, read, hhost, hread, hreread⟩ := resolve_hostText address hinternet
  cases hhost.symm.trans htext
  refine ⟨hinternet, htext, read, hread, hreread, ?_⟩
  rw [← Bool.not_eq_true, hreread.same]
  decide

end UdpTransport.Address
