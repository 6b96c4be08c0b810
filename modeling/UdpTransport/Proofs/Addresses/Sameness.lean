import Mathlib.Data.List.Basic
import UdpTransport.Proofs.Addresses.RoundTrip

/-!
# Addresses of the same endpoint

Two addresses name the same endpoint if the fields agree that route a datagram (`Address.same`),
which are others for each family. These fields together are the `Route` of an address, so that to
name the same endpoint is to have the same route (`same_iff_route`), and whatever is said of the
route is said of all addresses of the endpoint.

**The main result is `same_equivalence`**: this is an equivalence, what is asked of an address is
the same for all addresses of an endpoint, and an internet address of a known family and scope is
told from any other endpoint by its text. For the latter the text is taken apart again: a host with
colons stands in brackets, one without ends at the first colon (`textOf_inj`), and each notation can
be read back.
-/

namespace UdpTransport.Address

/-! ## Routes -/

/-- The characters of an IPv6 host, which may stand for an IPv4 host. -/
def hostChars6 (host : Bytes) : List Char :=
  if isMapped host then dotted (host.drop 12) else host6Text host

/-- What routes a datagram to an address. -/
inductive Route where
  | nowhere
  | ipv4 (port : Nat) (host : Bytes)
  | ipv6 (port : Nat) (host : Bytes) (scope : Nat)
  /-- Of another family nothing is known, so that every byte counts. -/
  | other (raw : Bytes)

/-- The fields of an address that route a datagram. -/
def route (address : Address) : Route :=
  if address.family = Family.unspecified then .nowhere
  else if address.family = Family.ipv4 then .ipv4 (rawPort address.bytes) (rawHost4 address.bytes)
  else if address.family = Family.ipv6 then
    .ipv6 (rawPort address.bytes) (rawHost6 address.bytes) address.scope
  else .other address.bytes

namespace Route

/-- The family that a route belongs to. -/
def family : Route → Nat
  | nowhere => Family.unspecified
  | ipv4 .. => Family.ipv4
  | ipv6 .. => Family.ipv6
  | other raw => rawFamily raw

/-- The port that a route leads to; zero if it has none. -/
def port : Route → Nat
  | ipv4 port _ | ipv6 port _ _ => port
  | nowhere | other _ => 0

/-- The text of the host that a route leads to. -/
def hostText : Route → Except Fault String
  | ipv4 _ host => .ok (String.ofList (dotted host))
  | ipv6 _ host _ => .ok (String.ofList (hostChars6 host))
  | nowhere | other _ => .error (.violation .notInternet)

end Route

section Route

variable {address a b : Address}

theorem route_of_ipv4 (h : address.family = Family.ipv4) :
    address.route = .ipv4 (rawPort address.bytes) (rawHost4 address.bytes) := by
  have hother : Family.ipv4 ≠ Family.unspecified := by decide
  rw [route, h, if_neg hother, if_pos rfl]

theorem route_of_ipv6 (h : address.family = Family.ipv6) :
    address.route = .ipv6 (rawPort address.bytes) (rawHost6 address.bytes) address.scope := by
  have hother : Family.ipv6 ≠ Family.unspecified := by decide
  have hfour : Family.ipv6 ≠ Family.ipv4 := by decide
  rw [route, h, if_neg hother, if_neg hfour, if_pos rfl]

/-- The route of an address that is no internet address. -/
theorem route_of_not_internet (h : address.isInternet = false) :
    address.route =
      if address.family = Family.unspecified then .nowhere else .other address.bytes := by
  simp only [isInternet, Bool.or_eq_false_iff, decide_eq_false_iff_not] at h
  rw [route, if_neg h.1, if_neg h.2]

theorem isInternet_iff : address.isInternet = true ↔
    address.family = Family.ipv4 ∨ address.family = Family.ipv6 := by
  simp [isInternet]

theorem family_route (address : Address) : address.route.family = address.family := by
  unfold route
  split
  · exact Eq.symm ‹_›
  split
  · exact Eq.symm ‹_›
  split
  · exact Eq.symm ‹_›
  · rfl

theorem port_route (address : Address) : address.route.port = address.port := by
  cases hinternet : address.isInternet with
  | true =>
    rw [port_of_internet hinternet]
    rcases isInternet_iff.mp hinternet with hfour | hsix
    · rw [route_of_ipv4 hfour]
      rfl
    · rw [route_of_ipv6 hsix]
      rfl
  | false =>
    rw [route_of_not_internet hinternet, Address.port, hinternet, if_neg Bool.false_ne_true]
    split <;> rfl

theorem hostText_route (address : Address) : address.route.hostText = address.hostText := by
  cases hinternet : address.isInternet with
  | true =>
    rcases isInternet_iff.mp hinternet with hfour | hsix
    · rw [route_of_ipv4 hfour, hostText_of_ipv4 hfour]
      rfl
    · rw [route_of_ipv6 hsix, Route.hostText, hostChars6]
      by_cases hmapped : isMapped (rawHost6 address.bytes) = true
      · rw [hostText_of_mapped ⟨hsix, hmapped⟩, if_pos hmapped]
      · rw [hostText_of_ipv6 hsix fun h => hmapped h.2, if_neg hmapped]
  | false =>
    rw [route_of_not_internet hinternet, Address.hostText, hinternet, if_neg Bool.false_ne_true]
    split <;> rfl

/-- **To name the same endpoint is to have the same route.** -/
theorem same_iff_route : same a b = true ↔ a.route = b.route := by
  by_cases hfamily : a.family = b.family
  case neg =>
    -- Routes of different families differ.
    refine iff_of_false (fun hsame => ?_) fun hroute => ?_
    · rw [same, Bool.and_eq_true, decide_eq_true_iff] at hsame
      exact hfamily hsame.1
    · rw [← family_route, ← family_route, hroute] at hfamily
      exact hfamily rfl
  case pos =>
    unfold same route
    rw [← hfamily]
    split
    · simp
    split
    · simp
    split
    · simp only [decide_true, Bool.true_and, Bool.and_eq_true, decide_eq_true_eq, beq_iff_eq,
        Route.ipv6.injEq]
      tauto
    · simp

end Route

/-! ## Texts taken apart -/

/-- The characters of a host and a port, with brackets around a host that contains colons. -/
def textOf (host : List Char) (port : Nat) : List Char :=
  if ':' ∈ host then '[' :: (host ++ ']' :: ':' :: Nat.toDigits 10 port)
  else host ++ ':' :: Nat.toDigits 10 port

theorem toList_toText {address : Address} {host : List Char}
    (h : address.hostText = .ok (String.ofList host)) :
    address.toText.toList = textOf host address.port := by
  rw [toText, h, textOf]
  by_cases hcolon : ':' ∈ host <;> simp [hcolon]

section Texts

variable {host other : List Char} {port port' : Nat}

theorem port_inj (h : Nat.toDigits 10 port = Nat.toDigits 10 port') : port = port' := by
  have hread := congrArg (number? 10) h
  rwa [number?_toDigits (by decide) (by decide), number?_toDigits (by decide) (by decide),
    Option.some.injEq] at hread

/-- No text in brackets is one without. -/
theorem bracket_ne (hchars : ∀ c ∈ host, IsHostChar c) (text digits : List Char) :
    '[' :: text ≠ host ++ ':' :: digits := by
  intro heq
  cases host with
  | nil => exact absurd (List.cons_eq_cons.mp heq).1 (by decide)
  | cons c rest =>
    exact (hchars c List.mem_cons_self).ne (by decide) (by decide) (by decide)
      (List.cons_eq_cons.mp heq).1.symm

/-- **Host and port can be told from the text.** What ends the host does not occur in it: the
bracket in no host, and the colon in none that goes without brackets. -/
theorem textOf_inj (hhost : ∀ c ∈ host, IsHostChar c) (hother : ∀ c ∈ other, IsHostChar c)
    (h : textOf host port = textOf other port') : host = other ∧ port = port' := by
  have hdigits : ∀ {mark : Char}, digitValue? mark = none → mark ∉ Nat.toDigits 10 port :=
    fun hmark => not_mem_toDigits (by decide) (by decide) hmark port
  have hbracket : ']' ∉ host := fun hmem =>
    (hhost ']' hmem).ne (by decide) (by decide) (by decide) rfl
  unfold textOf at h
  by_cases hcolon : ':' ∈ host <;> by_cases hcolon' : ':' ∈ other
  · rw [if_pos hcolon, if_pos hcolon', List.cons_inj_right] at h
    have hafter : ']' ∉ ':' :: Nat.toDigits 10 port :=
      List.not_mem_cons_of_ne_of_not_mem (by decide) (hdigits (by decide))
    obtain ⟨rfl, -, hport⟩ := (List.append_cons_inj_of_notMem hbracket hafter).mp h
    exact ⟨rfl, port_inj ((List.cons_inj_right _).mp hport)⟩
  · rw [if_pos hcolon, if_neg hcolon'] at h
    exact absurd h (bracket_ne hother _ _)
  · rw [if_neg hcolon, if_pos hcolon'] at h
    exact absurd h.symm (bracket_ne hhost _ _)
  · rw [if_neg hcolon, if_neg hcolon'] at h
    obtain ⟨rfl, -, hport⟩ := (List.append_cons_inj_of_notMem hcolon (hdigits (by decide))).mp h
    exact ⟨rfl, port_inj hport⟩

end Texts

/-! ## Hosts told from their texts -/

section Hosts

variable {host other : Bytes}

theorem dotted_inj (hhost : host.length = 4) (hother : other.length = 4)
    (h : dotted host = dotted other) : host = other := by
  have hread := congrArg strictHost4 h
  rwa [strictHost4_dotted hhost, strictHost4_dotted hother, Option.some.injEq] at hread

theorem host6Text_inj (hhost : host.length = 16) (hother : other.length = 16)
    (h : host6Text host = host6Text other) : host = other := by
  have hread := congrArg host6 h
  rwa [host6_host6Text hhost, host6_host6Text hother, Option.some.injEq] at hread

theorem isHostChar_of_mem_hostChars6 {c : Char} (h : c ∈ hostChars6 host) : IsHostChar c := by
  rw [hostChars6] at h
  split at h
  · exact isHostChar_of_mem_dotted h
  · exact isHostChar_of_mem_host6Text h

/-- A host that stands for an IPv4 host is the only one written without colons. -/
theorem colon_mem_hostChars6 (hhost : host.length = 16) :
    ':' ∈ hostChars6 host ↔ isMapped host = false := by
  cases hmapped : isMapped host with
  | true => simp [hostChars6, hmapped, colon_not_mem_dotted]
  | false => simp [hostChars6, hmapped, colon_mem_host6Text hhost]

theorem hostChars6_inj (hhost : host.length = 16) (hother : other.length = 16)
    (h : hostChars6 host = hostChars6 other) : host = other := by
  have hkind : isMapped host = false ↔ isMapped other = false := by
    rw [← colon_mem_hostChars6 hhost, ← colon_mem_hostChars6 hother, h]
  cases hmapped : isMapped host with
  | false =>
    rw [hostChars6, hmapped, hostChars6, hkind.mp hmapped] at h
    exact host6Text_inj hhost hother h
  | true =>
    have hmapped' : isMapped other = true := by
      cases hplain : isMapped other with
      | true => rfl
      | false => exact absurd (hmapped.symm.trans (hkind.mpr hplain)) (by decide)
    rw [hostChars6, hmapped, hostChars6, hmapped'] at h
    have hdrop := dotted_inj (by rw [List.length_drop, hhost]) (by rw [List.length_drop, hother]) h
    rw [← mappedStart_append_drop hmapped, ← mappedStart_append_drop hmapped', hdrop]

end Hosts

section Told

variable {a b : Address}

theorem exists_hostText (h : a.isInternet = true) :
    ∃ host, a.hostText = .ok (String.ofList host) ∧ ∀ c ∈ host, IsHostChar c := by
  rcases isInternet_iff.mp h with hfour | hsix
  · exact ⟨_, hostText_of_ipv4 hfour, fun _ => isHostChar_of_mem_dotted⟩
  · exact ⟨hostChars6 (rawHost6 a.bytes), by rw [← hostText_route, route_of_ipv6 hsix]; rfl,
      fun _ => isHostChar_of_mem_hostChars6⟩

/-- Within a family and a scope, the host's text and the port give the route. -/
theorem route_of_hostText (hinternet : a.isInternet = true) (hfamily : a.family = b.family)
    (hscope : a.family = Family.ipv6 → a.scope = b.scope) (hport : a.port = b.port)
    (hhost : a.hostText = b.hostText) : a.route = b.route := by
  have hinternet' : b.isInternet = true := by rwa [isInternet, hfamily] at hinternet
  rw [port_of_internet hinternet, port_of_internet hinternet'] at hport
  rcases isInternet_iff.mp hinternet with hfour | hsix
  · have hfour' := hfamily.symm.trans hfour
    rw [hostText_of_ipv4 hfour, hostText_of_ipv4 hfour', Except.ok.injEq,
      String.ofList_inj] at hhost
    have hsame : rawHost4 a.bytes = rawHost4 b.bytes :=
      dotted_inj (Bytes.length_window ..) (Bytes.length_window ..) hhost
    rw [route_of_ipv4 hfour, route_of_ipv4 hfour', hport, hsame]
  · have hsix' := hfamily.symm.trans hsix
    rw [← hostText_route, ← hostText_route, route_of_ipv6 hsix, route_of_ipv6 hsix', Route.hostText,
      Route.hostText, Except.ok.injEq, String.ofList_inj] at hhost
    have hsame : rawHost6 a.bytes = rawHost6 b.bytes :=
      hostChars6_inj (Bytes.length_window ..) (Bytes.length_window ..) hhost
    rw [route_of_ipv6 hsix, route_of_ipv6 hsix', hport, hscope hsix, hsame]

/-- **Within a family and a scope, the text of an address gives its route.** -/
theorem route_of_toText (hinternet : a.isInternet = true) (hfamily : a.family = b.family)
    (hscope : a.family = Family.ipv6 → a.scope = b.scope) (htext : a.toText = b.toText) :
    a.route = b.route := by
  have hinternet' : b.isInternet = true := by rwa [isInternet, hfamily] at hinternet
  obtain ⟨host, hhost, hchars⟩ := exists_hostText hinternet
  obtain ⟨host', hhost', hchars'⟩ := exists_hostText hinternet'
  have hlist := congrArg String.toList htext
  rw [toList_toText hhost, toList_toText hhost'] at hlist
  obtain ⟨rfl, hport⟩ := textOf_inj hchars hchars' hlist
  exact route_of_hostText hinternet hfamily hscope hport (hhost.trans hhost'.symm)

end Told

/-! ## The same endpoint -/

/-- What is asked of an address without regard to its family's layout. -/
structure Alike (a b : Address) : Prop where
  isInternet : a.isInternet = b.isInternet
  port : a.port = b.port
  text : a.toText = b.toText
  host : a.isInternet = true → ∃ host, a.hostText = .ok host ∧ b.hostText = .ok host

/-- Addresses with the same route are alike. -/
theorem alike_of_route {a b : Address} (h : a.route = b.route) : Alike a b := by
  have hfamily : a.family = b.family := by rw [← family_route, h, family_route]
  have hport : a.port = b.port := by rw [← port_route, h, port_route]
  have hhost : a.hostText = b.hostText := by rw [← hostText_route, h, hostText_route]
  constructor
  case isInternet => rw [isInternet, hfamily, isInternet]
  case port => exact hport
  case text => rw [toText, toText, hhost, hport, isUnspecified, isUnspecified, hfamily]
  case host =>
    intro hinternet
    obtain ⟨host, htext, -⟩ := exists_hostText hinternet
    exact ⟨_, htext, hhost ▸ htext⟩

/-- **To name the same endpoint is an equivalence.** Addresses of one endpoint are alike, and
internet addresses of one family and scope that have the same text are addresses of one endpoint. -/
theorem same_equivalence :
    Equivalence (fun a b => same a b = true) ∧ (∀ a b, same a b = true → Alike a b) ∧
      ∀ a b : Address, a.isInternet = true → a.family = b.family →
        (a.family = Family.ipv6 → a.scope = b.scope) → a.toText = b.toText → same a b = true := by
  refine ⟨⟨fun a => ?_, fun {a b} h => ?_, fun {a b c} h h' => ?_⟩, fun a b h => ?_,
    fun a b hinternet hfamily hscope htext => ?_⟩
  · exact same_iff_route.mpr rfl
  · exact same_iff_route.mpr (same_iff_route.mp h).symm
  · exact same_iff_route.mpr ((same_iff_route.mp h).trans (same_iff_route.mp h'))
  · exact alike_of_route (same_iff_route.mp h)
  · exact same_iff_route.mpr (route_of_toText hinternet hfamily hscope htext)

/-- An address with a flow label and bytes past the end of its layout: its text tells it from any
other endpoint, though not from the plain address of the same endpoint. -/
theorem same_equivalence_flow :
    let plain := ofHost6 9000 (Bytes.zeros 15 ++ [1]) 3
    let marked : Address :=
      ⟨[10, 0, 0x23, 0x28, 1, 2, 3, 4] ++ Bytes.zeros 15 ++ [1, 3, 0, 0, 0, 9, 9], by decide⟩
    plain ≠ marked ∧ plain.isInternet = true ∧ plain.family = marked.family ∧
      plain.scope = marked.scope ∧ plain.toText = marked.toText ∧ same plain marked = true ∧
      Alike plain marked := by
  intro plain marked
  have hinternet : plain.isInternet = true := by decide
  have hfamily : plain.family = marked.family := by decide
  have hscope : plain.scope = marked.scope := by decide
  have htext : plain.toText = marked.toText := by decide
  have hsame := same_equivalence.2.2 plain marked hinternet hfamily (fun _ => hscope) htext
  exact ⟨by decide, hinternet, hfamily, hscope, htext, hsame, same_equivalence.2.1 _ _ hsame⟩

end UdpTransport.Address
