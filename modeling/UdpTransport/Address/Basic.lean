import UdpTransport.Bytes
import UdpTransport.Fault

/-!
# Socket addresses

An address is kept in the form in which the system exchanges it: a byte string of at most
`Address.capacity` bytes that begins with the address family. Bytes past its end read as zero, so
a string shorter than its family's layout is still an address. The layouts:

- IPv4, 16 bytes: family, port (big endian), 4 host bytes, 8 zeros.
- IPv6, 28 bytes: family, port (big endian), flow label (4), 16 host bytes, scope (little endian).

Any other family can be stored too, but has neither a host nor a port. Two addresses are the same
endpoint (`Address.same`) if the fields that route a datagram agree: flow label, padding and
length do not count for the two internet families.
-/

namespace UdpTransport

namespace Family

/-- The number of the family that no address belongs to. -/
abbrev unspecified : Nat := 0

/-- The number of the IPv4 family. -/
abbrev ipv4 : Nat := 2

/-- The number of the IPv6 family. -/
abbrev ipv6 : Nat := 10

end Family

/-- A socket address as the system lays it out. -/
structure Address where
  /-- The bytes that count; memory after them reads as zero. -/
  bytes : Bytes
  length_le : bytes.length ≤ 128
  deriving DecidableEq, Repr

namespace Address

/-- The room that the system reserves for an address of any family. -/
abbrev capacity : Nat := 128

/-- Length of an IPv4 address. -/
abbrev ipv4Length : Nat := 16

/-- Length of an IPv6 address. -/
abbrev ipv6Length : Nat := 28

/-- The address of nothing: no bytes, no family. -/
def unspecified : Address := ⟨[], by decide⟩

instance : Inhabited Address := ⟨unspecified⟩

/-! ## Fields of a raw address -/

/-- The family that a raw address begins with. -/
def rawFamily (raw : Bytes) : Nat := Bytes.littleEndian (Bytes.window raw 0 2)

/-- The port field; it stands at the same place in both internet layouts. -/
def rawPort (raw : Bytes) : Nat := Bytes.bigEndian (Bytes.window raw 2 2)

/-- The host field of an IPv4 address. -/
def rawHost4 (raw : Bytes) : Bytes := Bytes.window raw 4 4

/-- The host field of an IPv6 address. -/
def rawHost6 (raw : Bytes) : Bytes := Bytes.window raw 8 16

/-- The scope field of an IPv6 address. -/
def rawScope (raw : Bytes) : Nat := Bytes.littleEndian (Bytes.window raw 24 4)

/-- What a host field of IPv6 begins with if it stands for an IPv4 host. -/
def mappedStart : Bytes := Bytes.zeros 10 ++ [0xff, 0xff]

/-- Whether an IPv6 host field stands for an IPv4 host. -/
def isMapped (host : Bytes) : Bool := host.take 12 == mappedStart

/-- Whether an IPv6 host field is unique on one link only. -/
def isLinkLocal (host : Bytes) : Bool :=
  Bytes.byteAt host 0 == 0xfe && Bytes.byteAt host 1 &&& 0xc0 == 0x80

/-! ## Fields -/

/-- The number of bytes that count. -/
def length (address : Address) : Nat := address.bytes.length

/-- The number of the family that the address names. -/
def family (address : Address) : Nat := rawFamily address.bytes

/-- Whether the address belongs to one of the two internet families. -/
def isInternet (address : Address) : Bool :=
  address.family = Family.ipv4 || address.family = Family.ipv6

/-- Whether the address names no family, as one does that was never filled in. -/
def isUnspecified (address : Address) : Bool := address.family = Family.unspecified

/-- The port; zero where the family has none. -/
def port (address : Address) : Nat := if address.isInternet then rawPort address.bytes else 0

/-- The scope of an IPv6 address. -/
def scope (address : Address) : Nat := rawScope address.bytes

/-! ## Making addresses -/

/-- The raw form of an IPv4 address. -/
def raw4 (port : Nat) (host : Bytes) : Bytes :=
  Bytes.encodeLittle 2 Family.ipv4 ++ Bytes.encodeBig 2 port ++ Bytes.fit 4 host ++ Bytes.zeros 8

/-- The raw form of an IPv6 address without flow label. -/
def raw6 (port : Nat) (host : Bytes) (scope : Nat) : Bytes :=
  Bytes.encodeLittle 2 Family.ipv6 ++ Bytes.encodeBig 2 port ++ Bytes.zeros 4 ++
    Bytes.fit 16 host ++ Bytes.encodeLittle 4 scope

theorem length_raw4 (port : Nat) (host : Bytes) : (raw4 port host).length = ipv4Length := by
  simp [raw4]

theorem length_raw6 (port : Nat) (host : Bytes) (scope : Nat) :
    (raw6 port host scope).length = ipv6Length := by
  simp [raw6]

/-- An IPv4 address. -/
def ofHost4 (port : Nat) (host : Bytes) : Address :=
  ⟨raw4 port host, by rw [length_raw4]; decide⟩

/-- An IPv6 address. -/
def ofHost6 (port : Nat) (host : Bytes) (scope : Nat) : Address :=
  ⟨raw6 port host scope, by rw [length_raw6]; decide⟩

/-- The first `length` bytes of a stretch of memory, taken as an address. -/
def ofRaw (memory : Bytes) (length : Nat) : Except Fault Address :=
  if h : length ≤ capacity then
    if length = 0 then .error (.violation (.addressLength length))
    else .ok ⟨Bytes.fit length memory, by rw [Bytes.length_fit]; exact h⟩
  else .error (.violation (.addressLength length))

/-- The address at a place in memory that may be missing. -/
def ofMemory? (memory : Option Bytes) (length : Nat) : Except Fault Address :=
  match memory with
  | none => .error (.violation .nullAddress)
  | some memory => ofRaw memory length

/-- The machine itself; a family other than IPv6 stands for IPv4. -/
def loopback (port : Nat) (family : Nat) : Address :=
  if family = Family.ipv6 then ofHost6 port (Bytes.zeros 15 ++ [1]) 0
  else ofHost4 port [127, 0, 0, 1]

/-- All interfaces of the machine; a family other than IPv6 stands for IPv4. -/
def any (port : Nat) (family : Nat) : Address :=
  if family = Family.ipv6 then ofHost6 port (Bytes.zeros 16) 0 else ofHost4 port (Bytes.zeros 4)

/-! ## The same endpoint -/

/-- Whether two addresses name the same endpoint. -/
def same (a b : Address) : Bool :=
  a.family = b.family &&
    if a.family = Family.unspecified then true
    else if a.family = Family.ipv4 then
      rawPort a.bytes = rawPort b.bytes && rawHost4 a.bytes == rawHost4 b.bytes
    else if a.family = Family.ipv6 then
      rawPort a.bytes = rawPort b.bytes && a.scope = b.scope && rawHost6 a.bytes == rawHost6 b.bytes
    else a.bytes == b.bytes

theorem same_refl (a : Address) : same a a = true := by
  simp [same]

end Address

end UdpTransport
