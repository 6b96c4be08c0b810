import UdpTransport.Address.Basic

/-!
# Addresses as text

An IPv4 host is written as four decimal numbers. An IPv6 host is written as eight hexadecimal
groups in lower case without leading zeros; the first longest run of two or more zero groups
becomes a double colon (`zeroRun`), and where that run shows the host to embed an IPv4 host, the
last two groups are written as four decimal numbers (`host6Text`).

A host of IPv6 that merely stands for an IPv4 host is written as the latter, and then an address
needs no brackets around it (`toText`).
-/

namespace UdpTransport.Address

/-- Four decimal numbers with dots between them. -/
def dotted (host : Bytes) : List Char :=
  ['.'].intercalate ((Bytes.fit 4 host).map fun byte => Nat.toDigits 10 byte.toNat)

/-- The 16-bit groups of a host, in order. -/
def hostGroups : Bytes → List Nat
  | high :: low :: rest => (high.toNat * 256 + low.toNat) :: hostGroups rest
  | _ => []

/-- The number of zeros at the front. -/
def leadingZeros (groups : List Nat) : Nat := (groups.takeWhile (· == 0)).length

/-- Start and length of the first longest run of zero groups. -/
def zeroRun : List Nat → Nat × Nat
  | [] => (0, 0)
  | group :: rest =>
    let here := leadingZeros (group :: rest)
    let later := zeroRun rest
    if later.2 ≤ here then (0, here) else (later.1 + 1, later.2)

/-- Groups in hexadecimal with colons between them. -/
def colonSeparated (groups : List Nat) : List Char :=
  [':'].intercalate (groups.map (Nat.toDigits 16))

/-- The text of an IPv6 host. -/
def host6Text (host : Bytes) : List Char :=
  let groups := hostGroups (Bytes.fit 16 host)
  let (start, count) := zeroRun groups
  if count < 2 then colonSeparated groups
  else if start = 0 ∧ count = 6 then "::".toList ++ dotted (host.drop 12)
  else if start = 0 ∧ count = 5 ∧ groups[5]? = some 0xffff then
    "::ffff:".toList ++ dotted (host.drop 12)
  else colonSeparated (groups.take start) ++ "::".toList ++
    colonSeparated (groups.drop (start + count))

/-- The text of the host of a raw address. With `mapped`, an IPv6 host that stands for an IPv4
host is written as the latter. -/
def rawHostText (raw : Bytes) (mapped : Bool) : Except Fault String :=
  if rawFamily raw = Family.ipv4 then .ok (String.ofList (dotted (rawHost4 raw)))
  else if rawFamily raw = Family.ipv6 then
    let host := rawHost6 raw
    if mapped && isMapped host then .ok (String.ofList (dotted (host.drop 12)))
    else .ok (String.ofList (host6Text host))
  else .error (.violation .hostTextFamily)

/-- The port of a raw address of an internet family. -/
def rawPortOf (raw : Bytes) : Except Fault Nat :=
  if rawFamily raw = Family.ipv4 ∨ rawFamily raw = Family.ipv6 then .ok (rawPort raw)
  else .error (.violation .portFamily)

/-- The text of an address's host. -/
def hostText (address : Address) : Except Fault String :=
  if address.isInternet then rawHostText address.bytes true
  else .error (.violation .notInternet)

/-- The text of an address: host and port, with brackets around a host that contains colons. -/
def toText (address : Address) : String :=
  match address.hostText with
  | .ok host =>
    let port := toString address.port
    if ':' ∈ host.toList then "[" ++ host ++ "]:" ++ port else host ++ ":" ++ port
  | .error _ =>
    if address.isUnspecified then "unspecified" else "family(" ++ toString address.family ++ ")"

end UdpTransport.Address
