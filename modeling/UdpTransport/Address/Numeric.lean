import UdpTransport.Address.Basic

/-!
# Numeric hosts

Only numeric hosts resolve. A host is read as IPv4 in the liberal notation (`looseHost4`): one to
four numbers, decimal, octal after a leading `0` or hexadecimal after `0x`, of which the last fills
all remaining bytes. Otherwise it is read as IPv6 (`host6`): groups of hexadecimal digits of which
a double colon stands for at least one zero group, the last two groups possibly in the strict
dotted notation (`strictHost4`), and after a percent sign the decimal number of a scope.

`Address.resolve` says which address a host, a port and a requested family give. The text ends at
its first NUL character. A host without text means all interfaces, and a lone asterisk the machine
itself.
-/

namespace UdpTransport.Address

/-! ## Numbers -/

/-- The value of a digit in bases up to sixteen. -/
def digitValue? (c : Char) : Option Nat :=
  if '0' ≤ c ∧ c ≤ '9' then some (c.toNat - '0'.toNat)
  else if 'a' ≤ c ∧ c ≤ 'f' then some (c.toNat - 'a'.toNat + 10)
  else if 'A' ≤ c ∧ c ≤ 'F' then some (c.toNat - 'A'.toNat + 10)
  else none

/-- Continues a number by the digits that follow. -/
def numberFrom (base : Nat) (value : Nat) : List Char → Option Nat
  | [] => some value
  | c :: rest =>
    match digitValue? c with
    | some digit => if digit < base then numberFrom base (value * base + digit) rest else none
    | none => none

/-- A number of at least one digit, and nothing else. -/
def number? (base : Nat) (text : List Char) : Option Nat :=
  if text.isEmpty then none else numberFrom base 0 text

/-- The stretches of a text between the occurrences of a separator. -/
def pieces (separator : Char) : List Char → List (List Char)
  | [] => [[]]
  | c :: rest =>
    if c = separator then [] :: pieces separator rest
    else match pieces separator rest with
      | piece :: others => (c :: piece) :: others
      | [] => [[c]]

/-! ## IPv4 -/

/-- A number of the liberal notation, whose first characters tell the base. -/
def loosePart? : List Char → Option Nat
  | '0' :: c :: rest =>
    if c = 'x' ∨ c = 'X' then number? 16 rest else number? 8 (c :: rest)
  | text => number? 10 text

/-- The host that the parts of the liberal notation give: `room` bytes are left to fill. -/
def looseBytes : (room : Nat) → List Nat → Option Bytes
  | room, [last] => if last < Bytes.span room then some (Bytes.encodeBig room last) else none
  | room + 1, part :: rest =>
    if part < 256 then (looseBytes room rest).map (UInt8.ofNat part :: ·) else none
  | _, _ => none

/-- An IPv4 host in the liberal notation. -/
def looseHost4 (text : List Char) : Option Bytes := do
  let parts ← (pieces '.' text).mapM loosePart?
  if parts.length ≤ 4 then looseBytes 4 parts else none

/-- A byte of the strict notation: decimal, without leading zeros. -/
def strictPart? (text : List Char) : Option UInt8 :=
  if text.length ≤ 3 ∧ (text.head? = some '0' → text.length = 1) then
    (number? 10 text).bind fun value => if value < 256 then some (UInt8.ofNat value) else none
  else none

/-- An IPv4 host in the strict notation. -/
def strictHost4 (text : List Char) : Option Bytes := do
  let host ← (pieces '.' text).mapM strictPart?
  if host.length = 4 then some host else none

/-! ## IPv6 -/

/-- A group of one to four hexadecimal digits. -/
def group? (text : List Char) : Option Bytes :=
  if text.length ≤ 4 then (number? 16 text).map (Bytes.encodeBig 2) else none

/-- A sequence of groups; with `dottedEnd`, the last may be an IPv4 host. -/
def groups? (dottedEnd : Bool) : List (List Char) → Option Bytes
  | [] => some []
  | [last] => if dottedEnd && last.contains '.' then strictHost4 last else group? last
  | piece :: rest => do
    let first ← group? piece
    let others ← groups? dottedEnd rest
    some (first ++ others)

/-- The bytes that one side of a double colon stands for. -/
def side? (dottedEnd : Bool) (text : List Char) : Option Bytes :=
  if text.isEmpty then some [] else groups? dottedEnd (pieces ':' text)

/-- What stands before and after the first double colon. -/
def atDoubleColon : List Char → Option (List Char × List Char)
  | ':' :: ':' :: rest => some ([], rest)
  | c :: rest => (atDoubleColon rest).map fun (before, after) => (c :: before, after)
  | [] => none

/-- The 16 bytes of an IPv6 host without scope. -/
def host6 (text : List Char) : Option Bytes :=
  match atDoubleColon text with
  | none => do
    let host ← side? true text
    if host.length = 16 then some host else none
  | some (before, after) => do
    let front ← side? false before
    let back ← side? true after
    if front.length + back.length ≤ 14 then
      some (front ++ Bytes.zeros (16 - (front.length + back.length)) ++ back)
    else none

/-- The number of a scope. -/
def scope? (text : List Char) : Option Nat :=
  (number? 10 text).bind fun value => if value < Bytes.span 4 then some value else none

/-! ## Resolution -/

/-- What stands before the first occurrence of a mark, and what after it if there is one. -/
def atMark (mark : Char) (text : List Char) : List Char × Option (List Char) :=
  (text.takeWhile (· != mark),
    match text.dropWhile (· != mark) with
    | [] => none
    | _ :: rest => some rest)

/-- Whether a family was asked for in a way that admits `family`. -/
def admits (wanted : Int) (family : Nat) : Bool := wanted = 0 || wanted = family

/-- The text that stands for the machine itself. -/
def ownHost : List Char := ['*']

/-- The address of the machine itself, of IPv6 where the wanted family leaves the choice. -/
def ownAddress (port : Nat) (wanted : Int) : Address :=
  loopback port (if admits wanted Family.ipv6 then Family.ipv6 else Family.ipv4)

/-- The address of an IPv6 text, cut at its scope. Without IPv6 only a host that stands for an
IPv4 host will do, as the latter. -/
def resolve6 (port : Nat) (wanted : Int) (host : Bytes) (scope : Option (List Char)) :
    Except Fault Address :=
  if admits wanted Family.ipv6 ∨ isMapped host then
    let scope := match scope with
      | none => some 0
      | some text => scope? text
    match scope with
    | none => .error (.resolution ErrorCode.unknownHost)
    | some scope =>
      .ok (if admits wanted Family.ipv6 then ofHost6 port host scope
        else ofHost4 port (host.drop 12))
  else .error (.resolution ErrorCode.hostFamily)

/-- The address of a host given as text. A wanted family of zero leaves the choice to the host. -/
def resolve (host : String) (port : Nat) (wanted : Int) : Except Fault Address :=
  if ¬ (wanted = Family.unspecified ∨ wanted = Family.ipv4 ∨ wanted = Family.ipv6) then
    .error (.resolution ErrorCode.resolverFamily)
  else if host.isEmpty then .ok (any port wanted.toNat)
  else
    let text := host.toList.takeWhile (· != '\x00')
    if text = ownHost then .ok (ownAddress port wanted)
    else match looseHost4 text with
    | some bytes =>
      if admits wanted Family.ipv4 then .ok (ofHost4 port bytes)
      else .error (.resolution ErrorCode.hostFamily)
    | none =>
      let (hostPart, scope) := atMark '%' text
      match host6 hostPart with
      | some bytes => resolve6 port wanted bytes scope
      | none => .error (.resolution ErrorCode.unknownHost)

end UdpTransport.Address
