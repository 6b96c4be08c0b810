import UdpTransport.Address.Text

/-!
# Addresses of a socket's own family

A socket exchanges addresses of its own family with the system. An IPv6 socket that serves both
families reaches an IPv4 peer under the IPv6 address that stands for it: `toNative` makes that
address for outgoing datagrams, and `ofNative` undoes it for whatever the system reports.
-/

namespace UdpTransport.Address

/-- The bytes under which a socket of some family addresses a peer. -/
def toNative (address : Address) (socketFamily : Nat) : Except Fault Bytes :=
  if address.family = socketFamily then .ok address.bytes
  else if socketFamily = Family.ipv6 ∧ address.family = Family.ipv4 then
    .ok (raw6 (rawPort address.bytes) (mappedStart ++ rawHost4 address.bytes) 0)
  else .error (.violation (.foreignFamily address.toText))

/-- The address that the system reports as `length` bytes of memory. -/
def ofNative (memory : Bytes) (length : Nat) : Except Fault Address :=
  let stored := memory.take capacity
  if rawFamily stored = Family.ipv6 && isMapped (rawHost6 stored) then
    .ok (ofHost4 (rawPort stored) ((rawHost6 stored).drop 12))
  else ofRaw stored length

end UdpTransport.Address
