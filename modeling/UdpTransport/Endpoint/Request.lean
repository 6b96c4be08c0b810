import UdpTransport.Address.Basic
import UdpTransport.Gather

/-!
# Requests to an endpoint

What a channel asks of the endpoint below it. Memory is handed over either by its address, which
direct memory allows, or as a view (`Access`); a send hands over one stretch of memory or the
regions of a gather (`Payload`), to the connected peer or to a recipient.
-/

namespace UdpTransport

/-- How memory is handed over. -/
inductive Access where
  | address
  | view
  deriving DecidableEq, Repr

/-- The memory that a send hands over. -/
inductive Payload where
  | single (access : Access) (bytes : Bytes)
  | gather (gather : Gather)
  deriving DecidableEq, Repr

/-- The bytes that a payload offers, in order. -/
def Payload.toBytes : Payload → Bytes
  | .single _ bytes => bytes
  | .gather regions => regions.toBytes

/-- One send of one datagram, or of several equal segments if the segment size is positive. -/
structure SendRequest where
  payload : Payload
  /-- The destination; without one the connected peer. -/
  recipient : Option Address
  segmentSize : Int
  deriving DecidableEq, Repr

/-- What a read from the connected peer gives. -/
structure Incoming where
  /-- The bytes stored at the start of the memory handed over. -/
  bytes : Bytes
  /-- The number of bytes reported; zero if nothing came. -/
  amount : Int
  deriving DecidableEq, Repr

/-- A datagram received with its addresses. -/
structure Received where
  /-- The bytes stored at the start of the memory handed over. -/
  bytes : Bytes
  /-- The number of bytes reported. -/
  amount : Int
  sender : Address
  /-- The local address that the datagram was sent to, if reported. -/
  local? : Option Address
  deriving DecidableEq, Repr

end UdpTransport
