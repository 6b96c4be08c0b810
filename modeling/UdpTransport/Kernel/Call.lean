import UdpTransport.Gather

/-!
# System calls

The calls by which sockets and event loops talk to the system, as values. A `SystemCall` holds what
the caller passes; what comes back is an `Answer`, a value or an error number. The numbers by which
the system names protocols, options and flags are collected in `Number`.
-/

namespace UdpTransport

namespace Number

/-- Socket type of datagrams. -/
abbrev datagramType : Int := 2

/-- The UDP protocol, which is also the level of its options. -/
abbrev udp : Int := 17

/-- Level of the options of any socket. -/
abbrev socketLevel : Int := 1

/-- Level of IPv4 options. -/
abbrev ipv4Level : Int := 0

/-- Level of IPv6 options. -/
abbrev ipv6Level : Int := 41

/-- Option: an address in use can be bound. -/
abbrev reuseAddress : Int := 2

/-- Option: datagrams can be sent to all hosts. -/
abbrev broadcast : Int := 6

/-- Option: size of the send buffer. -/
abbrev sendBuffer : Int := 7

/-- Option: size of the receive buffer. -/
abbrev receiveBuffer : Int := 8

/-- Option: several sockets can bind one port. -/
abbrev reusePort : Int := 15

/-- Option: the family that a socket was made with. -/
abbrev domain : Int := 39

/-- IPv4 option and control message: where a datagram was sent to. -/
abbrev packetInfo4 : Int := 8

/-- IPv6 option: no IPv4 traffic. -/
abbrev version6Only : Int := 26

/-- IPv6 option: report where datagrams were sent to. -/
abbrev receivePacketInfo6 : Int := 49

/-- IPv6 control message: where a datagram was sent to. -/
abbrev packetInfo6 : Int := 50

/-- UDP option and control message: cut the payload into segments. -/
abbrev segment : Int := 103

/-- Descriptor flag: calls do not wait. -/
abbrev nonBlocking : Nat := 2048

/-- Send flag: a vanished peer raises no signal. -/
abbrev noSignal : Int := 16384

/-- Interest set flag: closed when another program is run. -/
abbrev closeOnExec : Int := 524288

/-- Readiness: something can be received. -/
abbrev readable : Nat := 1

/-- Readiness: something can be sent. -/
abbrev writable : Nat := 4

/-- Readiness: an error is pending. -/
abbrev failed : Nat := 8

/-- Readiness: the other side is gone. -/
abbrev hungUp : Nat := 16

/-- A number cut to 32 bits, of which the highest is the sign. -/
def narrow (n : Int) : Int := n.bmod (Bytes.span 4)

end Number

/-- What a system call gives back. -/
inductive Answer (α : Type) where
  | value (a : α)
  /-- The call failed with an error number. -/
  | failure (code : Int)
  deriving DecidableEq, Repr

/-- Changes the value of an answer. -/
def Answer.map {α β : Type} (change : α → β) : Answer α → Answer β
  | .value a => .value (change a)
  | .failure code => .failure code

/-- The error number of a failure, or a given one. -/
def Answer.codeOr {α : Type} (other : Int) : Answer α → Int
  | .value _ => other
  | .failure code => code

/-- Makes an answer a failure with a given error number if its value says so. -/
def Answer.failIf {α : Type} (failed : α → Bool) (code : Int) : Answer α → Answer α
  | .value a => if failed a then .failure code else .value a
  | .failure own => .failure own

/-- A change to an interest set. -/
inductive InterestChange where
  | add
  | modify
  | delete
  deriving DecidableEq, Repr

/-- The control message that goes out with a payload to be cut into segments. -/
structure SegmentControl where
  /-- Room of the control buffer. -/
  room : Nat
  /-- Length of the control message. -/
  length : Nat
  level : Int
  type : Int
  data : Bytes
  deriving DecidableEq, Repr

/-- A call and what is passed to it. -/
inductive SystemCall where
  | socket (domain type protocol : Int)
  | close (fd : Int)
  | getFlags (fd : Int)
  | setFlags (fd flags : Int)
  | setOption (fd level name : Int) (value : Bytes)
  | getOption (fd level name : Int)
  | bind (fd : Int) (address : Bytes)
  | connect (fd : Int) (address : Bytes)
  | socketName (fd : Int)
  | peerName (fd : Int)
  | receive (fd : Int) (length : Nat) (flags : Int)
  | receiveMessage (fd : Int) (length addressRoom controlRoom : Nat) (flags : Int)
  | sendMessage (fd : Int) (address : Option Bytes) (regions : List Region)
      (control : Option SegmentControl) (flags : Int)
  | createInterestSet (flags : Int)
  | changeInterest (set : Int) (change : InterestChange) (fd : Int) (entry : Option (Nat × Nat))
  | wait (set : Int) (maxEvents : Nat) (timeout : Int)
  deriving DecidableEq, Repr

end UdpTransport
