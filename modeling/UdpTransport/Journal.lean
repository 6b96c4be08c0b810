import UdpTransport.Endpoint.Request
import UdpTransport.Kernel.Call
import UdpTransport.Log
import UdpTransport.Message

/-!
# The journal

Everything that can be observed of a run from outside is written down in order: records of the log,
system calls with their results, requests to in-memory endpoints, changes of interest, and the
callbacks to handlers. Messages and buffers are written down as views, so that the journal owns no
memory.
-/

namespace UdpTransport

/-- A payload as seen from outside. -/
structure ContentView where
  status : Buffer.Status
  bytes : Bytes
  deriving DecidableEq, Repr

/-- A packet as seen from outside. -/
structure PacketView where
  content : ContentView
  recipient : Option Address
  sender : Option Address
  deriving DecidableEq, Repr

/-- A message as seen from outside. -/
inductive MessageView where
  | empty
  | buffer (content : ContentView)
  | packet (packet : PacketView)
  | segmented (packet : PacketView) (size : Int)
  | envelope (content : ContentView) (recipient : Option Address)
  deriving DecidableEq, Repr

/-- How a buffer looks from outside. -/
def Buffer.view (buffer : Buffer) : ContentView := ⟨buffer.status, buffer.toBytes⟩

/-- How a packet looks from outside. -/
def Packet.view (packet : Packet) : PacketView :=
  ⟨packet.content.view, packet.recipient, packet.sender⟩

/-- How a message looks from outside. -/
def Message.view : Message → MessageView
  | .empty => .empty
  | .buffer content => .buffer content.view
  | .packet p => .packet p.view
  | .segmented p size => .segmented p.view size.val
  | .envelope content recipient => .envelope content.view recipient

/-- A component as offered to a visitor. -/
structure Visited where
  index : Nat
  /-- The readable bytes, or the room. -/
  amount : Nat
  kind : MemoryKind
  /-- The readable bytes, if those were offered. -/
  bytes : Option Bytes
  deriving DecidableEq, Repr

/-- Something that happened. -/
inductive Event where
  /-- A record of the log. -/
  | log (level : Log.Level) (tag text : String)
  /-- A system call and its result. -/
  | call (call : SystemCall) (result : Answer Int)
  /-- A send by an in-memory endpoint; without a result it failed. -/
  | send (channel : String) (request : SendRequest) (result : Option Int)
  /-- A receive by an in-memory endpoint into `room` bytes. -/
  | receive (channel : String) (connected : Bool) (access : Access) (room : Nat)
  | bind (channel : String) (address : Address)
  | connect (channel : String) (address : Address)
  | disconnect (channel : String)
  | close (channel : String)
  /-- An observer is told whether the channel waits to read. -/
  | readInterest (channel : String) (wanted : Bool)
  /-- An observer is told whether the channel waits to write. -/
  | writeInterest (channel : String) (wanted : Bool)
  /-- An observer is told that the channel is gone. -/
  | cancel (channel : String)
  /-- A handler is given a packet. -/
  | packet (channel : String) (packet : PacketView)
  /-- A handler is told that a burst is over. -/
  | readComplete (channel : String)
  /-- A handler is told what ended a burst. -/
  | failure (channel : String) (fault : Fault)
  /-- A walk over components failed after these were offered. -/
  | visited (components : List Visited)
  /-- A message that an operation failed on. -/
  | message (message : MessageView)
  deriving DecidableEq, Repr

end UdpTransport
