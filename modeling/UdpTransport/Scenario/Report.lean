import UdpTransport.Futures
import UdpTransport.Channel.State
import UdpTransport.Journal
import UdpTransport.Socket.Basic

/-!
# What a scenario shows

After each step a scenario shows what the step gave (`Outcome`: a `Reply` or a fault) and the news
since the step before: what was printed, what happened, which futures became ready, and which
allocators have new counts. All of it together is a `Report`.
-/

namespace UdpTransport.Scenario

/-- A result of a step. -/
inductive Value where
  | flag (on : Bool)
  | flags (all : List Bool)
  | number (n : Int)
  | bytes (bytes : Bytes)
  | status (status : Buffer.Status)
  | kind (kind : MemoryKind)
  | level (level : Log.Level)
  | message (message : MessageView)
  | address (address : Option Address)
  /-- A finished walk over components. -/
  | walk (result : Int) (visited : List Visited)
  /-- The bounds of a policy, and the size of its buffers where that is shown. -/
  | policy (maxMessages : Int) (heedsHint : Bool) (size : Option Int)
  /-- Sender, number of bytes and local address of a datagram, if one was received. -/
  | arrival (received : Option Received)
  | option (value : Bytes)
  deriving DecidableEq, Repr

/-- What can be seen of a channel. -/
structure ChannelView where
  isOpen : Bool
  isActive : Bool
  isConnected : Bool
  isRegistered : Bool
  autoRead : Bool
  pendingWrites : Nat
  deriving DecidableEq, Repr

/-- What can be seen of a receive handle. -/
structure HandleView where
  guess : Int
  last : Int
  attempted : Int
  deriving DecidableEq, Repr

/-- What a step gives: its result, and the objects that it worked on as they are afterwards. -/
structure Reply where
  result : Option Value := none
  buffer : Option Buffer.Status := none
  message : Option MessageView := none
  gather : Option Gather := none
  handle : Option HandleView := none
  /-- Whether a receive handle asked if more data is waiting. -/
  asked : Option Bool := none
  channel : Option ChannelView := none
  socket : Option Socket := none
  /-- The memory that was received into. -/
  memory : Option Bytes := none
  /-- The number of entries of an event loop. -/
  channels : Option Nat := none
  deriving DecidableEq, Repr

/-- How a step went. -/
inductive StepOutcome where
  | done (reply : Reply)
  | failed (fault : Fault)
  deriving DecidableEq, Repr

/-- What a scenario shows after a step. -/
structure Report where
  outcome : StepOutcome
  printed : String
  events : List Event
  /-- Futures that became ready, by the number under which they were handed out. -/
  futures : List (Nat × Outcome)
  accounts : List (String × Account)
  deriving DecidableEq, Repr

end UdpTransport.Scenario
