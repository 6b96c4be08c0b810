import UdpTransport.Channel.Multicast
import UdpTransport.Kernel.Script
import UdpTransport.Scenario.Spec
import UdpTransport.Socket.Lifecycle

/-!
# Steps

A scenario is a list of steps. Each works on objects by their names: allocators, buffers, messages,
gathers, receive policies and handles, channels, sockets and event loops. A step can also lay down
answers of the kernel, or what the handler of a channel does at its next callbacks; the latter are
lists of steps again (`Step.scripts` counts them).
-/

namespace UdpTransport.Scenario

/-- What a step does with allocators and buffers. -/
inductive BufferStep where
  | allocate (buffer allocator : String) (size : Nat)
  | copy (buffer allocator : String) (bytes : Bytes)
  | wrap (buffer allocator : String) (bytes : Bytes)
  | make (buffer : String) (spec : BufferSpec)
  | compose (buffer : String) (parts : List String)
  | move (buffer source : String)
  | write (buffer : String) (bytes : Bytes)
  | skipReadable (buffer : String) (count : Nat)
  | skipWritable (buffer : String) (count : Nat)
  | readAll (buffer : String)
  | content (buffer : String)
  | close (buffer : String)
  | touch (buffer hint : String)
  | status (buffer : String)
  | drop (buffer : String)
  /-- Visits readable components; `skips` are the bytes consumed of each, and the component at
  index `stop` is the last one. -/
  | visitReadable (buffer : String) (stop : Int) (skips : List Nat)
  /-- Visits writable components; each is filled as far as possible before `skips` of its bytes
  are marked as written. -/
  | visitWritable (buffer : String) (stop : Int) (skips : List Nat) (fill : Bytes)
  | makeAllocator (allocator : String) (kind : MemoryKind)
  | limitAllocator (allocator : String) (allowance : Option Nat)
  | dropAllocator (allocator : String)

/-- What a step does with stored messages. -/
inductive MessageStep where
  | store (message : String) (spec : MessageSpec)
  | view (message : String)
  | touch (message hint : String)
  | replace (source message : String) (content : BufferSpec)
  | move (source message : String)
  | take (message buffer : String)
  | drop (message : String)

/-- What a step does with gathers. -/
inductive GatherStep where
  | make (maxBytes : UInt64)
  | add (length : UInt64) (times : Nat)
  /-- Adds a view; without a length the view is empty. -/
  | addView (length : Option UInt64)
  | addBuffer (buffer : String)
  | clear

/-- What a step does with a receive handle. -/
inductive HandleStep where
  | view
  | setAutoRead (on : Bool)
  | reset
  | allocate (allocator buffer : String)
  | attempt (bytes : Int)
  | noteRead (bytes : Int)
  | count (datagrams : Int)
  | complete
  /-- Asks whether the burst goes on; `more` answers whether more data is waiting. -/
  | continues (more : Option Bool)

/-- What a step does with the log. -/
inductive LogStep where
  | setThreshold (level : Log.Level)
  | write (level : Log.Level) (tag text : String)
  | enabled
  | setSink (sink : Log.Sink)

/-- What a step does with a channel. -/
inductive ChannelStep where
  | destroy
  /-- Attaches an observer, or detaches whatever is attached. -/
  | observe (on : Bool)
  /-- Changes settings directly and in order, up to the first change that fails. -/
  | configure (changes : List ConfigChange)
  | setAutoRead (on : Bool)
  | bind (address : AddressSpec)
  | connect (remote : AddressSpec) (local? : Option AddressSpec)
  | disconnect
  | close
  | flush
  | read
  | status
  | localAddress
  | remoteAddress
  | descriptor
  | write (spec : MessageSpec)
  | writeAndFlush (spec : MessageSpec)
  | offer (message : String)
  | prepare (source message : String)
  /-- Reads a burst, with a named receive handle or with the channel's own. -/
  | readReady (handle : Option String)
  | requestGroup (request : Channel.GroupRequest)
  /-- Changes the in-memory endpoint in order, up to the first change that fails. -/
  | arrange (changes : List EndpointChange)

/-- A setting of a socket with its new value. -/
inductive OptionSetting where
  | reuseAddress (on : Bool)
  | reusePort (on : Bool)
  | broadcast (on : Bool)
  | version6Only (on : Bool)
  | nonBlocking (on : Bool)
  | packetInfo (on : Bool)
  | receiveBufferSize (size : Nat)
  | sendBufferSize (size : Nat)
  | segmentSize (size : Int)

/-- A setting of a socket to be read. -/
inductive OptionQuery where
  | reuseAddress
  | reusePort
  | broadcast
  | version6Only
  | nonBlocking
  | receiveBufferSize
  | sendBufferSize
  | segmentSize

/-- What a step does with a socket. -/
inductive SocketStep where
  | make (options : SocketOptions)
  | drop
  | view
  | moveNew (source : String)
  | move (source : String)
  | bind (address : AddressSpec)
  | connect (address : AddressSpec)
  | disconnect
  | close
  | localAddress
  | remoteAddress
  /-- Reads into `size` bytes; with a length, into that many bytes of memory at an address. -/
  | read (size : Nat) (length : Option Int)
  | receive (size : Nat) (length : Option Int)
  | send (bytes : Bytes) (length : Option Int) (recipient : Option AddressSpec)
      (segmentSize : Int)
  | sendGather (parts : List Bytes) (recipient : Option AddressSpec) (segmentSize : Int)
  | set (setting : OptionSetting)
  | get (query : OptionQuery)
  | setNumber (level name value : Int)
  | getNumber (level name : Int)
  | setBytes (level name : Int) (value : Option Bytes) (length : Nat)
  /-- Reads an option into some room, if there is a place to store it and a length. -/
  | getBytes (level name : Int) (room : Option Nat)

/-- What a step does with an event loop. -/
inductive LoopStep where
  | make (maxEvents : Int)
  | drop
  | register (channel : String)
  | deregister (channel : String)
  | run (timeout : Int)
  | inLoop
  | view

/-- What a new channel is made of. -/
structure ChannelSpec where
  config : List ConfigChange := []
  hasEndpoint : Bool := true
  hasHandler : Bool := true
  /-- The options of the socket that the channel runs on, if it does not run in memory. -/
  socket : Option SocketOptions := none
  /-- Whether an observer is attached at once. -/
  observe : Bool := false

/-- A step of a scenario. -/
inductive Step where
  | buffer (step : BufferStep)
  | message (step : MessageStep)
  | gather (name : String) (step : GatherStep)
  | makePolicy (name : String) (spec : PolicySpec)
  | changePolicy (name : String) (heedsHint : Option Bool) (maxMessages : Option Int)
  | makeHandle (handle policy : String)
  | handle (name : String) (step : HandleStep)
  | log (step : LogStep)
  | openChannel (channel : String) (spec : ChannelSpec)
  | channel (channel : String) (step : ChannelStep)
  /-- Lays down what the handler of a channel does at its next callbacks of each kind. -/
  | script (channel : String) (packet complete failure : List (List Step))
  | socket (name : String) (step : SocketStep)
  | kernel (answers : Script)
  | loop (name : String) (step : LoopStep)
  /-- Fails; for handlers. -/
  | fail (fault : Fault)
  /-- Sends the packet in hand back to its sender, through a channel of any name; for
  handlers. -/
  | echo (channel : String)
  /-- Stores the packet in hand; for handlers. The channel is only shown. -/
  | keep (channel message : String)

mutual

/-- The number of scripts that a step lays down, those inside of them included. -/
def Step.scripts : Step → Nat
  | .script _ packet complete failure =>
    scriptsOfAll packet + scriptsOfAll complete + scriptsOfAll failure
  | _ => 0

/-- The number of scripts in a list of steps. -/
def scriptsOf : List Step → Nat
  | [] => 0
  | step :: rest => step.scripts + scriptsOf rest

/-- The number of scripts in a list of scripts, these included. -/
def scriptsOfAll : List (List Step) → Nat
  | [] => 0
  | script :: rest => 1 + scriptsOf script + scriptsOfAll rest

end

end UdpTransport.Scenario
