import UdpTransport.Fault.Text

/-!
# Faults

What can go wrong in the transport, by cause. A `Violation` is a rule of the transport that a
caller or the state broke; a `Fault` is a violation, a failed system call, a failed resolution, or
a failure that a caller of the transport raised. Every fault has a `Fault.kind`, the coarse class
that callers branch on, and a `Fault.message`, its wording.

Flow control is no fault: nothing to receive, a full send queue or an empty burst are ordinary
results. `Fault.ofConnectedRead` re-expresses the one system failure that has a name of its own on
a connected read: the peer's port is unreachable.
-/

namespace UdpTransport

/-- The coarse class of a fault. -/
inductive FaultKind where
  | socket
  | native
  | portUnreachable
  | unsupported
  | invalidArgument
  | outOfRange
  | logic
  | outOfMemory
  | runtime
  | brokenPromise
  | badInput
  deriving DecidableEq, Repr

/-- A number that callers set and that has to be in bounds. -/
inductive Setting where
  | messagesPerRead
  | bufferSize
  | minimum
  | initial
  | maximum
  | segmentSize
  | spinCount
  | messagesPerWrite
  | length
  | receiveBufferSize
  | sendBufferSize
  deriving DecidableEq, Repr

/-- The name of a setting in messages. -/
def Setting.name : Setting → String
  | .messagesPerRead => "maxMessagesPerRead"
  | .bufferSize => "bufferSize"
  | .minimum => "minimum"
  | .initial => "initial"
  | .maximum => "maximum"
  | .segmentSize => "segmentSize"
  | .spinCount => "writeSpinCount"
  | .messagesPerWrite => "maxMessagesPerWrite"
  | .length => "length"
  | .receiveBufferSize => "receiveBufferSize"
  | .sendBufferSize => "sendBufferSize"

/-- The largest value of a signed 32-bit number. -/
abbrev maxInt32 : Nat := 2147483647

/-- The largest segment size that one send can ask for. -/
abbrev maxSegmentSize : Nat := 65535

/-- A rule of the transport that was broken. -/
inductive Violation where
  -- state rules
  | channelClosed
  | writeAfterClose
  | payloadTooScattered
  | registerClosed
  | registerTwice
  | bindClosed
  | alreadyBound
  | connectClosed
  | foreignFamily (address : String)
  | notInternet
  | hostTextFamily
  | portFamily
  | setOptionClosed
  | setOptionEmpty
  | getOptionClosed
  | getOptionEmpty
  | familyClosed
  | setVersion6OnlyFamily
  | getVersion6OnlyFamily
  | setNonBlockingClosed
  | getNonBlockingClosed
  | segmentOptionRange
  -- argument rules
  | nullAddress
  | addressLength (length : Nat)
  | borrowedAllocator
  | notPositive (setting : Setting) (value : Int)
  | below (setting : Setting) (value bound : Int)
  | above (setting : Setting) (value bound : Int)
  | outside (setting : Setting) (value : Nat)
  | socketFamily
  | missingEndpoint
  | missingHandler
  | missingAllocator
  | emptyArgument (name : String)
  -- amounts beyond what a buffer holds
  | skipReadable (amount available : Nat)
  | skipWritable (amount available : Nat)
  | writeBeyond (amount available : Nat)
  | bufferClosed
  -- requests that no transport of this kind can serve
  | messageKind (name : String)
  | multicast
  deriving DecidableEq, Repr

namespace Violation

/-- The class of fault that a broken rule belongs to. -/
def kind : Violation → FaultKind
  | .channelClosed | .writeAfterClose | .payloadTooScattered | .registerClosed | .registerTwice
  | .bindClosed | .alreadyBound | .connectClosed | .foreignFamily _ | .notInternet
  | .hostTextFamily | .portFamily | .setOptionClosed | .setOptionEmpty | .getOptionClosed
  | .getOptionEmpty | .familyClosed | .setVersion6OnlyFamily | .getVersion6OnlyFamily
  | .setNonBlockingClosed | .getNonBlockingClosed | .segmentOptionRange => .socket
  | .nullAddress | .addressLength _ | .borrowedAllocator | .notPositive .. | .below ..
  | .above .. | .outside .. | .socketFamily | .missingEndpoint | .missingHandler
  | .missingAllocator | .emptyArgument _ => .invalidArgument
  | .skipReadable .. | .skipWritable .. | .writeBeyond .. => .outOfRange
  | .bufferClosed => .logic
  | .messageKind _ | .multicast => .unsupported

/-- The wording of a broken rule. -/
def message : Violation → String
  | .channelClosed => "channel closed"
  | .writeAfterClose => "write() failed: channel is closed."
  | .payloadTooScattered =>
    "writeMessage() failed: payload does not fit in one vectorized send."
  | .registerClosed => "registerChannel() failed: channel is closed."
  | .registerTwice => "registerChannel() failed: channel is already registered."
  | .bindClosed => "DatagramSocket::bind(): socket is closed"
  | .alreadyBound => "DatagramSocket::bind(): socket is already bound"
  | .connectClosed => "DatagramSocket::connect(): socket is closed"
  | .foreignFamily address =>
    "address " ++ address ++ " does not match the socket's address family"
  | .notInternet => "ip() called on a non-inet address"
  | .hostTextFamily => "Unsupported address family in ipFromSockaddr"
  | .portFamily => "Unsupported address family in portFromSockaddr"
  | .setOptionClosed => "setOption() failed: socket not open."
  | .setOptionEmpty => "setOption() failed: null buffer or zero length."
  | .getOptionClosed => "getOption() failed: socket not open."
  | .getOptionEmpty => "getOption() failed: invalid buffer or length."
  | .familyClosed => "socketFamily() failed: socket is not open."
  | .setVersion6OnlyFamily => "setIPv6Only() failed: socket is not IPv6"
  | .getVersion6OnlyFamily => "getIPv6Only() failed: socket is not IPv6"
  | .setNonBlockingClosed => "setNonBlocking() failed: socket is not open."
  | .getNonBlockingClosed => "getNonBlocking() failed: socket is not open."
  | .segmentOptionRange => "setSegmentSize() failed: segment size must be in [0,65535]."
  | .nullAddress => "addr must not be null"
  | .addressLength length => s!"invalid socket address length: {length}"
  | .borrowedAllocator => "a BufferAllocator cannot allocate Borrowed memory"
  | .notPositive setting value => setting.name ++ s!": {value} (expected: > 0)"
  | .below setting value bound => setting.name ++ s!": {value} (expected: >= {bound})"
  | .above setting value bound => setting.name ++ s!": {value} (expected: <= {bound})"
  | .outside setting value => setting.name ++ s!": {value} (expected: 1..{maxInt32})"
  | .socketFamily => "DatagramSocket: family must be AF_INET or AF_INET6"
  | .missingEndpoint => "io must not be null"
  | .missingHandler => "handler must not be null"
  | .missingAllocator => "config allocators must not be null"
  | .emptyArgument name => name ++ " must not be empty"
  | .skipReadable amount available =>
    s!"cannot skip {amount} readable bytes, only {available} available"
  | .skipWritable amount available =>
    s!"cannot skip {amount} writable bytes, only {available} available"
  | .writeBeyond amount available => s!"cannot write {amount} bytes, only {available} writable"
  | .bufferClosed => "buffer is closed"
  | .messageKind name =>
    "unsupported message type: " ++ name ++
      " (expected: DatagramPacket, SegmentedDatagramPacket, " ++
      "AddressedEnvelope<Buffer, InetSocketAddress>, Buffer)"
  | .multicast => "Multicast not supported"

end Violation

/-- A failure, by cause. -/
inductive Fault where
  /-- A rule of the transport was broken. -/
  | violation (rule : Violation)
  /-- A host could not be resolved. -/
  | resolution (code : Int)
  /-- A system call failed. -/
  | native (call : String) (code : Int)
  /-- A socket failure that a caller describes; code 0 stands for none. -/
  | socket (code : Int) (message : String)
  /-- The connected peer rejected a datagram. -/
  | portUnreachable (code : Int) (message : String)
  /-- A failure re-expressed; `cause` is the failure behind it. -/
  | because (fault cause : Fault)
  /-- A request that the transport does not serve, as a caller describes it. -/
  | unsupported (message : String)
  /-- No memory is left. -/
  | outOfMemory
  /-- A failure of a callback. -/
  | runtime (message : String)
  /-- A write was given up without an outcome. -/
  | brokenPromise
  /-- A step names an object that does not exist. -/
  | noObject (name : String)
  /-- A step names a channel that was destroyed. -/
  | noChannel
  /-- A step needs the in-memory endpoint of a channel that has none. -/
  | noEndpoint
  deriving DecidableEq, Repr

namespace Fault

/-- The class of a fault. -/
def kind : Fault → FaultKind
  | .violation rule => rule.kind
  | .resolution _ | .socket .. => .socket
  | .native .. => .native
  | .portUnreachable .. => .portUnreachable
  | .because fault _ => fault.kind
  | .unsupported _ => .unsupported
  | .outOfMemory => .outOfMemory
  | .runtime _ => .runtime
  | .brokenPromise => .brokenPromise
  | .noObject _ | .noChannel | .noEndpoint => .badInput

/-- A description followed by the error code that the system gave. -/
def withCode (message : String) (code : Int) : String := message ++ s!" (error code {code})"

/-- A text up to its first NUL character. -/
def untilNul (text : String) : String := String.ofList (text.toList.takeWhile (· != '\x00'))

/-- The wording of a fault as it was composed. -/
def wording : Fault → String
  | .violation rule => rule.message
  | .resolution code => withCode (resolverText code) code
  | .native call code => withCode (call ++ "() failed: " ++ systemText code) code
  | .socket _ message | .portUnreachable _ message | .unsupported message
  | .runtime message => message
  | .because fault _ => fault.wording
  | .outOfMemory => "std::bad_alloc"
  | .brokenPromise => "std::future_error: Broken promise"
  | .noObject name => "no object " ++ name
  | .noChannel => "channel destroyed"
  | .noEndpoint => "no fake io"

/-- The message of a fault; it ends where the wording has its first NUL character. -/
def message (fault : Fault) : String := untilNul fault.wording

theorem takeWhile_takeWhile {α : Type} (keep : α → Bool) (items : List α) :
    (items.takeWhile keep).takeWhile keep = items.takeWhile keep := by
  induction items with
  | nil => rfl
  | cons item rest ih =>
    cases kept : keep item
    · simp [List.takeWhile, kept]
    · simp [List.takeWhile, kept, ih]

theorem untilNul_untilNul (text : String) : untilNul (untilNul text) = untilNul text := by
  simp [untilNul, takeWhile_takeWhile]

/-- The error code of a fault, zero if the system reported none. -/
def code : Fault → Int
  | .resolution code | .native _ code | .socket code _ | .portUnreachable code _ => code
  | .because fault _ => fault.code
  | _ => 0

/-- The system call that failed, if one did. -/
def call? : Fault → Option String
  | .native call _ => some call
  | _ => none

/-- The failure behind a re-expressed one. -/
def cause? : Fault → Option Fault
  | .because _ cause => some cause
  | _ => none

/-- The wording of a socket failure that nobody described. -/
def undescribed : String := "SocketException"

/-- A socket failure with an error code, which its wording mentions. -/
def ofCode (code : Int) (message : String) : Fault := .socket code (withCode message code)

/-- A failure that re-expresses another one, if there is another one. -/
def causedBy (fault : Fault) : Option Fault → Fault
  | some cause => .because fault cause
  | none => fault

/-- Faults of sockets, of the system included: those that end a registration or a construction
halfway in an orderly manner. -/
def isSocketFault (fault : Fault) : Bool :=
  match fault.kind with
  | .socket | .native | .portUnreachable => true
  | _ => false

/-- A connected socket learns from its next receive that the peer refused a datagram. That failure
gets a name of its own and keeps the system's failure as its cause; all others stay as they are. -/
def ofConnectedRead : Fault → Fault
  | .native call code =>
    if code = ErrorCode.refused then
      .because (.portUnreachable code (Fault.native call code).message) (.native call code)
    else .native call code
  | fault => fault

/-- Re-expressing a failure keeps its code and its wording. -/
theorem message_ofConnectedRead (fault : Fault) :
    fault.ofConnectedRead.message = fault.message ∧ fault.ofConnectedRead.code = fault.code := by
  cases fault with
  | native call errno =>
    by_cases refused : errno = ErrorCode.refused
    · simp [ofConnectedRead, refused, message, wording, untilNul_untilNul, Fault.code]
    · simp [ofConnectedRead, refused]
  | _ => simp [ofConnectedRead]

end Fault

end UdpTransport
