import UdpTransport.Address.Text
import UdpTransport.Buffer.Basic

/-!
# Messages

What can be handed to a channel for sending: a bare payload, a packet with its addresses, a packet
that the system cuts into segments of equal size, or an envelope whose recipient is optional. A
message may also be empty; such a message is never sent.

Moving a message elsewhere takes its payload and leaves the rest behind (`Message.movedFrom`).
`Message.isSendable` is the rule for what a channel accepts.
-/

namespace UdpTransport

/-- A payload with its addresses. On the way out `recipient` is the destination; on the way in it
is the local address that the datagram arrived at, and `sender` is where it came from. -/
structure Packet where
  content : Buffer
  recipient : Option Address
  sender : Option Address
  deriving DecidableEq, Repr

/-- The size of each segment that the system cuts a payload into. -/
abbrev SegmentSize := { n : Int // 0 < n }

/-- A message for a channel. -/
inductive Message where
  | empty
  | buffer (content : Buffer)
  | packet (packet : Packet)
  | segmented (packet : Packet) (size : SegmentSize)
  | envelope (content : Buffer) (recipient : Option Address)
  deriving DecidableEq, Repr

namespace Message

/-- The name of a message's form in messages to the user. -/
def form : Message → String
  | empty => "empty message"
  | buffer _ => "Buffer"
  | packet _ => "DatagramPacket"
  | segmented .. => "SegmentedDatagramPacket"
  | envelope .. => "AddressedEnvelope"

/-- The payload; the empty message has none. -/
def content : Message → Buffer
  | empty => .closed
  | buffer content => content
  | packet p | segmented p _ => p.content
  | envelope content _ => content

/-- The same message with another payload. -/
def withContent (message : Message) (content : Buffer) : Message :=
  match message with
  | empty => empty
  | buffer _ => buffer content
  | packet p => packet { p with content := content }
  | segmented p size => segmented { p with content := content } size
  | envelope _ recipient => envelope content recipient

/-- The destination, if the message names one. -/
def recipient : Message → Option Address
  | packet p | segmented p _ => p.recipient
  | envelope _ recipient => recipient
  | _ => none

/-- The size of the segments to send the payload in; zero leaves it whole. -/
def segmentSize : Message → Int
  | segmented _ size => size.val
  | _ => 0

/-- What stays of a message whose payload was moved elsewhere. -/
def movedFrom (message : Message) : Message := message.withContent .closed

/-- A segmented packet; the size of the segments has to be positive. -/
def ofSegments (packet : Packet) (size : Int) : Except Fault Message :=
  if h : 0 < size then .ok (segmented packet ⟨size, h⟩)
  else .error (.violation (.notPositive .segmentSize size))

/-- Whether a channel accepts the message: packets need an internet recipient, an envelope needs
one if it names any. -/
def isSendable : Message → Bool
  | empty => false
  | buffer _ => true
  | packet p | segmented p _ => p.recipient.any Address.isInternet
  | envelope _ recipient => recipient.all Address.isInternet

@[simp] theorem content_withContent (message : Message) (content : Buffer)
    (h : message ≠ empty) : (message.withContent content).content = content := by
  cases message <;> first | rfl | exact absurd rfl h

@[simp] theorem withContent_content (message : Message) :
    message.withContent message.content = message := by
  cases message <;> rfl

@[simp] theorem recipient_withContent (message : Message) (content : Buffer) :
    (message.withContent content).recipient = message.recipient := by
  cases message <;> rfl

@[simp] theorem segmentSize_withContent (message : Message) (content : Buffer) :
    (message.withContent content).segmentSize = message.segmentSize := by
  cases message <;> rfl

end Message

end UdpTransport
