import UdpTransport.Bytes

/-!
# Control messages

Beside a datagram the system passes control messages through one buffer. Each has a header of 16
bytes (its length with the header, its level, its type) and data that is padded to a multiple of 8
bytes. `ControlMessage.store` lays messages out as long as they fit; `ControlMessage.views` walks
over such a buffer and gives for each message the memory that begins with its data.
-/

namespace UdpTransport

/-- A control message that arrives with a datagram. -/
structure ControlMessage where
  level : Int
  type : Int
  data : Bytes
  deriving DecidableEq, Repr

/-- A control message as its receiver sees it: `memory` begins with the data and goes on with
whatever follows in the buffer. -/
structure ControlView where
  level : Nat
  type : Nat
  memory : Bytes
  deriving DecidableEq, Repr

namespace ControlMessage

/-- Length of the header. -/
abbrev headerLength : Nat := 16

/-- The next multiple of eight. -/
def aligned (n : Nat) : Nat := (n + 7) / 8 * 8

/-- The room that a message takes, padding included. -/
def space (message : ControlMessage) : Nat := headerLength + aligned message.data.length

/-- A message as laid out in the buffer. -/
def layout (message : ControlMessage) : Bytes :=
  Bytes.encodeLittle 8 (headerLength + message.data.length) ++
    Bytes.encodeWord message.level ++
    Bytes.encodeWord message.type ++
    Bytes.fit (aligned message.data.length) message.data

/-- Lays messages out up to the first that does not fit. -/
def store (room : Nat) : List ControlMessage → Bytes
  | [] => []
  | message :: rest =>
    if message.space ≤ room then message.layout ++ store (room - message.space) rest else []

/-- The messages of a buffer; `fuel` bounds their number. -/
def viewsWithin : (fuel : Nat) → Bytes → List ControlView
  | 0, _ => []
  | fuel + 1, buffer =>
    if buffer.length < headerLength then []
    else
      let length := Bytes.littleEndian (Bytes.window buffer 0 8)
      let view : ControlView :=
        { level := Bytes.littleEndian (Bytes.window buffer 8 4)
          type := Bytes.littleEndian (Bytes.window buffer 12 4)
          memory := buffer.drop headerLength }
      view :: viewsWithin fuel (buffer.drop (aligned length))

/-- The messages of a buffer, in order. -/
def views (buffer : Bytes) : List ControlView := viewsWithin (buffer.length / headerLength) buffer

end ControlMessage

end UdpTransport
