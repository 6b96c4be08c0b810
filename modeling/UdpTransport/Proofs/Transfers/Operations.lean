import UdpTransport.Proofs.Addresses.Translation
import UdpTransport.Proofs.Repetition

/-!
# The operations that transfer datagrams

A socket has many operations that transfer datagrams, over spans of memory or over memory at an
address, to the peer or to a recipient. A `Transfer` is such an operation with its arguments. This
module says of each which arguments it takes (`Transfer.Valid`), what it asks of the system
(`Transfer.Makes`), and what comes of an answer (`Transfer.outcome`).

Memory at an address is handed over as a span once its length is known not to be negative
(`run_span`), and in all that is said here the two forms do not differ.
-/

namespace UdpTransport

/-- The address that the system means by some bytes; an IPv4 host goes by its own address. -/
def Address.reported (raw : Bytes) : Address :=
  if rawFamily raw = Family.ipv6 ∧ isMapped (rawHost6 raw) = true then
    ofHost4 (rawPort raw) ((rawHost6 raw).drop 12)
  else ⟨raw.take capacity, by rw [List.length_take]; exact Nat.min_le_left ..⟩

theorem Address.ofNative_eq_reported {raw : Bytes} (hlength : raw.length ≤ capacity)
    (hnonempty : raw ≠ []) : ofNative raw raw.length = .ok (reported raw) := by
  unfold reported
  split
  · rename_i hmapped
    exact ofNative_of_mapped hlength hmapped.1 hmapped.2
  · rename_i hplain
    rw [ofNative_of_not_mapped hlength hnonempty hplain, Except.ok.injEq, mk.injEq,
      List.take_of_length_le hlength]

namespace Socket

/-! ## Transfers -/

/-- An operation that transfers datagrams, by what is laid down for its calls and what it gives.
Without a recipient it sends to the connected peer. -/
inductive Transfer : Type → Type → Type where
  | read (room : Nat) : Transfer Bytes Incoming
  | readAddress (length : Int) : Transfer Bytes Incoming
  | receive (room : Nat) : Transfer Arrival (Option Received)
  | receiveAddress (length : Int) : Transfer Arrival (Option Received)
  | send (bytes : Bytes) (recipient : Option Address) (segmentSize : Int) : Transfer Int Int
  | sendAddress (memory : Bytes) (length : Int) (recipient : Option Address) (segmentSize : Int) :
      Transfer Int Int
  | sendGather (gather : Gather) (recipient : Option Address) (segmentSize : Int) : Transfer Int Int

namespace Transfer

variable {β α : Type}

/-- Runs the operation. -/
def perform {β α : Type} : Transfer β α → SocketAct α
  | .read room => Socket.read room
  | .readAddress length => Socket.readAddress length
  | .receive room => Socket.receive room
  | .receiveAddress length => Socket.receiveAddress length
  | .send bytes recipient segmentSize => Socket.send bytes recipient segmentSize
  | .sendAddress memory length recipient segmentSize =>
    Socket.sendAddress memory length recipient segmentSize
  | .sendGather gather recipient segmentSize => Socket.sendGather gather recipient segmentSize

/-- The length of the memory at an address, which callers give as a signed number. -/
def length {β α : Type} : Transfer β α → Int
  | .readAddress length | .receiveAddress length | .sendAddress _ length _ _ => length
  | .read _ | .receive _ | .send .. | .sendGather .. => 0

/-- The same transfer with the memory at an address handed over as a span. -/
def span {β α : Type} : Transfer β α → Transfer β α
  | .readAddress length => .read length.toNat
  | .receiveAddress length => .receive length.toNat
  | .sendAddress memory length recipient segmentSize =>
    .send (Bytes.fit length.toNat memory) recipient segmentSize
  | .read room => .read room
  | .receive room => .receive room
  | .send bytes recipient segmentSize => .send bytes recipient segmentSize
  | .sendGather gather recipient segmentSize => .sendGather gather recipient segmentSize

/-- The room for what arrives. -/
def room {β α : Type} : Transfer β α → Nat
  | .read room | .receive room => room
  | .readAddress length | .receiveAddress length => length.toNat
  | .send .. | .sendAddress .. | .sendGather .. => 0

/-- What is to be sent. -/
def regions {β α : Type} : Transfer β α → List Region
  | .send bytes _ _ => [.ofBytes bytes]
  | .sendAddress memory length _ _ => [.ofBytes (Bytes.fit length.toNat memory)]
  | .sendGather gather _ _ => gather.regions
  | .read _ | .readAddress _ | .receive _ | .receiveAddress _ => []

/-- To whom it is to be sent, if to anybody else than the peer. -/
def recipient {β α : Type} : Transfer β α → Option Address
  | .send _ recipient _ | .sendAddress _ _ recipient _ | .sendGather _ recipient _ => recipient
  | .read _ | .readAddress _ | .receive _ | .receiveAddress _ => none

/-- The size of the segments that it is to be cut into, or zero. -/
def segmentSize {β α : Type} : Transfer β α → Int
  | .send _ _ size | .sendAddress _ _ _ size | .sendGather _ _ size => size
  | .read _ | .readAddress _ | .receive _ | .receiveAddress _ => 0

/-! ## What is asked of the system -/

/-- A socket of a family reaches this family, and one of IPv6 that of IPv4 as well. -/
def Reaches (family : Nat) (address : Address) : Prop :=
  address.family = family ∨ family = Family.ipv6 ∧ address.family = Family.ipv4

/-- Arguments that a transfer takes: no length is negative, the recipient is not of a foreign
family, and the segment size fits into its field. -/
structure Valid (socket : Socket) (transfer : Transfer β α) : Prop where
  length : 0 ≤ transfer.length
  recipient : ∀ address, transfer.recipient = some address → Reaches socket.family address
  segmentSize : transfer.segmentSize ≤ maxSegmentSize

/-- The control message that goes with a send: one that holds the segment size, if there is one. -/
structure Segments (segmentSize : Int) (control : Option SegmentControl) : Prop where
  isSome_iff : control.isSome ↔ 0 < segmentSize
  holds : ∀ message, control = some message →
    message.level = Number.udp ∧ message.type = Number.segment ∧ message.data.length = 2 ∧
      (Bytes.littleEndian message.data : Int) = segmentSize ∧
      message.length = ControlMessage.headerLength + message.data.length ∧
      message.room = ControlMessage.headerLength + ControlMessage.aligned message.data.length

/-- The name that goes with a send: the recipient in the form of the socket's family, if there is
one. -/
structure Names (family : Nat) (recipient : Option Address) (name : Option Bytes) : Prop where
  isSome_iff : name.isSome ↔ recipient.isSome
  translated : ∀ address, recipient = some address → ∃ raw, address.toNative family = .ok raw ∧
    name = some raw

/-- The system call that a transfer makes. -/
def Makes (socket : Socket) (transfer : Transfer β α) (call : SystemCall) : Prop :=
  match transfer with
  | .read _ | .readAddress _ => call = .receive socket.fd transfer.room 0
  | .receive _ | .receiveAddress _ =>
    call = .receiveMessage socket.fd transfer.room Address.capacity controlRoom 0
  | .send .. | .sendAddress .. | .sendGather .. =>
    ∃ name control, Names socket.family transfer.recipient name ∧
      Segments transfer.segmentSize control ∧
      call = .sendMessage socket.fd name transfer.regions control Number.noSignal

/-! ## What comes of an answer -/

/-- The answers laid down for the calls of a transfer. -/
def plan {β α : Type} : Transfer β α → Script → Plan β
  | .read _ | .readAddress _ => Script.receive
  | .receive _ | .receiveAddress _ => Script.receiveMessage
  | .send .. | .sendAddress .. | .sendGather .. => Script.sendMessage

/-- What the system answers by itself: nothing ever arrives, and a send takes everything. -/
def own {β α : Type} (transfer : Transfer β α) : Answer β :=
  match transfer with
  | .read _ | .readAddress _ | .receive _ | .receiveAddress _ => .failure ErrorCode.tryAgain
  | .send .. | .sendAddress .. | .sendGather .. => .value (Kernel.totalLength transfer.regions)

/-- The name of the system call in a fault. -/
def name : Transfer β α → String
  | .read _ | .readAddress _ => "recv"
  | .receive _ | .receiveAddress _ => "recvmsg"
  | .send .. | .sendAddress .. | .sendGather .. => "sendmsg"

/-- The number that the system call gives. -/
def count {β α : Type} (transfer : Transfer β α) (answered : β) : Int :=
  match transfer with
  | .read _ | .readAddress _ => (answered.take transfer.room).length
  | .receive _ | .receiveAddress _ => (answered.bytes.take transfer.room).length
  | .send .. | .sendAddress .. | .sendGather .. => answered

/-- What a transfer gives after a success. One stretch of memory tells the count as a number of 32
bits. -/
def taken {β α : Type} (socket : Socket) (transfer : Transfer β α) (answered : β) : α :=
  match transfer with
  | .read _ | .readAddress _ =>
    { bytes := answered.take transfer.room
      amount := (answered.take transfer.room).length }
  | .receive _ | .receiveAddress _ =>
    some
      { bytes := answered.bytes.take transfer.room
        amount := (answered.bytes.take transfer.room).length
        sender := .reported answered.sender
        local? := localOfControl socket.localPort
          (ControlMessage.views (ControlMessage.store controlRoom answered.controls)) }
  | .send .. | .sendAddress .. => Number.narrow answered
  | .sendGather .. => answered

/-- What a transfer gives if it would have to wait. -/
def idle {β α : Type} : Transfer β α → α
  | .read _ | .readAddress _ => ⟨[], 0⟩
  | .receive _ | .receiveAddress _ => none
  | .send .. | .sendAddress .. | .sendGather .. => 0

/-- What comes of an answer. A number below zero is a failure without an error number of its own. -/
def outcome (socket : Socket) (transfer : Transfer β α) (answer : Answer β) : Except Fault α :=
  match answer.failIf (fun answered => transfer.count answered < 0) 0 with
  | .value answered => .ok (transfer.taken socket answered)
  | .failure code =>
    if code = ErrorCode.tryAgain then .ok transfer.idle else .error (.native transfer.name code)

/-- Whoever sent what is received is named. -/
def NamesSender {β α : Type} : Transfer β α → Answer β → Prop
  | .receive _, .value arrival | .receiveAddress _, .value arrival =>
    arrival.sender ≠ [] ∧ arrival.sender.length ≤ Address.capacity
  | _, _ => True

/-- A transfer after `count` interruptions and another answer. -/
structure Settles (transfer : Transfer β α) (s : Socket × Native) (call : SystemCall) (count : Nat)
    (answer : Answer β) : Prop where
  socket : (transfer.perform.after s).1 = s.1
  calls : (transfer.perform.after s).2.calls = s.2.calls ++ List.replicate (count + 1) call
  result : transfer.perform.result s = transfer.outcome s.1 answer

/-! ## Memory at an address -/

section Span

variable {transfer : Transfer β α} {socket : Socket}

theorem checkedLength_of_nonneg {length : Int} (h : 0 ≤ length) :
    checkedLength length = .ok length.toNat := if_neg (Int.not_lt.mpr h)

theorem checkedLength_of_neg {length : Int} (h : length < 0) :
    checkedLength length = .error (.violation (.below .length length 0)) := if_pos h

/-- A length that is not below zero is taken as it is. -/
theorem run_bind_checkedLength {length : Int} (h : 0 ≤ length) (next : Nat → SocketAct α)
    (s : Socket × Native) :
    ((liftM (checkedLength length) : SocketAct Nat) >>= next).run s = (next length.toNat).run s :=
  Act.bind_of_ok (Act.ofExcept_ok_iff.mpr ⟨checkedLength_of_nonneg h, rfl⟩)

theorem run_bind_checkedLength_of_neg {length : Int} (h : length < 0) (next : Nat → SocketAct α)
    (s : Socket × Native) :
    ((liftM (checkedLength length) : SocketAct Nat) >>= next).run s =
      .error (.violation (.below .length length 0)) s := by
  rw [checkedLength_of_neg h]
  rfl

/-- **Memory at an address is handed over as a span.** -/
theorem run_span (h : 0 ≤ transfer.length) (s : Socket × Native) :
    transfer.perform.run s = transfer.span.perform.run s := by
  cases transfer with
  | readAddress length => exact run_bind_checkedLength h _ s
  | receiveAddress length => exact run_bind_checkedLength h _ s
  | sendAddress memory length recipient segmentSize => exact run_bind_checkedLength h _ s
  | _ => rfl

theorem valid_span (h : 0 ≤ transfer.length) :
    transfer.span.Valid socket ↔ transfer.Valid socket := by
  cases transfer <;>
    exact ⟨fun hvalid => ⟨h, hvalid.recipient, hvalid.segmentSize⟩,
      fun hvalid => ⟨Int.le_refl 0, hvalid.recipient, hvalid.segmentSize⟩⟩

theorem makes_span {call : SystemCall} :
    transfer.span.Makes socket call ↔ transfer.Makes socket call := by
  cases transfer <;> rfl

theorem outcome_span (answer : Answer β) :
    transfer.span.outcome socket answer = transfer.outcome socket answer := by
  cases transfer <;> rfl

theorem namesSender_span (answer : Answer β) :
    transfer.span.NamesSender answer ↔ transfer.NamesSender answer := by
  cases transfer <;> cases answer <;> rfl

end Span

end Transfer

end Socket

end UdpTransport
