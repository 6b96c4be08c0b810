import UdpTransport.Address.Basic
import UdpTransport.Kernel.Call
import UdpTransport.Kernel.Control

/-!
# The system behind the calls

`Kernel` answers system calls. For each kind of call it has a plan: answers laid down beforehand,
one for each call. Where the plan is at its end, or leaves the answer open, the call does what one
expects of it: descriptors are handed out in order and never reused, flags, options and addresses
are stored and read back, sends take everything, and nothing ever arrives. A call that stores
something does so whenever it does not fail, also if its answer was laid down. A number below zero
that was laid down is a failure without an error number of its own.

As the plans are arbitrary, a statement about all kernels is a statement about everything that the
system may answer.
-/

namespace UdpTransport

/-- A datagram that the system has for a receiver. -/
structure Arrival where
  bytes : Bytes
  sender : Bytes
  controls : List ControlMessage
  deriving DecidableEq, Repr

/-- What a receive with all details gives. -/
structure Reception where
  /-- The bytes that fit. -/
  bytes : Bytes
  sender : Bytes
  /-- The control messages that fit, as laid out. -/
  control : Bytes
  /-- Whether bytes were cut off. -/
  truncated : Bool
  deriving DecidableEq, Repr

/-- Answers laid down beforehand for one kind of call; where one is left open, the call does what it
does by itself. -/
abbrev Plan (α : Type) := List (Option (Answer α))

/-- Answers laid down beforehand, by kind of call. -/
structure Script where
  socket : Plan Int := []
  close : Plan Int := []
  flags : Plan Int := []
  setOption : Plan Int := []
  getOption : Plan Int := []
  bind : Plan Int := []
  connect : Plan Int := []
  socketName : Plan Bytes := []
  peerName : Plan Bytes := []
  receive : Plan Bytes := []
  receiveMessage : Plan Arrival := []
  sendMessage : Plan Int := []
  createInterestSet : Plan Int := []
  changeInterest : Plan Int := []
  wait : Plan (List (Nat × Nat)) := []
  deriving DecidableEq, Repr

/-- Answers laid down after others. -/
def Script.append (first second : Script) : Script where
  socket := first.socket ++ second.socket
  close := first.close ++ second.close
  flags := first.flags ++ second.flags
  setOption := first.setOption ++ second.setOption
  getOption := first.getOption ++ second.getOption
  bind := first.bind ++ second.bind
  connect := first.connect ++ second.connect
  socketName := first.socketName ++ second.socketName
  peerName := first.peerName ++ second.peerName
  receive := first.receive ++ second.receive
  receiveMessage := first.receiveMessage ++ second.receiveMessage
  sendMessage := first.sendMessage ++ second.sendMessage
  createInterestSet := first.createInterestSet ++ second.createInterestSet
  changeInterest := first.changeInterest ++ second.changeInterest
  wait := first.wait ++ second.wait

/-- What the system keeps about a socket. -/
structure SocketFile where
  domain : Int := 0
  flags : Int := 2
  options : List ((Int × Int) × Bytes) := []
  localAddress : Option Bytes := none
  peer : Option Bytes := none
  deriving DecidableEq, Repr

/-- The system: its answers laid down, its open files, and the next descriptor. -/
structure Kernel where
  script : Script := {}
  nextDescriptor : Int := 3
  files : List (Int × SocketFile) := []
  deriving DecidableEq, Repr

namespace Kernel

/-- The port that the system chooses where none is asked for. -/
abbrev ephemeralPort : Nat := 40000

/-- What is kept about a descriptor. -/
def file (kernel : Kernel) (fd : Int) : SocketFile := (kernel.files.lookup fd).getD {}

/-- Replaces what is kept about a descriptor. -/
def store (kernel : Kernel) (fd : Int) (file : SocketFile) : Kernel :=
  { kernel with files := (fd, file) :: kernel.files.filter (·.1 != fd) }

/-- The next answer of a plan, or what the call does by itself. -/
def answer {α β : Type} (plan : Script → Plan α) (drop : Script → Script)
    (given : α → β) (own : Kernel → Answer β × Kernel) (kernel : Kernel) : Answer β × Kernel :=
  match plan kernel.script with
  | [] => own kernel
  | head :: _ =>
    let kernel := { kernel with script := drop kernel.script }
    match head with
    | some answer => (answer.map given, kernel)
    | none => own kernel

theorem answer_of_nil {α β : Type} {plan : Script → Plan α} {kernel : Kernel}
    (h : plan kernel.script = []) (drop : Script → Script) (given : α → β)
    (own : Kernel → Answer β × Kernel) : answer plan drop given own kernel = own kernel := by
  simp [answer, h]

theorem answer_of_some {α β : Type} {plan : Script → Plan α} {kernel : Kernel}
    {head : Answer α} {rest : Plan α} (h : plan kernel.script = some head :: rest)
    (drop : Script → Script) (given : α → β) (own : Kernel → Answer β × Kernel) :
    answer plan drop given own kernel =
      (head.map given, { kernel with script := drop kernel.script }) := by
  simp [answer, h]

theorem answer_of_none {α β : Type} {plan : Script → Plan α} {kernel : Kernel} {rest : Plan α}
    (h : plan kernel.script = none :: rest) (drop : Script → Script) (given : α → β)
    (own : Kernel → Answer β × Kernel) :
    answer plan drop given own kernel =
      own { kernel with script := drop kernel.script } := by
  simp [answer, h]

/-- Like `answer` for a call that stores something: it does so unless it fails. -/
def storing (plan : Script → Plan Int) (drop : Script → Script)
    (effect : Kernel → Kernel) (kernel : Kernel) : Answer Int × Kernel :=
  match answer plan drop id (fun kernel => (.value 0, kernel)) kernel with
  | (.value n, kernel) => (.value n, if n < 0 then kernel else effect kernel)
  | (.failure code, kernel) => (.failure code, kernel)

/-- Like `answer` for a call that hands out a descriptor: unless it fails, the next one is used up
and gets the file, also if another number was laid down to be told. -/
def handingOut (plan : Script → Plan Int) (drop : Script → Script) (file : SocketFile)
    (kernel : Kernel) : Answer Int × Kernel :=
  match answer plan drop some (fun kernel => (.value none, kernel)) kernel with
  | (.value told, kernel) =>
    let fd := kernel.nextDescriptor
    let told := told.getD fd
    (.value told,
      if told < 0 then kernel else { kernel with nextDescriptor := fd + 1 }.store fd file)
  | (.failure code, kernel) => (.failure code, kernel)

/-- Makes a socket. -/
def socket (domain : Int) : Kernel → Answer Int × Kernel :=
  handingOut Script.socket (fun s => { s with socket := s.socket.tail }) { domain := domain }

/-- Closes a descriptor. -/
def close : Kernel → Answer Int × Kernel :=
  answer Script.close (fun s => { s with close := s.close.tail }) id
    fun kernel => (.value 0, kernel)

/-- Reads the flags of a descriptor. -/
def getFlags (fd : Int) : Kernel → Answer Int × Kernel :=
  answer Script.flags (fun s => { s with flags := s.flags.tail }) id
    fun kernel => (.value (kernel.file fd).flags, kernel)

/-- Sets the flags of a descriptor. -/
def setFlags (fd flags : Int) : Kernel → Answer Int × Kernel :=
  storing Script.flags (fun s => { s with flags := s.flags.tail }) fun kernel =>
    kernel.store fd { kernel.file fd with flags := flags }

/-- Sets an option. -/
def setOption (fd level name : Int) (value : Bytes) : Kernel → Answer Int × Kernel :=
  storing Script.setOption (fun s => { s with setOption := s.setOption.tail }) fun kernel =>
    let file := kernel.file fd
    kernel.store fd { file with
      options := ((level, name), value) :: file.options.filter (·.1 != (level, name)) }

/-- A 32-bit number as the value of an option. -/
def optionValue (n : Int) : Bytes := Bytes.encodeWord n

/-- Reads an option into `room` bytes. -/
def getOption (fd level name : Int) (room : Nat) : Kernel → Answer Bytes × Kernel :=
  answer Script.getOption (fun s => { s with getOption := s.getOption.tail })
    (fun n => (optionValue n).take room) fun kernel =>
      let file := kernel.file fd
      let value :=
        if level = Number.socketLevel ∧ name = Number.domain then optionValue file.domain
        else (file.options.lookup (level, name)).getD (Bytes.zeros 4)
      (.value (value.take room), kernel)

/-- An address whose port the system has filled in. -/
def withEphemeralPort (address : Bytes) : Bytes :=
  if 4 ≤ address.length ∧ Address.rawPort address = 0 then
    address.take 2 ++ Bytes.encodeBig 2 ephemeralPort ++ address.drop 4
  else address

/-- The address without host and port of a family. -/
def zeroAddress (domain : Int) (port : Nat) : Bytes :=
  if domain = Family.ipv6 then Address.raw6 port (Bytes.zeros 16) 0
  else Address.raw4 port (Bytes.zeros 4)

/-- Binds a socket to a local address. -/
def bind (fd : Int) (address : Bytes) : Kernel → Answer Int × Kernel :=
  storing Script.bind (fun s => { s with bind := s.bind.tail }) fun kernel =>
    kernel.store fd { kernel.file fd with localAddress := some (withEphemeralPort address) }

/-- Connects a socket, or disconnects it from an address without family. -/
def connect (fd : Int) (address : Bytes) : Kernel → Answer Int × Kernel :=
  storing Script.connect (fun s => { s with connect := s.connect.tail }) fun kernel =>
    let file := kernel.file fd
    let file :=
      if Address.rawFamily address = Family.unspecified then { file with peer := none }
      else { file with
        peer := some address
        localAddress := some
          (file.localAddress.getD (zeroAddress file.domain ephemeralPort)) }
    kernel.store fd file

/-- The local address of a socket. -/
def socketName (fd : Int) : Kernel → Answer Bytes × Kernel :=
  answer Script.socketName (fun s => { s with socketName := s.socketName.tail }) id fun kernel =>
    let file := kernel.file fd
    (.value (file.localAddress.getD (zeroAddress file.domain 0)), kernel)

/-- The peer of a socket. -/
def peerName (fd : Int) : Kernel → Answer Bytes × Kernel :=
  answer Script.peerName (fun s => { s with peerName := s.peerName.tail }) id fun kernel =>
    match (kernel.file fd).peer with
    | some peer => (.value peer, kernel)
    | none => (.failure ErrorCode.notConnected, kernel)

/-- Receives into `room` bytes. -/
def receive (room : Nat) : Kernel → Answer Bytes × Kernel :=
  answer Script.receive (fun s => { s with receive := s.receive.tail }) (·.take room)
    fun kernel => (.failure ErrorCode.tryAgain, kernel)

/-- Receives into `room` bytes, with the sender and control messages. -/
def receiveMessage (room controlRoom : Nat) : Kernel → Answer Reception × Kernel :=
  answer Script.receiveMessage (fun s => { s with receiveMessage := s.receiveMessage.tail })
    (fun arrival =>
      { bytes := arrival.bytes.take room
        sender := arrival.sender
        control := ControlMessage.store controlRoom arrival.controls
        truncated := room < arrival.bytes.length })
    fun kernel => (.failure ErrorCode.tryAgain, kernel)

/-- The number of bytes in regions. -/
def totalLength : List Region → Nat
  | [] => 0
  | region :: rest => region.length.toNat + totalLength rest

/-- Sends regions as one datagram. -/
def sendMessage (regions : List Region) : Kernel → Answer Int × Kernel :=
  answer Script.sendMessage (fun s => { s with sendMessage := s.sendMessage.tail }) id
    fun kernel => (.value (totalLength regions), kernel)

/-- Makes an interest set. -/
def createInterestSet : Kernel → Answer Int × Kernel :=
  handingOut Script.createInterestSet
    (fun s => { s with createInterestSet := s.createInterestSet.tail }) {}

/-- Changes an interest set. -/
def changeInterest : Kernel → Answer Int × Kernel :=
  answer Script.changeInterest (fun s => { s with changeInterest := s.changeInterest.tail }) id
    fun kernel => (.value 0, kernel)

/-- Waits for readiness; gives up to `maxEvents` pairs of entry and readiness. -/
def wait (maxEvents : Nat) : Kernel → Answer (List (Nat × Nat)) × Kernel :=
  answer Script.wait (fun s => { s with wait := s.wait.tail }) (·.take maxEvents)
    fun kernel => (.value [], kernel)

end Kernel

end UdpTransport
