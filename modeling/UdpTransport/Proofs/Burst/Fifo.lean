import UdpTransport.Endpoint.Memory
import UdpTransport.Proofs.Effects

/-!
# Endpoints that serve a queue

What a burst delivers is a statement about the datagrams that wait at the endpoint. A
`FifoEndpoint` is an endpoint whose waiting datagrams are known: each receive takes the oldest one,
cut to the room that there is, and asking for addresses takes none. In-memory endpoints are such
endpoints (`MemoryEndpoint.fifo`).
-/

namespace UdpTransport

/-- A datagram that waits to be received. -/
structure Waiting where
  bytes : Bytes
  sender : Address
  /-- The local address that it was sent to, if the endpoint can tell. -/
  local? : Option Address
  deriving DecidableEq, Repr

namespace Waiting

/-- Whether there is nothing in it. -/
def isEmpty (datagram : Waiting) : Bool := datagram.bytes.isEmpty

/-- What a receive of any sender gives of it. -/
def received (room : Nat) (datagram : Waiting) : Received where
  bytes := datagram.bytes.take room
  amount := (datagram.bytes.take room).length
  sender := datagram.sender
  local? := datagram.local?

/-- What a read of the connected peer gives of it. -/
def incoming (room : Nat) (datagram : Waiting) : Incoming :=
  ⟨datagram.bytes.take room, (datagram.bytes.take room).length⟩

end Waiting

/-- Endpoints that hold queues of datagrams and serve them first come, first served. -/
structure FifoEndpoint (ε : Type) [Endpoint ε] where
  /-- The endpoint is open and these datagrams wait, the oldest first. -/
  Holds : ε → List Waiting → Prop
  localAddress : Address
  remote : Option Address
  isOpen : ∀ {endpoint queue}, Holds endpoint queue → Endpoint.isOpen endpoint = true
  receive : ∀ {endpoint queue}, Holds endpoint queue → ∀ access room native,
    ∃ endpoint' native', (Endpoint.receive access room).run (endpoint, native) =
        .ok (queue.head?.map (·.received room)) (endpoint', native') ∧
      Holds endpoint' queue.tail
  /-- Where nothing waits, a read reports no bytes. -/
  read : ∀ {endpoint queue}, Holds endpoint queue → ∀ access room native,
    ∃ endpoint' native', (Endpoint.read access room).run (endpoint, native) =
        .ok ((queue.head?.map (·.incoming room)).getD ⟨[], 0⟩) (endpoint', native') ∧
      Holds endpoint' queue.tail
  run_localAddress : ∀ {endpoint queue}, Holds endpoint queue → ∀ native,
    ∃ endpoint' native', (Endpoint.localAddress : NativeAct ε Address).run (endpoint, native) =
        .ok localAddress (endpoint', native') ∧
      Holds endpoint' queue
  run_remoteAddress : ∀ {endpoint queue}, Holds endpoint queue → ∀ native,
    ∃ endpoint' native',
      (Endpoint.remoteAddress : NativeAct ε (Option Address)).run (endpoint, native) =
        .ok remote (endpoint', native') ∧
      Holds endpoint' queue

namespace MemoryEndpoint

/-- How a datagram is laid down in an in-memory endpoint. -/
def laidDown (datagram : Waiting) : Inbound :=
  .datagram datagram.bytes datagram.sender datagram.local? none

/-- An in-memory endpoint takes what was laid down first. -/
theorem run_nextInbound {endpoint : MemoryEndpoint} {queue : List Waiting}
    (hopen : endpoint.isOpen = true) (hinbound : endpoint.inbound = queue.map laidDown)
    (connected : Bool) (access : Access) (room : Nat) (native : Native) :
    ∃ native', (nextInbound connected access room).run (endpoint, native) =
      .ok ((queue.head?.map laidDown).getD .nothing)
        ({ endpoint with inbound := queue.tail.map laidDown }, native') := by
  obtain ⟨_, _, _, _, inbound, _, _, _, isOpen⟩ := endpoint
  cases hopen
  cases hinbound
  cases queue with
  | nil => exact ⟨_, rfl⟩
  | cons datagram rest => exact ⟨_, rfl⟩

/-- In-memory endpoints serve what was laid down to be received. -/
def fifo (localAddress : Address) (remote : Option Address) : FifoEndpoint MemoryEndpoint where
  Holds endpoint queue :=
    endpoint.isOpen = true ∧ endpoint.inbound = queue.map laidDown ∧
      endpoint.localAddress = localAddress ∧ endpoint.remote = remote
  localAddress := localAddress
  remote := remote
  isOpen h := h.1
  receive := by
    rintro endpoint queue ⟨hopen, hinbound, hlocal, hremote⟩ access room native
    obtain ⟨native', hnext⟩ := run_nextInbound hopen hinbound false access room native
    refine ⟨{ endpoint with inbound := queue.tail.map laidDown }, native', ?_, hopen, rfl,
      hlocal, hremote⟩
    refine (Act.bind_of_ok hnext).trans ?_
    cases queue with
    | nil => rfl
    | cons datagram rest => rfl
  read := by
    rintro endpoint queue ⟨hopen, hinbound, hlocal, hremote⟩ access room native
    obtain ⟨native', hnext⟩ := run_nextInbound hopen hinbound true access room native
    refine ⟨{ endpoint with inbound := queue.tail.map laidDown }, native', ?_, hopen, rfl,
      hlocal, hremote⟩
    refine (Act.bind_of_ok hnext).trans ?_
    cases queue with
    | nil => rfl
    | cons datagram rest => rfl
  run_localAddress := by
    rintro endpoint queue ⟨hopen, hinbound, rfl, hremote⟩ native
    exact ⟨endpoint, native, rfl, hopen, hinbound, rfl, hremote⟩
  run_remoteAddress := by
    rintro endpoint queue ⟨hopen, hinbound, hlocal, rfl⟩ native
    exact ⟨endpoint, native, rfl, hopen, hinbound, hlocal, rfl⟩

end MemoryEndpoint

end UdpTransport
