import UdpTransport.Endpoint.Memory
import UdpTransport.Proofs.Transfers

/-!
# What channels may rely on

An endpoint that belongs to one channel is closed by that channel only. `Endpoint.OpenWhileSending`
says so of sends, and holds of everything that a channel runs on.

An in-memory endpoint writes down what is asked of it and uses up what was laid down for it. A
relation that holds along both (`MemoryEndpoint.Draws`) holds along all that it does, apart from the
changes to its addresses and to whether it is open.
-/

namespace UdpTransport

/-- An endpoint that no send closes. -/
class Endpoint.OpenWhileSending (ε : Type) [Endpoint ε] : Prop where
  isOpen_send : ∀ (request : SendRequest) (s : ε × Native), Endpoint.isOpen s.1 = true →
    Endpoint.isOpen ((Endpoint.send request : NativeAct ε Int).after s).1 = true

/-! ## In-memory endpoints -/

/-- What an in-memory endpoint writes down: that something was asked of it. -/
def Event.isRequest : Event → Bool
  | .send .. | .receive .. | .bind .. | .connect .. | .disconnect _ | .close _ => true
  | _ => false

namespace MemoryEndpoint

/-- A relation that holds along what an in-memory endpoint writes down, and along using up what was
laid down for it. -/
structure Draws (R : MemoryEndpoint × Native → MemoryEndpoint × Native → Prop) : Prop where
  record : ∀ (s : MemoryEndpoint × Native) event, event.isRequest = true →
    R s (s.1, { s.2 with journal := s.2.journal.push event })
  results : ∀ (s : MemoryEndpoint × Native) results, R s ({ s.1 with results := results }, s.2)
  failures : ∀ (s : MemoryEndpoint × Native) failures,
    R s ({ s.1 with failures := failures }, s.2)
  inbound : ∀ s : MemoryEndpoint × Native, R s ({ s.1 with inbound := s.1.inbound.tail }, s.2)

variable {R R' : MemoryEndpoint × Native → MemoryEndpoint × Native → Prop}

theorem Draws.mono (h : Draws R) (himp : ∀ s s', R s s' → R' s s') : Draws R' where
  record s event hrequest := himp _ _ (h.record s event hrequest)
  results s results := himp _ _ (h.results s results)
  failures s failures := himp _ _ (h.failures s failures)
  inbound s := himp _ _ (h.inbound s)

theorem Draws.note (h : Draws R) {event : Event} (hrequest : event.isRequest = true) :
    Act.Within R (liftM (Native.record event) : MemoryAct Unit) :=
  fun s => h.record s event hrequest

/-- A receive takes what is laid down first, if the endpoint is open. -/
theorem after_nextInbound (connected : Bool) (access : Access) (room : Nat)
    (s : MemoryEndpoint × Native) :
    (nextInbound connected access room).after s =
      (if s.1.isOpen then { s.1 with inbound := s.1.inbound.tail } else s.1,
        { s.2 with journal := s.2.journal.push (.receive s.1.channel connected access room) }) := by
  obtain ⟨⟨_, _, _, _, inbound, _, _, _, isOpen⟩, native⟩ := s
  cases isOpen with
  | false => rfl
  | true => cases inbound <;> rfl

variable [IsPreorder (MemoryEndpoint × Native) R]

theorem Draws.nextInbound (h : Draws R) (connected : Bool) (access : Access) (room : Nat) :
    Act.Within R (nextInbound connected access room) := by
  intro s
  rw [after_nextInbound]
  have hnoted := h.record s (.receive s.1.channel connected access room) rfl
  split
  · exact trans_of R hnoted (h.inbound _)
  · exact hnoted

theorem Draws.read (h : Draws R) (access : Access) (room : Nat) :
    Act.Within R (read access room) := by
  refine Act.within_bind (h.nextInbound true access room) fun item => ?_
  cases item with
  | failed fault => exact Act.within_throw _
  | nothing => exact Act.within_pure _
  | datagram bytes sender local? reported => exact Act.within_pure _

theorem Draws.receive (h : Draws R) (access : Access) (room : Nat) :
    Act.Within R (receive access room) := by
  refine Act.within_bind (h.nextInbound false access room) fun item => ?_
  cases item with
  | failed fault => exact Act.within_throw _
  | nothing => exact Act.within_pure _
  | datagram bytes sender local? reported => exact Act.within_pure _

theorem Draws.send (h : Draws R) (request : SendRequest) : Act.Within R (send request) := by
  refine Act.within_bind (Act.within_of_after fun _ => rfl) fun endpoint => ?_
  cases endpoint.results with
  | nil => exact Act.within_bind (h.note rfl) fun _ => Act.within_pure _
  | cons outcome rest =>
    refine Act.within_bind (Act.within_modify fun s => h.results s rest) fun _ => ?_
    cases outcome with
    | taken amount =>
      refine Act.within_bind (h.note rfl) fun _ => ?_
      cases request.payload with
      | gather _ => exact Act.within_pure _
      | single _ _ => exact Act.within_pure _
    | failed fault => exact Act.within_bind (h.note rfl) fun _ => Act.within_throw _

theorem Draws.failIfAsked (h : Draws R) (step : EndpointStep) :
    Act.Within R (failIfAsked step) := by
  refine Act.within_bind (Act.within_of_after fun _ => rfl) fun endpoint => ?_
  cases endpoint.failures.lookup step with
  | none => exact Act.within_pure ()
  | some fault =>
    exact Act.within_bind (Act.within_modify fun s => h.failures s _) fun _ =>
      Act.within_throw fault

/-- A request that is written down, may fail as laid down, and changes the endpoint. -/
theorem Draws.asked (h : Draws R) (event : String → Event)
    (hrequest : ∀ channel, (event channel).isRequest = true) (step : EndpointStep)
    {f : MemoryEndpoint → MemoryEndpoint} (hf : ∀ s, R s (f s.1, s.2)) :
    Act.Within R (do
      Native.record (event (← current).channel)
      MemoryEndpoint.failIfAsked step
      change f : MemoryAct Unit) := by
  refine Act.within_bind (Act.within_of_after fun _ => rfl) fun endpoint => ?_
  refine Act.within_bind (h.note (hrequest _)) fun _ => ?_
  exact Act.within_bind (h.failIfAsked step) fun _ => Act.within_modify hf

/-- An endpoint is closed even if it is asked to fail then. -/
theorem Draws.close (h : Draws R) (hclosed : ∀ s, R s ({ s.1 with isOpen := false }, s.2)) :
    Act.Within R (Endpoint.close : MemoryAct Unit) := by
  refine Act.within_bind (Act.within_of_after fun _ => rfl) fun endpoint => ?_
  refine Act.within_bind (h.note rfl) fun _ => ?_
  exact Act.within_bind (Act.within_modify hclosed) fun _ => h.failIfAsked .close

/-- What is laid down for an endpoint has no part in whether it is open. -/
theorem draws_isOpen : Draws (Act.Fixing fun s => s.1.isOpen) where
  record _ _ _ := rfl
  results _ _ := rfl
  failures _ _ := rfl
  inbound _ := rfl

instance : Endpoint.OpenWhileSending MemoryEndpoint where
  isOpen_send request s hopen := (draws_isOpen.send request s).trans hopen

end MemoryEndpoint

/-! ## Sockets -/

instance : Endpoint.OpenWhileSending Socket where
  isOpen_send request s hopen := by
    obtain ⟨hsocket, -⟩ := Socket.across_serve Native.conducts_anyhow.toCarries request s
    exact (congrArg Socket.isOpen hsocket).trans hopen

/-! ## Either of them -/

namespace ChannelEndpoint

variable {α : Type} {onMemory : NativeAct MemoryEndpoint α} {onSocket : SocketAct α}

theorem after_either_memory (endpoint : MemoryEndpoint) (native : Native) :
    (either onMemory onSocket).after (memory endpoint, native) =
      (memory (onMemory.after (endpoint, native)).1, (onMemory.after (endpoint, native)).2) := by
  cases hrun : onMemory.run (endpoint, native) with
  | ok a s =>
    have heither : (either onMemory onSocket).run (memory endpoint, native) =
        .ok a (memory s.1, s.2) := by
      show either onMemory onSocket (memory endpoint, native) = _
      simp only [either, hrun]
    rw [Act.after_of_ok heither, Act.after_of_ok hrun]
  | error fault s =>
    have heither : (either onMemory onSocket).run (memory endpoint, native) =
        .error fault (memory s.1, s.2) := by
      show either onMemory onSocket (memory endpoint, native) = _
      simp only [either, hrun]
    rw [Act.after_of_error heither, Act.after_of_error hrun]

theorem after_either_socket (endpoint : Socket) (native : Native) :
    (either onMemory onSocket).after (socket endpoint, native) =
      (socket (onSocket.after (endpoint, native)).1, (onSocket.after (endpoint, native)).2) := by
  cases hrun : onSocket.run (endpoint, native) with
  | ok a s =>
    have heither : (either onMemory onSocket).run (socket endpoint, native) =
        .ok a (socket s.1, s.2) := by
      show either onMemory onSocket (socket endpoint, native) = _
      simp only [either, hrun]
    rw [Act.after_of_ok heither, Act.after_of_ok hrun]
  | error fault s =>
    have heither : (either onMemory onSocket).run (socket endpoint, native) =
        .error fault (socket s.1, s.2) := by
      show either onMemory onSocket (socket endpoint, native) = _
      simp only [either, hrun]
    rw [Act.after_of_error heither, Act.after_of_error hrun]

instance : Endpoint.OpenWhileSending ChannelEndpoint where
  isOpen_send request s hopen := by
    obtain ⟨endpoint, native⟩ := s
    cases endpoint with
    | memory endpoint =>
      show Endpoint.isOpen ((either (Endpoint.send request) (Endpoint.send request)).after
        (memory endpoint, native)).1 = true
      rw [after_either_memory]
      exact Endpoint.OpenWhileSending.isOpen_send request (endpoint, native) hopen
    | socket endpoint =>
      show Endpoint.isOpen ((either (Endpoint.send request) (Endpoint.send request)).after
        (socket endpoint, native)).1 = true
      rw [after_either_socket]
      exact Endpoint.OpenWhileSending.isOpen_send request (endpoint, native) hopen

end ChannelEndpoint

end UdpTransport
