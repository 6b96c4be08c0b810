import UdpTransport.Proofs.Endpoints
import UdpTransport.Proofs.Registry.Sight

/-!
# Endpoints and interest

Interest is between a channel and its registration, and between event loops and the system. An
endpoint takes no part in it while it sends, receives and names addresses: it stays open or closed
as it was, keeps its descriptor, and makes no call that an interest set depends on
(`Endpoint.Bystander`). In particular it changes no interest and uses up no answer to a change of
one (`Endpoint.Aloof`). Everything that a channel runs on is like that.
-/

namespace UdpTransport

namespace Endpoint

variable {ε : Type} [Endpoint ε]

/-- What a channel's interest takes from below: whether the endpoint is open, and the board. -/
def footing (s : ε × Native) : Bool × Board := (Endpoint.isOpen s.1, s.2.board)

/-- An endpoint whose datagrams and addresses are no matter of interest. -/
class Aloof (ε : Type) [Endpoint ε] : Prop where
  within_localAddress :
    Act.Within (Act.Fixing footing) (Endpoint.localAddress : NativeAct ε Address)
  within_remoteAddress :
    Act.Within (Act.Fixing footing) (Endpoint.remoteAddress : NativeAct ε (Option Address))
  within_send : ∀ request, Act.Within (Act.Fixing footing) (Endpoint.send request : NativeAct ε Int)
  within_read : ∀ access room,
    Act.Within (Act.Fixing footing) (Endpoint.read access room : NativeAct ε Incoming)
  within_receive : ∀ access room,
    Act.Within (Act.Fixing footing) (Endpoint.receive access room : NativeAct ε (Option Received))

/-- What interest sets take from below: whether the endpoint is open, its descriptor, and what else
interest sets depend on. -/
def outlook (s : ε × Native) : Bool × Int × Sight :=
  (Endpoint.isOpen s.1, Endpoint.descriptor s.1, s.2.sight)

/-- An endpoint whose datagrams and addresses are nothing to any interest set. -/
class Bystander (ε : Type) [Endpoint ε] : Prop where
  outlook_localAddress :
    Act.Within (Act.Fixing outlook) (Endpoint.localAddress : NativeAct ε Address)
  outlook_remoteAddress :
    Act.Within (Act.Fixing outlook) (Endpoint.remoteAddress : NativeAct ε (Option Address))
  outlook_send : ∀ request,
    Act.Within (Act.Fixing outlook) (Endpoint.send request : NativeAct ε Int)
  outlook_read : ∀ access room,
    Act.Within (Act.Fixing outlook) (Endpoint.read access room : NativeAct ε Incoming)
  outlook_receive : ∀ access room,
    Act.Within (Act.Fixing outlook) (Endpoint.receive access room : NativeAct ε (Option Received))
  outlook_bind : ∀ address,
    Act.Within (Act.Fixing outlook) (Endpoint.bind address : NativeAct ε Unit)
  outlook_connect : ∀ address,
    Act.Within (Act.Fixing outlook) (Endpoint.connect address : NativeAct ε Unit)
  outlook_disconnect : Act.Within (Act.Fixing outlook) (Endpoint.disconnect : NativeAct ε Unit)

theorem within_footing_of_outlook {α : Type} {act : NativeAct ε α}
    (h : Act.Within (Act.Fixing outlook) act) : Act.Within (Act.Fixing footing) act := by
  refine h.mono fun s s' hsame => ?_
  have hopen : Endpoint.isOpen s'.1 = Endpoint.isOpen s.1 := congrArg Prod.fst hsame
  have hsight : s'.2.sight = s.2.sight := congrArg (fun outlook => outlook.2.2) hsame
  exact Prod.ext hopen (Native.board_of_sight hsight)

instance [Bystander ε] : Aloof ε where
  within_localAddress := within_footing_of_outlook Bystander.outlook_localAddress
  within_remoteAddress := within_footing_of_outlook Bystander.outlook_remoteAddress
  within_send request := within_footing_of_outlook (Bystander.outlook_send request)
  within_read access room := within_footing_of_outlook (Bystander.outlook_read access room)
  within_receive access room := within_footing_of_outlook (Bystander.outlook_receive access room)

instance [Aloof ε] : OpenWhileSending ε where
  isOpen_send request s hopen := (congrArg Prod.fst (Aloof.within_send request s)).trans hopen

theorem within_lift_footing {α : Type} {act : Act Native α}
    (h : Act.Within (Act.Fixing Native.board) act) :
    Act.Within (Act.Fixing footing) (liftM act : NativeAct ε α) := by
  intro s
  rw [Act.Fixing, Channel.after_lift_plain]
  exact congrArg (Prod.mk _) (h s.2)

theorem within_lift_outlook {α : Type} {act : Act Native α}
    (h : Act.Within (Act.Fixing Native.sight) act) :
    Act.Within (Act.Fixing outlook) (liftM act : NativeAct ε α) := by
  intro s
  rw [Act.Fixing, Channel.after_lift_plain]
  exact congrArg (fun sight => (_, _, sight)) (h s.2)

end Endpoint

/-! ## In-memory endpoints -/

/-- What is asked of an in-memory endpoint has nothing to do with interest. -/
theorem Event.matters_of_isRequest {event : Event} (h : event.isRequest = true) :
    event.matters = false := by
  cases event <;> first | rfl | cases h

namespace MemoryEndpoint

open Endpoint (outlook)

theorem draws_outlook : Draws (Act.Fixing outlook) where
  record s _ hrequest := Endpoint.within_lift_outlook
    (Native.within_sight_record (Event.matters_of_isRequest hrequest)) s
  results _ _ := rfl
  failures _ _ := rfl
  inbound _ := rfl

instance : Endpoint.Bystander MemoryEndpoint where
  outlook_localAddress := Act.within_of_after fun _ => rfl
  outlook_remoteAddress := Act.within_of_after fun _ => rfl
  outlook_send := draws_outlook.send
  outlook_read := draws_outlook.read
  outlook_receive := draws_outlook.receive
  outlook_bind address :=
    draws_outlook.asked (.bind · address) (fun _ => rfl) .bind fun _ => rfl
  outlook_connect address :=
    draws_outlook.asked (.connect · address) (fun _ => rfl) .connect fun _ => rfl
  outlook_disconnect := draws_outlook.asked .disconnect (fun _ => rfl) .disconnect fun _ => rfl

end MemoryEndpoint

/-! ## Sockets -/

namespace Kernel

theorem script_peerName (fd : Int) (kernel : Kernel) :
    (peerName fd kernel).2.script.changeInterest = kernel.script.changeInterest := by
  unfold peerName
  refine changeInterest_answer ?_ (fun kernel => ?_) kernel
  · exact fun _ => rfl
  split <;> rfl

end Kernel

/-- What a socket asks of the system has nothing to do with interest sets. -/
theorem Native.conducts_sight : Native.Conducts (Act.Fixing Native.sight) where
  socketName _ := Native.within_sight_perform (fun _ => rfl)
    (Kernel.changeInterest_answer (fun _ => rfl) fun _ => rfl)
  peerName fd := Native.within_sight_perform (fun _ => rfl) (Kernel.script_peerName fd)
  receive _ _ := Native.within_sight_perform (fun _ => rfl)
    (Kernel.changeInterest_answer (fun _ => rfl) fun _ => rfl)
  receiveMessage _ _ := Native.within_sight_perform (fun _ => rfl)
    (Kernel.changeInterest_answer (fun _ => rfl) fun _ => rfl)
  sendMessage _ _ _ _ := Native.within_sight_perform (fun _ => rfl)
    (Kernel.changeInterest_answer (fun _ => rfl) fun _ => rfl)
  log := Native.within_sight_writeLog
  bind _ _ := Native.within_sight_attempt (fun _ => rfl)
    (Kernel.changeInterest_storing (fun _ => rfl) fun _ => rfl)
  connect _ _ := Native.within_sight_attempt (fun _ => rfl)
    (Kernel.changeInterest_storing (fun _ => rfl) fun _ => rfl)

namespace Socket

open Endpoint (outlook)

/-- A socket keeps its descriptor while it is bound and connected. -/
theorem spans_outlook : Spans (Act.Fixing Native.sight) (Act.Fixing outlook) where
  across s s' hacross := by
    obtain ⟨hsocket, hsight⟩ := hacross
    have hsame : s'.2.sight = s.2.sight := hsight
    simp only [Act.Fixing, outlook, hsocket, hsame]
  port _ _ := rfl
  bound _ := rfl
  connected _ := rfl

theorem outlook_of_across {α : Type} {act : SocketAct α}
    (h : Act.Within (Across (Act.Fixing Native.sight)) act) :
    Act.Within (Act.Fixing outlook) act := h.mono spans_outlook.across

instance : Endpoint.Bystander Socket where
  outlook_localAddress := outlook_of_across (across_localAddress Native.conducts_sight.toCarries)
  outlook_remoteAddress := outlook_of_across (across_remoteAddress Native.conducts_sight.toCarries)
  outlook_send request :=
    outlook_of_across (across_serve Native.conducts_sight.toCarries request)
  outlook_read access room :=
    outlook_of_across (across_endpoint_read Native.conducts_sight.toCarries access room)
  outlook_receive access room :=
    outlook_of_across (across_endpoint_receive Native.conducts_sight.toCarries access room)
  outlook_bind := spans_outlook.bind Native.conducts_sight
  outlook_connect := spans_outlook.connect Native.conducts_sight
  outlook_disconnect := spans_outlook.disconnect Native.conducts_sight fun _ => rfl

end Socket

/-! ## Either of them -/

namespace ChannelEndpoint

theorem within_outlook_either {α : Type} {onMemory : NativeAct MemoryEndpoint α}
    {onSocket : SocketAct α} (hmemory : Act.Within (Act.Fixing Endpoint.outlook) onMemory)
    (hsocket : Act.Within (Act.Fixing Endpoint.outlook) onSocket) :
    Act.Within (Act.Fixing Endpoint.outlook) (either onMemory onSocket) := by
  rintro ⟨endpoint, native⟩
  cases endpoint with
  | memory endpoint =>
    rw [Act.Fixing, after_either_memory]
    exact hmemory (endpoint, native)
  | socket endpoint =>
    rw [Act.Fixing, after_either_socket]
    exact hsocket (endpoint, native)

instance : Endpoint.Bystander ChannelEndpoint where
  outlook_bind address :=
    within_outlook_either (Endpoint.Bystander.outlook_bind address)
      (Endpoint.Bystander.outlook_bind address)
  outlook_connect address :=
    within_outlook_either (Endpoint.Bystander.outlook_connect address)
      (Endpoint.Bystander.outlook_connect address)
  outlook_disconnect :=
    within_outlook_either Endpoint.Bystander.outlook_disconnect
      Endpoint.Bystander.outlook_disconnect
  outlook_localAddress :=
    within_outlook_either Endpoint.Bystander.outlook_localAddress
      Endpoint.Bystander.outlook_localAddress
  outlook_remoteAddress :=
    within_outlook_either Endpoint.Bystander.outlook_remoteAddress
      Endpoint.Bystander.outlook_remoteAddress
  outlook_send request :=
    within_outlook_either (Endpoint.Bystander.outlook_send request)
      (Endpoint.Bystander.outlook_send request)
  outlook_read access room :=
    within_outlook_either (Endpoint.Bystander.outlook_read access room)
      (Endpoint.Bystander.outlook_read access room)
  outlook_receive access room :=
    within_outlook_either (Endpoint.Bystander.outlook_receive access room)
      (Endpoint.Bystander.outlook_receive access room)

end ChannelEndpoint

end UdpTransport
