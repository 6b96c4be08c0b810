import UdpTransport.Channel.Outbound
import UdpTransport.Proofs.Effects

/-!
# One attempt to send

An attempt asks the endpoint at most once, and what it asks and what it makes of the answer depends
on the message alone (`offer_of_error`, `offer_of_none`, `offer_of_some`). What holds of every
`Endpoint.send` therefore holds of every attempt (`within_offer`).
-/

namespace UdpTransport.Channel

variable {ε : Type} [Endpoint ε] {message : Message}

theorem offer_of_error {fault : Fault} (h : requestOf message = .error fault) :
    (offer message : NativeAct ε (Message × Bool)) = throw fault := by
  funext s
  unfold offer
  rw [h]
  rfl

theorem offer_of_none (h : requestOf message = .ok none) :
    (offer message : NativeAct ε (Message × Bool)) = pure (message, true) := by
  funext s
  unfold offer
  rw [h]
  rfl

theorem offer_of_some {request : SendRequest} (h : requestOf message = .ok (some request)) :
    (offer message : NativeAct ε (Message × Bool)) =
      Endpoint.send request >>= fun amount => Act.ofExcept (verdictOf message amount) := by
  funext s
  unfold offer
  rw [h]
  rfl

/-- What every send does to the endpoint, every attempt does. -/
theorem within_offer {R : ε × Native → ε × Native → Prop} [IsPreorder (ε × Native) R]
    (hsend : ∀ request, Act.Within R (Endpoint.send request : NativeAct ε Int))
    (message : Message) : Act.Within R (offer message : NativeAct ε (Message × Bool)) := by
  cases h : requestOf message with
  | error fault =>
    rw [offer_of_error h]
    exact Act.within_throw fault
  | ok request? =>
    cases request? with
    | none =>
      rw [offer_of_none h]
      exact Act.within_pure (message, true)
    | some request =>
      rw [offer_of_some h]
      exact Act.within_bind (hsend request) fun amount => Act.within_ofExcept _

end UdpTransport.Channel
