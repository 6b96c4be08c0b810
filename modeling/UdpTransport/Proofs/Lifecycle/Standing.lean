import UdpTransport.Channel.Lifecycle
import UdpTransport.Proofs.Lifecycle.Refusal

/-!
# What a channel over a socket tells about itself

`Channel.Standing` is what the user of a channel can ask for: whether it is active and connected,
its two addresses, and the flags of its socket. The addresses are remembered by the channel or asked
for, and asking hangs on little: on the socket, and on how the system would answer a query.
-/

namespace UdpTransport

/-! ## Queries -/

namespace Kernel

/-- An answer is decided by the plan and by what the call does by itself. -/
theorem answer_congr {α β : Type} {plan : Script → Plan α} {drop : Script → Script} {given : α → β}
    {own : Kernel → Answer β × Kernel} {kernel kernel' : Kernel}
    (hplan : plan kernel.script = plan kernel'.script)
    (hown : ∀ script script', (own { kernel with script := script }).1 =
      (own { kernel' with script := script' }).1) :
    (answer plan drop given own kernel).1 = (answer plan drop given own kernel').1 := by
  cases h : plan kernel.script with
  | nil =>
    rw [answer_of_nil h, answer_of_nil (hplan ▸ h)]
    exact hown kernel.script kernel'.script
  | cons head rest =>
    cases head with
    | none =>
      rw [answer_of_none h, answer_of_none (hplan ▸ h)]
      exact hown _ _
    | some answer => rw [answer_of_some h, answer_of_some (hplan ▸ h)]

theorem socketName_congr {kernel kernel' : Kernel} (h : kernel.naming = kernel'.naming) (fd : Int) :
    (socketName fd kernel).1 = (socketName fd kernel').1 := by
  have hfiles : kernel.files = kernel'.files := congrArg Prod.fst h
  refine answer_congr (congrArg (fun parts => parts.2.1) h) fun script script' => ?_
  simp [Kernel.file, hfiles]

theorem peerName_congr {kernel kernel' : Kernel} {fd : Int}
    (hplan : kernel.script.peerName = kernel'.script.peerName)
    (hpeer : (kernel.file fd).peer = (kernel'.file fd).peer) :
    (peerName fd kernel).1 = (peerName fd kernel').1 := by
  refine answer_congr hplan fun script script' => ?_
  have hpeer' : (file { kernel with script := script } fd).peer =
      (file { kernel' with script := script' } fd).peer := hpeer
  rw [hpeer']
  cases (file { kernel' with script := script' } fd).peer <;> rfl

end Kernel

namespace Socket

/-- The local address hangs on the socket and on the answer to the query. -/
theorem result_localAddress_congr {socket : Socket} {native native' : Native}
    (hanswer : (Kernel.socketName socket.fd native.kernel).1 =
      (Kernel.socketName socket.fd native'.kernel).1) :
    localAddress.result (socket, native) = localAddress.result (socket, native') := by
  refine Act.result_bind_congr rfl fun _ s s' hs hs' => ?_
  cases hs
  cases hs'
  split
  · refine Act.result_bind_congr ?_ fun answer s s' _ _ => ?_
    · rw [Act.result_of_ok (run_lift (Native.run_query _ native _)),
        Act.result_of_ok (run_lift (Native.run_query _ native' _)), hanswer]
    cases answer with
    | value bytes =>
      refine Act.result_bind_congr rfl fun bytes s s' _ _ => ?_
      cases Address.ofNative bytes bytes.length <;> rfl
    | failure code => rfl
  · rfl

/-- The peer hangs on whether the socket is open and connected, and on the answer to the query. -/
theorem result_remoteAddress_congr {socket socket' : Socket} {native native' : Native}
    (hfd : socket.fd = socket'.fd) (hconnected : socket.connected = socket'.connected)
    (hanswer : (Kernel.peerName socket.fd native.kernel).1 =
      (Kernel.peerName socket.fd native'.kernel).1) :
    remoteAddress.result (socket, native) = remoteAddress.result (socket', native') := by
  have hopen : (socket.isOpen && socket.connected) = (socket'.isOpen && socket'.connected) := by
    rw [isOpen, isOpen, hfd, hconnected]
  unfold remoteAddress
  rw [Act.result_congr (Act.bind_of_ok (run_current (socket, native))),
    Act.result_congr (Act.bind_of_ok (run_current (socket', native'))), hopen]
  split
  · refine Act.result_bind_congr ?_ fun answer s s' _ _ => ?_
    · rw [Act.result_of_ok (run_lift (Native.run_query _ native _)),
        Act.result_of_ok (run_lift (Native.run_query _ native' _)), hanswer, hfd]
    cases answer with
    | value bytes =>
      dsimp only
      refine Act.result_bind_congr ?_ fun _ _ _ _ _ => rfl
      cases Address.ofNative bytes bytes.length <;> rfl
    | failure code =>
      dsimp only
      split <;> rfl
  · rfl

end Socket

namespace Channel

variable {ω α : Type}

/-! ## What a channel over a socket tells about itself -/

end Channel

end UdpTransport
