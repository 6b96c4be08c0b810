import UdpTransport.Proofs.Burst.Fifo
import UdpTransport.Proofs.Burst.Handle
import UdpTransport.Proofs.Ledger

/-!
# A burst before a queue

`Serving` is what stays true from step to step of a burst over an endpoint that serves a queue:
which datagrams wait, how the receive handle stands, and what does not change. The small steps of a
burst have one lemma each, which says what the step gives and what is served after it.
-/

namespace UdpTransport

variable {ε ω : Type} [Endpoint ε]

namespace FifoEndpoint

/-- The local address of a channel on the endpoint, remembered or asked for. -/
def localOf (fifo : FifoEndpoint ε) (channel : Channel) : Option Address :=
  channel.localCache.or (if fifo.localAddress.isUnspecified then none else some fifo.localAddress)

/-- The peer of a connected channel on the endpoint, remembered or asked for. -/
def peerOf (fifo : FifoEndpoint ε) (channel : Channel) : Option Address :=
  channel.remoteCache.or fifo.remote

end FifoEndpoint

/-- A burst that began with a channel stands with some receive handle before a queue. -/
structure Serving (fifo : FifoEndpoint ε) (channel : Channel) (kind : MemoryKind)
    (handle : ReceiveHandle) (queue : List Waiting) (site : Site ε ω) : Prop where
  holds : fifo.Holds site.endpoint queue
  handle : site.channel.handle = some handle
  memory : site.host.ledger.Unlimited channel.config.allocator kind
  config : site.channel.config = channel.config
  connected : site.channel.connected = channel.connected
  localOf : fifo.localOf site.channel = fifo.localOf channel
  peerOf : fifo.peerOf site.channel = fifo.peerOf channel

namespace Serving

open Channel

variable {fifo : FifoEndpoint ε} {channel : Channel} {kind : MemoryKind} {handle : ReceiveHandle}
  {queue rest : List Waiting} {site : Site ε ω}

/-- A channel that serves a queue is open. -/
theorem isOpen (h : Serving fifo channel kind handle queue site) :
    Endpoint.isOpen site.endpoint = true := fifo.isOpen h.holds

/-- It goes on serving what the endpoint holds then. -/
theorem withNative (h : Serving fifo channel kind handle queue site) {endpoint : ε}
    (hholds : fifo.Holds endpoint rest) (native : Native) :
    Serving fifo channel kind handle rest (site.withNative (endpoint, native)) :=
  { h with holds := hholds }

/-- What happens to memory does not stop it while there is enough. -/
theorem withLedger (h : Serving fifo channel kind handle queue site) {ledger : Ledger}
    (hmemory : ledger.Unlimited channel.config.allocator kind) :
    Serving fifo channel kind handle queue (site.withLedger ledger) :=
  { h with memory := hmemory }

/-! ## The receive handle -/

theorem handleNow (h : Serving fifo channel kind handle queue site) :
    (handleNow .own : SiteAct ε ω ReceiveHandle).run site = .ok handle site :=
  run_handleNow_own h.handle

/-- It goes on with another handle. -/
theorem changeHandle (h : Serving fifo channel kind handle queue site)
    (f : ReceiveHandle → ReceiveHandle) :
    ∃ site', (changeHandle .own f : SiteAct ε ω Unit).run site = .ok () site' ∧
      Serving fifo channel kind (f handle) queue site' :=
  ⟨_, run_changeHandle_own h.handle f, { h with handle := rfl }⟩

/-! ## Memory -/

/-- It is given the memory that it asks for, which is fresh. -/
theorem allocate (h : Serving fifo channel kind handle queue site) {size : Nat}
    (hsize : size ≤ Ledger.largestBlock) :
    ∃ site', (liftM (Ledger.allocate channel.config.allocator size) : SiteAct ε ω Buffer).run site =
        .ok (.ofComponents [.zeroed channel.config.allocator kind size]) site' ∧
      Serving fifo channel kind handle queue site' := by
  obtain ⟨ledger, hrun, hmemory⟩ := h.memory.allocate hsize
  exact ⟨_, lift_ledger_ok hrun, h.withLedger hmemory⟩

/-- And it can give memory back. -/
theorem discard (h : Serving fifo channel kind handle queue site) (buffer : Buffer) :
    ∃ site', (liftM (Ledger.discard buffer) : SiteAct ε ω Unit).run site = .ok () site' ∧
      Serving fifo channel kind handle queue site' :=
  ⟨_, run_discard buffer site, h.withLedger (h.memory.release buffer.components)⟩

/-! ## Addresses -/

/-- The recipient of a packet is the address that the endpoint is known by. -/
theorem localAddress (h : Serving fifo channel kind handle queue site) :
    ∃ site', (localAddress : SiteAct ε ω (Option Address)).run site =
        .ok (fifo.localOf channel) site' ∧
      Serving fifo channel kind handle queue site' := by
  have hlocal := h.localOf
  unfold Channel.localAddress
  rw [Act.bind_of_ok (run_current site), ← hlocal, FifoEndpoint.localOf]
  cases hcache : site.channel.localCache with
  | some address => exact ⟨site, rfl, h⟩
  | none =>
    obtain ⟨endpoint, native, hrun, hholds⟩ := fifo.run_localAddress h.holds site.host.native
    have hasked := h.withNative hholds native
    dsimp only
    rw [Act.bind_of_ok (run_isOpen site), h.isOpen, if_pos rfl,
      Act.bind_of_ok (lift_native_ok hrun), Option.none_or]
    split
    · -- An unspecified address is not remembered.
      exact ⟨_, rfl, hasked⟩
    · rename_i hspecified
      rw [Act.bind_of_ok (run_change ..)]
      refine ⟨_, rfl, { hasked with localOf := ?_ }⟩
      rw [← hlocal, FifoEndpoint.localOf, FifoEndpoint.localOf, hcache, if_neg hspecified]
      rfl

/-- The sender on a connected channel is its peer. -/
theorem remoteAddress (h : Serving fifo channel kind handle queue site)
    (hconnected : channel.connected = true) :
    ∃ site', (remoteAddress : SiteAct ε ω (Option Address)).run site =
        .ok (fifo.peerOf channel) site' ∧
      Serving fifo channel kind handle queue site' := by
  have hpeer := h.peerOf
  unfold Channel.remoteAddress
  rw [Act.bind_of_ok (run_current site), ← hpeer, FifoEndpoint.peerOf]
  cases hcache : site.channel.remoteCache with
  | some address => exact ⟨site, rfl, h⟩
  | none =>
    -- Asking remembers the answer, which is the one that the endpoint would give again.
    obtain ⟨endpoint, native, hrun, hholds⟩ := fifo.run_remoteAddress h.holds site.host.native
    have hasked := h.withNative hholds native
    dsimp only
    rw [if_pos (h.connected.trans hconnected), Act.bind_of_ok (lift_native_ok hrun),
      Act.bind_of_ok (run_change ..)]
    refine ⟨_, rfl, { hasked with peerOf := ?_ }⟩
    rw [← hpeer, FifoEndpoint.peerOf, FifoEndpoint.peerOf, hcache]
    show fifo.remote.or fifo.remote = _
    rw [Option.or_self, Option.none_or]

end Serving

end UdpTransport
