import UdpTransport.Proofs.Buffers
import UdpTransport.Proofs.Burst.Loop
import UdpTransport.Proofs.Burst.Serving
import UdpTransport.Proofs.Sizing

/-!
# One round of a burst

A round takes the oldest datagram that waits into a fresh buffer and hands on the packet made of it
(`Serving.round_some`). It ends the burst if nothing waits, or if an empty datagram comes from the
peer of a connected channel, which cannot be told from nothing (`Serving.round_none`). Direct memory
is handed over by its address and other memory as a view; an endpoint that serves a queue answers
both alike.
-/

namespace UdpTransport

variable {ε ω α : Type} [Endpoint ε]

/-! ## The next datagram -/

namespace Channel

section Fresh

variable {allocator : AllocatorId} {kind : MemoryKind} {size : Nat}

theorem firstWritable?_zeroed (hkind : kind ≠ .borrowed) (hsize : 0 < size) :
    firstWritable? (.ofComponents [.zeroed allocator kind size]) =
      some (.zeroed allocator kind size) := by
  show ([Component.zeroed allocator kind size].filter Component.isWritable).head? = _
  rw [List.filter_cons_of_pos (Component.isWritable_zeroed hkind hsize)]
  rfl

theorem stored_zeroed (hkind : kind ≠ .borrowed) (hsize : 0 < size) (bytes : Bytes) (amount : Nat) :
    stored (.ofComponents [.zeroed allocator kind size]) bytes amount =
      .ofComponents [((Component.zeroed allocator kind size).poke bytes).commit amount] := by
  show Buffer.withComponents _ (Buffer.updateFirst _ _ [Component.zeroed allocator kind size]) = _
  rw [Buffer.updateFirst, if_pos (Component.isWritable_zeroed hkind hsize)]
  rfl

/-- Bytes that are stored count as soon as the cursor is moved past them. -/
theorem skipWritable_stored (hkind : kind ≠ .borrowed) (hsize : 0 < size) {bytes : Bytes}
    (hfits : bytes.length ≤ size) :
    (stored (.ofComponents [.zeroed allocator kind size]) bytes 0).skipWritable bytes.length =
      .ok (.filled allocator kind size bytes) := by
  rw [stored_zeroed hkind hsize, Component.commit_zero]
  have hroom : bytes.length ≤
      (Buffer.ofComponents [(Component.zeroed allocator kind size).poke bytes]).room := by
    show bytes.length ≤ Component.room _ + 0
    rw [Component.room_poke, Component.room_zeroed hkind]
    exact hfits
  show (if _ then _ else _) = _
  rw [if_pos hroom]
  rfl

end Fresh

variable {fifo : FifoEndpoint ε} {allocator : AllocatorId} {kind : MemoryKind} {size : Nat}
  {endpoint : ε} {queue : List Waiting}

omit [Endpoint ε] in
theorem clip_eq (access : Access) (hlarge : size ≤ maxInt32) : clip access size = size := by
  cases access with
  | address => exact Nat.min_eq_left hlarge
  | view => rfl

/-- The bytes that a buffer of some size takes of the oldest datagram, if there is one. -/
def headBytes (size : Nat) (queue : List Waiting) : Bytes :=
  (queue.head?.elim [] Waiting.bytes).take size

/-- A read into fresh memory fills it with the oldest datagram, or with nothing. -/
theorem run_readInto (hkind : kind ≠ .borrowed) (hsize : 0 < size) (hlarge : size ≤ maxInt32)
    (hholds : fifo.Holds endpoint queue) (native : Native) :
    ∃ endpoint' native',
      (readInto (.ofComponents [.zeroed allocator kind size]) : NativeAct ε (Buffer × Int)).run
          (endpoint, native) =
        .ok (.filled allocator kind size (headBytes size queue), (headBytes size queue).length)
          (endpoint', native') ∧
      fifo.Holds endpoint' queue.tail := by
  have hroom : (Component.zeroed allocator kind size).room = size := Component.room_zeroed hkind
  obtain ⟨endpoint', native', hrun, htail⟩ :=
    fifo.read hholds (accessOf (.zeroed allocator kind size)) size native
  refine ⟨endpoint', native', ?_, htail⟩
  -- Nothing to read and an empty datagram give the same answer.
  have hincoming : (queue.head?.map (·.incoming size)).getD ⟨[], 0⟩ =
      ⟨headBytes size queue, (headBytes size queue).length⟩ := by
    cases queue <;> simp [headBytes, Waiting.incoming]
  have hle : (headBytes size queue).length ≤ size := List.length_take_le ..
  rw [hincoming] at hrun
  unfold readInto
  rw [firstWritable?_zeroed hkind hsize]
  dsimp only
  rw [hroom, clip_eq _ hlarge, Act.bind_of_ok hrun]
  dsimp only
  rw [Int.toNat_natCast, stored_zeroed hkind hsize, stored_zeroed hkind hsize, if_pos hle]
  split
  · have hnil : headBytes size queue = [] := List.length_eq_zero_iff.mp (by omega)
    rw [hnil]
    rfl
  · rfl

theorem run_receiveInto (hkind : kind ≠ .borrowed) (hsize : 0 < size) (hlarge : size ≤ maxInt32)
    (hholds : fifo.Holds endpoint queue) (native : Native) :
    let data := Buffer.ofComponents [.zeroed allocator kind size]
    ∃ endpoint' native',
      (receiveInto data : NativeAct ε (Buffer × Option Received)).run (endpoint, native) =
        .ok (queue.head?.elim (data, none) fun datagram =>
            (stored data (datagram.bytes.take size) 0, some (datagram.received size)))
          (endpoint', native') ∧
      fifo.Holds endpoint' queue.tail := by
  intro data
  have hroom : (Component.zeroed allocator kind size).room = size := Component.room_zeroed hkind
  obtain ⟨endpoint', native', hrun, htail⟩ :=
    fifo.receive hholds (accessOf (.zeroed allocator kind size)) size native
  refine ⟨endpoint', native', ?_, htail⟩
  unfold receiveInto
  rw [firstWritable?_zeroed hkind hsize]
  dsimp only
  rw [hroom, clip_eq _ hlarge, Act.bind_of_ok hrun]
  cases queue with
  | nil => rfl
  | cons datagram rest => rfl

omit [Endpoint ε] in
theorem yields_connectedRead {watched : BurstAct ε ω α} {act : SiteAct ε ω α}
    {site site' : Site ε ω} {a : α} {trace : List BurstEvent}
    (h : Watched.Yields watched act site a site' trace) :
    Watched.Yields (connectedRead watched) (connectedRead act) site a site' trace := by
  rw [← List.append_nil trace]
  exact h.capture.bind (Watched.yields_pure a site')

end Channel

namespace Serving

open Channel Watched

variable {fifo : FifoEndpoint ε} {channel : Channel} {kind : MemoryKind} {handle : ReceiveHandle}
  {queue rest : List Waiting} {site : Site ε ω} {allocator : AllocatorId} {size : Nat}

theorem nextConnected (h : Serving fifo channel kind handle queue site) (hkind : kind ≠ .borrowed)
    (hsize : 0 < size) (hlarge : size ≤ maxInt32) (hconnected : channel.connected = true) :
    ∃ site',
      Yields (watchConnected .own (.ofComponents [.zeroed allocator kind size]))
        (nextConnected .own (.ofComponents [.zeroed allocator kind size])) site
        (if headBytes size queue = [] then none
          else some ⟨.filled allocator kind size (headBytes size queue), fifo.localOf channel,
            fifo.peerOf channel⟩) site' [.received] ∧
      Serving fifo channel kind (handle.noteRead (headBytes size queue).length) queue.tail
        site' := by
  obtain ⟨endpoint, native, hread, hholds⟩ :=
    run_readInto hkind hsize hlarge h.holds site.host.native
  obtain ⟨site₁, hnote, h₁⟩ := (h.withNative hholds native).changeHandle
    (·.noteRead (headBytes size queue).length)
  have hreceived := yields_connectedRead (yields_noting (lift_native_ok hread) receipt)
  split
  · -- Nothing came, or an empty datagram, which looks the same.
    rename_i hnil
    refine ⟨site₁, hreceived.bind (.quiet hnote ?_), h₁⟩
    have hzero : ((headBytes size queue).length : Int) ≤ 0 := by simp [hnil]
    rw [if_pos hzero, if_pos hzero]
    exact yields_pure none site₁
  · rename_i hne
    obtain ⟨site₂, hremote, h₂⟩ := h₁.remoteAddress hconnected
    obtain ⟨site₃, hlocal, h₃⟩ := h₂.localAddress
    refine ⟨site₃, hreceived.bind (.quiet hnote ?_), h₃⟩
    have hpositive : ¬ ((headBytes size queue).length : Int) ≤ 0 := by
      have hlength := List.length_pos_iff.mpr hne
      omega
    rw [if_neg hpositive, if_neg hpositive]
    exact (yields_noting hremote (failureAt .address)).bind
      ((yields_noting hlocal (failureAt .address)).bind (yields_pure _ site₃))

theorem nextUnconnected_nil (h : Serving fifo channel kind handle [] site)
    (hkind : kind ≠ .borrowed) (hsize : 0 < size) (hlarge : size ≤ maxInt32) :
    ∃ site',
      Yields (watchUnconnected .own (.ofComponents [.zeroed allocator kind size]))
        (nextUnconnected .own (.ofComponents [.zeroed allocator kind size])) site none site'
        [.received] ∧
      Serving fifo channel kind (handle.noteRead (-1)) [] site' := by
  obtain ⟨endpoint, native, hreceive, hholds⟩ :=
    run_receiveInto hkind hsize hlarge h.holds site.host.native
  obtain ⟨site₁, hnote, h₁⟩ := (h.withNative hholds native).changeHandle (·.noteRead (-1))
  exact ⟨site₁, (yields_noting (lift_native_ok hreceive) receipt).bind
    (.quiet hnote (yields_pure none site₁)), h₁⟩

/-- What is received becomes a packet as soon as the cursor is moved past its bytes. -/
theorem moveCursor (h : Serving fifo channel kind handle queue site) (hkind : kind ≠ .borrowed)
    (hsize : 0 < size) (hlarge : size ≤ maxInt32) (allocator : AllocatorId) (datagram : Waiting)
    (recipient : Option Address) :
    let received := datagram.received size
    let data := stored (.ofComponents [.zeroed allocator kind size]) received.bytes 0
    ∃ site',
      Yields (watchTakeIn .own data received recipient) (takeIn .own data received recipient) site
        (some ⟨.filled allocator kind size received.bytes, recipient, some received.sender⟩)
        site' [] ∧
      Serving fifo channel kind (handle.noteRead received.amount) queue site' := by
  intro received data
  have hfits : received.bytes.length ≤ size := List.length_take_le ..
  -- What was received fits into the buffer, so no number wraps on the way.
  have hword : Socket.word64 received.amount = received.bytes.length := by
    have hsmall : size ≤ 2147483647 := hlarge
    show ((received.bytes.length : Int) % 18446744073709551616).toNat = _
    omega
  have hskip : data.skipWritable (Socket.word64 received.amount) =
      .ok (.filled allocator kind size received.bytes) := by
    rw [hword]
    exact skipWritable_stored hkind hsize hfits
  obtain ⟨site', hnote, h'⟩ := h.changeHandle (·.noteRead received.amount)
  unfold watchTakeIn takeIn
  rw [hskip]
  have hcursor : (Act.ofExcept (.ok (.filled allocator kind size received.bytes)) :
      SiteAct ε ω Buffer).run site' = .ok (.filled allocator kind size received.bytes) site' := rfl
  exact ⟨site', .quiet hnote ((yields_noting hcursor (failureAt .cursor)).bind
    (yields_pure _ site')), h'⟩

theorem nextUnconnected_cons {datagram : Waiting}
    (h : Serving fifo channel kind handle (datagram :: rest) site)
    (hkind : kind ≠ .borrowed) (hsize : 0 < size) (hlarge : size ≤ maxInt32) :
    ∃ site',
      Yields (watchUnconnected .own (.ofComponents [.zeroed allocator kind size]))
        (nextUnconnected .own (.ofComponents [.zeroed allocator kind size])) site
        (some ⟨.filled allocator kind size (datagram.bytes.take size),
          datagram.local?.or (fifo.localOf channel), some datagram.sender⟩) site' [.received] ∧
      Serving fifo channel kind (handle.noteRead (datagram.bytes.take size).length) rest site' := by
  obtain ⟨endpoint, native, hreceive, hholds⟩ :=
    run_receiveInto hkind hsize hlarge h.holds site.host.native
  have hreceived := yields_noting (lift_native_ok hreceive) receipt
  have h₁ := h.withNative hholds native
  obtain ⟨bytes, sender, local?⟩ := datagram
  cases local? with
  | some address =>
    obtain ⟨site', hpacket, h'⟩ :=
      h₁.moveCursor hkind hsize hlarge allocator ⟨bytes, sender, some address⟩ (some address)
    exact ⟨site', hreceived.bind ((yields_pure (some address) _).bind hpacket), h'⟩
  | none =>
    obtain ⟨site₂, hlocal, h₂⟩ := h₁.localAddress
    obtain ⟨site', hpacket, h'⟩ := h₂.moveCursor hkind hsize hlarge allocator ⟨bytes, sender, none⟩
      (fifo.localOf channel)
    exact ⟨site', hreceived.bind ((yields_noting hlocal (failureAt .address)).bind hpacket), h'⟩

theorem fetch {connected : Bool} {packet? : Option Packet} {handle' : ReceiveHandle}
    {trace : List BurstEvent} (h : Serving fifo channel kind handle queue site)
    (hkind : kind ≠ .borrowed) (hsized : handle.Sized)
    (hnext :
      let data := Buffer.ofComponents [.zeroed channel.config.allocator kind handle.guess.toNat]
      ∀ {site : Site ε ω}, Serving fifo channel kind (handle.attempt handle.guess) queue site →
        ∃ site',
          Yields (if connected then watchConnected .own data else watchUnconnected .own data)
            (if connected then Channel.nextConnected .own data
              else Channel.nextUnconnected .own data)
            site packet? site' trace ∧
          Serving fifo channel kind handle' rest site') :
    ∃ site',
      Yields (watchFetch .own channel.config.allocator connected)
        (Channel.fetch .own channel.config.allocator connected) site packet? site' trace ∧
      Serving fifo channel kind handle' rest site' := by
  obtain ⟨hsize, hlarge⟩ := hsized.guess_bounds
  obtain ⟨site₁, hallocate, h₁⟩ := h.allocate (Nat.le_trans hlarge (by decide))
  let data := Buffer.ofComponents [.zeroed channel.config.allocator kind handle.guess.toNat]
  obtain ⟨site₂, hattempt, h₂⟩ := h₁.changeHandle (·.attempt (min data.room maxInt32))
  -- The buffer has exactly the room that the handle asked for.
  have hcapacity : min (data.room : Int) maxInt32 = handle.guess := by
    have hroom : data.room = handle.guess.toNat :=
      congrArg (· + 0) (Component.room_zeroed hkind)
    omega
  rw [hcapacity] at h₂
  obtain ⟨site₃, hyields, h₃⟩ := hnext h₂
  rw [← List.append_nil trace]
  -- What came is handed on; otherwise the buffer is given back.
  cases packet? with
  | none =>
    obtain ⟨site₄, hdiscard, h₄⟩ := h₃.discard data
    exact ⟨site₄, .quiet h.handleNow ((yields_noting hallocate (failureAt .allocation)).bind
      (.quiet hattempt (hyields.capture.bind (.quiet hdiscard (yields_pure none site₄))))), h₄⟩
  | some packet =>
    exact ⟨site₃, .quiet h.handleNow ((yields_noting hallocate (failureAt .allocation)).bind
      (.quiet hattempt (hyields.capture.bind (yields_pure (some packet) site₃)))), h₃⟩

end Serving

/-! ## Handing on -/

/-- The receive handle after a datagram was taken into the buffer that it asked for. -/
def ReceiveHandle.taking (handle : ReceiveHandle) (datagram : Waiting) : ReceiveHandle :=
  ((handle.attempt handle.guess).noteRead (datagram.bytes.take handle.guess.toNat).length).count 1

/-- The packet that is made of a datagram. -/
def FifoEndpoint.packetOf (fifo : FifoEndpoint ε) (channel : Channel) (kind : MemoryKind)
    (handle : ReceiveHandle) (datagram : Waiting) : Packet where
  content := .filled channel.config.allocator kind handle.guess.toNat
    (datagram.bytes.take handle.guess.toNat)
  recipient :=
    if channel.connected then fifo.localOf channel else datagram.local?.or (fifo.localOf channel)
  sender := if channel.connected then fifo.peerOf channel else some datagram.sender

/-- A handler that returns normally, leaves the channel and its endpoint alone, and does not make
memory run out. -/
def Channel.Quiet (handler : Handler ε ω) : Prop :=
  ∀ callback site, ∃ site', (handler callback).run site = .ok () site' ∧
    site'.channel = site.channel ∧ site'.endpoint = site.endpoint ∧
    ∀ id kind, site.host.ledger.Unlimited id kind → site'.host.ledger.Unlimited id kind

namespace Serving

open Channel Watched

variable {fifo : FifoEndpoint ε} {channel : Channel} {kind : MemoryKind} {handle : ReceiveHandle}
  {queue rest : List Waiting} {site : Site ε ω} {handler : Handler ε ω}

theorem tell (h : Serving fifo channel kind handle queue site) (hquiet : Quiet handler)
    (callback : Callback) :
    ∃ site',
      Yields (watchTell handler callback) (Channel.tell handler callback) site () site'
        [.told callback none true] ∧
      Serving fifo channel kind handle queue site' := by
  -- That the handler is told is written down first, and changes only the native side.
  have h₁ : Serving fifo channel kind handle queue (telling callback site) :=
    h.withNative h.holds _
  obtain ⟨site', hhandler, hchannel, hendpoint, hmemory⟩ := hquiet callback _
  have h' : Serving fifo channel kind handle queue site' := by
    refine ⟨hendpoint ▸ h₁.holds, ?_, hmemory _ _ h₁.memory, ?_, ?_, ?_, ?_⟩ <;> rw [hchannel]
    · exact h₁.handle
    · exact h₁.config
    · exact h₁.connected
    · exact h₁.localOf
    · exact h₁.peerOf
  have hyields := yields_noting ((run_tell handler callback site).trans hhandler)
    fun result (site : Site ε ω) =>
      [BurstEvent.told callback (faultOf? result) (Endpoint.isOpen site.endpoint)]
  rw [h'.isOpen] at hyields
  exact ⟨site', hyields, h'⟩

/-- A packet is handed on, and the burst goes on if reading does so by itself, the limit is not
reached and the last read gave something. -/
theorem handOn (h : Serving fifo channel kind handle queue site) (hquiet : Quiet handler)
    (packet : Packet) :
    ∃ site',
      Yields (watchHandOn handler .own packet) (Channel.handOn handler .own packet) site
        (channel.config.autoRead && handle.messages + 1 < handle.limit && 0 < handle.last) site'
        [.told (.packet packet) none true] ∧
      Serving fifo channel kind (handle.count 1) queue site' := by
  obtain ⟨site₁, hcount, h₁⟩ := h.changeHandle (·.count 1)
  have h₂ : Serving fifo channel kind (handle.count 1) queue (site₁.withChannel
      { site₁.channel with
        readPending := false, burstPackets := site₁.channel.burstPackets + 1 }) := { h₁ with }
  obtain ⟨site₃, htell, h₃⟩ := h₂.tell hquiet (.packet packet)
  refine ⟨site₃, .quiet hcount (.quiet (run_change ..) (htell.bind (yields_quietly ?_))), h₃⟩
  unfold goesOn
  have hreads : (readsOn .own : SiteAct ε ω Bool).run site₃ =
      .ok site₃.channel.config.autoRead site₃ := rfl
  rw [Act.bind_of_ok (run_isOpen site₃), h₃.isOpen, if_pos rfl,
    Act.bind_of_ok (EStateM.run_get site₃), Act.bind_of_ok h₃.handleNow, Act.bind_of_ok hreads,
    h₃.config]
  have hcontinues : (handle.count 1).continues (policy site₃.host (handle.count 1).policy)
      channel.config.autoRead (some true) =
      (channel.config.autoRead && handle.messages + 1 < handle.limit && 0 < handle.last) := by
    show (_ && (_ || true) && decide (handle.messages + 1 < handle.limit) && _) = _
    rw [Bool.or_true, Bool.and_true]
    rfl
  rw [hcontinues]
  rfl

/-! ## Rounds -/

/-- A round that finds nothing, or an empty datagram of the peer, removes that and ends the
burst. -/
theorem round_none (h : Serving fifo channel kind handle queue site) (handler : Handler ε ω)
    (hkind : kind ≠ .borrowed) (hsized : handle.Sized)
    (hnone : ∀ datagram ∈ queue.head?, channel.connected = true ∧ datagram.isEmpty = true) :
    ∃ handle', handle'.Sized ∧ ∃ site',
      Yields (watchOne handler .own channel.config.allocator channel.connected)
        (readOne handler .own channel.config.allocator channel.connected) site false site'
        [.received] ∧
      Serving fifo channel kind handle' queue.tail site' := by
  obtain ⟨hsize, hlarge⟩ := hsized.guess_bounds
  -- A fetch without a packet ends the turn, so the turn is the fetch.
  suffices hfetch : ∃ handle', handle'.Sized ∧ ∃ site',
      Yields (watchFetch .own channel.config.allocator channel.connected)
        (Channel.fetch .own channel.config.allocator channel.connected) site none site'
        [.received] ∧
      Serving fifo channel kind handle' queue.tail site' by
    obtain ⟨handle', hsized', site', hyields, h'⟩ := hfetch
    exact ⟨handle', hsized', site', hyields.bind (yields_pure false site'), h'⟩
  have hattempt : (handle.attempt handle.guess).Sized := hsized
  -- A connected channel stops at an empty datagram, any other only where none is left.
  cases hconnected : channel.connected with
  | true =>
    have hnil : headBytes handle.guess.toNat queue = [] := by
      cases queue with
      | nil => exact List.take_nil
      | cons datagram rest =>
        have hempty : datagram.bytes = [] := List.isEmpty_iff.mp (hnone datagram rfl).2
        show datagram.bytes.take _ = []
        rw [hempty, List.take_nil]
    refine ⟨_, hattempt.noteRead (headBytes handle.guess.toNat queue).length,
      h.fetch hkind hsized fun {site} h => ?_⟩
    obtain ⟨site', hyields, h'⟩ := h.nextConnected hkind hsize hlarge hconnected
    rw [if_pos hnil] at hyields
    exact ⟨site', hyields, h'⟩
  | false =>
    cases queue with
    | nil =>
      exact ⟨_, hattempt.noteRead (-1),
        h.fetch hkind hsized fun h => h.nextUnconnected_nil hkind hsize hlarge⟩
    | cons datagram rest => simp [hconnected] at hnone

theorem fetch_some {datagram : Waiting}
    (h : Serving fifo channel kind handle (datagram :: rest) site)
    (hkind : kind ≠ .borrowed) (hsized : handle.Sized)
    (hsome : channel.connected = true → datagram.isEmpty = false) :
    ∃ site',
      Yields (watchFetch .own channel.config.allocator channel.connected)
        (Channel.fetch .own channel.config.allocator channel.connected) site
        (some (fifo.packetOf channel kind handle datagram)) site' [.received] ∧
      Serving fifo channel kind ((handle.attempt handle.guess).noteRead
        (datagram.bytes.take handle.guess.toNat).length) rest site' := by
  obtain ⟨hsize, hlarge⟩ := hsized.guess_bounds
  unfold FifoEndpoint.packetOf
  -- Connected, an empty read would end the turn, so the datagram must not be cut to nothing.
  cases hconnected : channel.connected with
  | true =>
    have hne : headBytes handle.guess.toNat (datagram :: rest) ≠ [] := by
      have hbytes : datagram.bytes ≠ [] := List.isEmpty_eq_false_iff.mp (hsome hconnected)
      intro hnil
      rcases List.take_eq_nil_iff.mp hnil with hzero | hnil
      · omega
      · exact hbytes hnil
    refine h.fetch hkind hsized fun {site} h => ?_
    obtain ⟨site', hyields, h'⟩ := h.nextConnected hkind hsize hlarge hconnected
    rw [if_neg hne] at hyields
    exact ⟨site', hyields, h'⟩
  | false =>
    exact h.fetch hkind hsized fun h => h.nextUnconnected_cons hkind hsize hlarge

/-- Any other round takes the oldest datagram and hands on the packet made of it. -/
theorem round_some {datagram : Waiting}
    (h : Serving fifo channel kind handle (datagram :: rest) site) (hquiet : Quiet handler)
    (hkind : kind ≠ .borrowed) (hsized : handle.Sized)
    (hsome : channel.connected = true → datagram.isEmpty = false) :
    ∃ site',
      Yields (watchOne handler .own channel.config.allocator channel.connected)
        (readOne handler .own channel.config.allocator channel.connected) site
        (channel.config.autoRead && handle.messages + 1 < handle.limit && !datagram.isEmpty) site'
        [.received, .told (.packet (fifo.packetOf channel kind handle datagram)) none true] ∧
      Serving fifo channel kind (handle.taking datagram) rest site' := by
  obtain ⟨site₁, hfetch, h₁⟩ := h.fetch_some hkind hsized hsome
  obtain ⟨site₂, hgiven, h₂⟩ := h₁.handOn hquiet (fifo.packetOf channel kind handle datagram)
  have hsize := hsized.guess_bounds.1
  -- Buffers are not empty, so what is taken is empty iff the datagram is.
  have hlast : (0 < ((datagram.bytes.take handle.guess.toNat).length : Int)) ↔
      datagram.isEmpty = false := by
    rw [Waiting.isEmpty, List.isEmpty_eq_false_iff, ← List.length_pos_iff, List.length_take]
    omega
  have hon : decide (0 < ((datagram.bytes.take handle.guess.toNat).length : Int)) =
      !datagram.isEmpty := by
    rw [Bool.eq_iff_iff, decide_eq_true_iff, hlast, Bool.not_eq_true']
  rw [ReceiveHandle.messages_noteRead, ReceiveHandle.limit_noteRead, ReceiveHandle.last_noteRead,
    hon] at hgiven
  exact ⟨site₂, hfetch.bind hgiven, h₂⟩

end Serving

end UdpTransport
