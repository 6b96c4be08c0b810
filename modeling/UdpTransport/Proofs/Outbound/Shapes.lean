import UdpTransport.Endpoint.Basic
import UdpTransport.Proofs.Outbound.AllOrNothing
import UdpTransport.Proofs.Outbound.Datagram
import UdpTransport.Proofs.Transfers.Settling

/-!
# The shape of a message

A message can come in many shapes: in memory of any kind, in any number of components, with cursors
anywhere. What goes out of it is a datagram: bytes, a destination and a segment size. **The main
result is `offered_of_prepare`**: whatever the shape, an admitted message is offered in one send,
with the addressing of the message that was handed in.

There is one limit to that. Memory is handed over by its address with a length of 32 bits, so of one
long stretch only the first `maxInt32` bytes are offered. It is not enough that each stretch of the
message handed in is shorter: a payload that has to be copied ends up in one stretch
(`Message.FitsSend`, `offered_of_halves`).

What a send is over a socket is said in terms of the system call (`Channel.Leaves`).
-/

namespace UdpTransport

/-! ## Sends over a socket -/

namespace Socket

/-- The transfer that serves a send. -/
def transferOf (request : SendRequest) : Transfer Int Int :=
  match request.payload with
  | .single .address bytes =>
    .sendAddress bytes bytes.length request.recipient request.segmentSize
  | .single .view bytes => .send bytes request.recipient request.segmentSize
  | .gather gather => .sendGather gather request.recipient request.segmentSize

/-- A send that a socket takes: the recipient is not of a foreign family, and the segment size fits
into its field. -/
structure Takes (socket : Socket) (request : SendRequest) : Prop where
  recipient : ∀ address, request.recipient = some address →
    Transfer.Reaches socket.family address
  segmentSize : request.segmentSize ≤ maxSegmentSize

/-- The system call that hands over a send: the bytes in order, under the name of the recipient, and
with a control message if they are to be cut into segments. -/
def HandsOver (socket : Socket) (request : SendRequest) (call : SystemCall) : Prop :=
  ∃ name regions control, Transfer.Names socket.family request.recipient name ∧
    Transfer.Segments request.segmentSize control ∧
    regions.flatMap Region.bytes = request.payload.toBytes ∧
    call = .sendMessage socket.fd name regions control Number.noSignal

variable {socket : Socket}

theorem serve_eq_perform (request : SendRequest) :
    serve request = (transferOf request).perform := by
  obtain ⟨payload, recipient, segmentSize⟩ := request
  cases payload with
  | gather gather => rfl
  | single access bytes => cases access <;> rfl

theorem valid_transferOf (request : SendRequest) :
    (transferOf request).Valid socket ↔ socket.Takes request := by
  obtain ⟨payload, recipient, segmentSize⟩ := request
  constructor
  · intro h
    cases payload with
    | gather gather => exact ⟨h.recipient, h.segmentSize⟩
    | single access bytes => cases access <;> exact ⟨h.recipient, h.segmentSize⟩
  · intro h
    cases payload with
    | gather gather => exact ⟨Int.le_refl 0, h.recipient, h.segmentSize⟩
    | single access bytes =>
      cases access with
      | address => exact ⟨Int.natCast_nonneg bytes.length, h.recipient, h.segmentSize⟩
      | view => exact ⟨Int.le_refl 0, h.recipient, h.segmentSize⟩

theorem handsOver_of_makes {request : SendRequest} {call : SystemCall}
    (h : (transferOf request).Makes socket call) : HandsOver socket request call := by
  obtain ⟨payload, recipient, segmentSize⟩ := request
  cases payload with
  | gather gather =>
    obtain ⟨name, control, hname, hsegments, hcall⟩ := h
    exact ⟨name, gather.regions, control, hname, hsegments, rfl, hcall⟩
  | single access bytes =>
    cases access with
    | address =>
      obtain ⟨name, control, hname, hsegments, hcall⟩ := h
      refine ⟨name, _, control, hname, hsegments, ?_, hcall⟩
      show [Region.ofBytes (Bytes.fit bytes.length bytes)].flatMap Region.bytes = bytes
      rw [Bytes.fit_eq_self rfl]
      exact List.append_nil bytes
    | view =>
      obtain ⟨name, control, hname, hsegments, hcall⟩ := h
      refine ⟨name, _, control, hname, hsegments, ?_, hcall⟩
      show [Region.ofBytes bytes].flatMap Region.bytes = bytes
      exact List.append_nil bytes

/-- A send that the socket takes is one system call, repeated while it is interrupted. -/
theorem serve_of_takes {request : SendRequest} (h : socket.Takes request) :
    ∃ call, HandsOver socket request call ∧ ∀ native,
      ((serve request).after (socket, native)).1 = socket ∧
      ((serve request).after (socket, native)).2.calls =
        native.calls ++
          List.replicate (native.kernel.script.sendMessage.interruptions + 1) call := by
  obtain ⟨call, hmakes, hlasts⟩ := Transfer.lasts_of_valid ((valid_transferOf request).mpr h)
  refine ⟨call, handsOver_of_makes hmakes, fun native => ?_⟩
  have hplan : (transferOf request).plan native.kernel.script =
    native.kernel.script.sendMessage := by
    obtain ⟨payload, recipient, segmentSize⟩ := request
    cases payload with
    | gather gather => rfl
    | single access bytes => cases access <;> rfl
  have hsettles := hlasts native (by
    obtain ⟨payload, recipient, segmentSize⟩ := request
    cases payload with
    | gather gather => trivial
    | single access bytes => cases access <;> trivial)
  rw [serve_eq_perform, ← hplan]
  exact ⟨hsettles.socket, hsettles.calls⟩

/-- Any other send fails before a call is made. -/
theorem serve_of_not_takes {request : SendRequest} (h : ¬ socket.Takes request) (native : Native) :
    ∃ rule, (serve request).run (socket, native) = .error (.violation rule) (socket, native) := by
  rw [serve_eq_perform]
  exact Transfer.refuses_of_not_valid
    (fun hvalid => h ((valid_transferOf request).mp hvalid)) native

end Socket

/-! ## What one attempt asks -/

/-- Whether one send can take the whole payload of a message: each stretch of it is within what is
handed over by an address, and if the stretches have to be copied into one, so are all of them
together. -/
structure Message.FitsSend (message : Message) : Prop where
  regions : ∀ c ∈ message.content.readableComponents, c.readable ≤ maxInt32
  copied : Channel.needsCopy message.content = true → message.content.readable ≤ maxInt32

namespace Channel

/-- The datagram that an attempt offers to the endpoint, if any. -/
def offered (message : Message) : Except Fault (Option Datagram) :=
  (requestOf message).map (·.map SendRequest.datagram)

/-- An attempt with a message comes down to one send, whatever the endpoint. -/
structure Asks (message : Message) (request : SendRequest) : Prop where
  once : ∀ (ε : Type) [Endpoint ε], (offer message : NativeAct ε (Message × Bool)) =
    Endpoint.send request >>= fun amount => Act.ofExcept (verdictOf message amount)
  /-- A payload is never too scattered for the send. -/
  together : ∀ amount, verdictOf message amount ≠ .error (.violation .payloadTooScattered)
  vectorized : request.payload.isVectorized ↔ 1 < message.content.readableComponents.length

/-- What an attempt over a socket comes to: one system call, made once for each interruption and
once more, or a fault before any call. -/
structure Leaves (socket : Socket) (message : Message) (request : SendRequest) : Prop where
  calls : socket.Takes request → ∃ call, socket.HandsOver request call ∧ ∀ native,
    ((offer message : NativeAct Socket (Message × Bool)).after (socket, native)).1 = socket ∧
    ((offer message : NativeAct Socket (Message × Bool)).after (socket, native)).2.calls =
      native.calls ++ List.replicate (native.kernel.script.sendMessage.interruptions + 1) call
  refused : ¬ socket.Takes request → ∀ native, ∃ rule,
    (offer message : NativeAct Socket (Message × Bool)).run (socket, native) =
      .error (.violation rule) (socket, native)

/-- No answer of the endpoint makes a payload too scattered. -/
theorem verdictOf_ne_tooScattered (message : Message) (amount : Int) :
    verdictOf message amount ≠ .error (.violation .payloadTooScattered) := by
  unfold verdictOf
  split
  · unfold taken
    split
    · exact fun h => by cases h
    · split
      · exact fun h => by cases h
      · exact fun h => by cases h
  · exact fun h => by cases h

theorem asks_of_requestOf {message : Message} {request : SendRequest}
    (h : requestOf message = .ok (some request))
    (hvectorized : request.payload.isVectorized ↔ 1 < message.content.readableComponents.length) :
    Asks message request where
  once _ _ := offer_of_some h
  together := verdictOf_ne_tooScattered message
  vectorized := hvectorized

/-- Over a socket, what is made of the answer is no call any more. -/
theorem Asks.leaves {message : Message} {request : SendRequest} (h : Asks message request)
    (socket : Socket) : Leaves socket message request where
  calls htakes := by
    obtain ⟨call, hcall, hserve⟩ := Socket.serve_of_takes htakes
    refine ⟨call, hcall, fun native => ?_⟩
    have hafter : (offer message : NativeAct Socket (Message × Bool)).after (socket, native) =
        (Socket.serve request).after (socket, native) := by
      rw [h.once Socket]
      exact Act.after_bind_ofExcept _ _ _
    rw [hafter]
    exact hserve native
  refused hrefused native := by
    obtain ⟨rule, hrule⟩ := Socket.serve_of_not_takes hrefused native
    refine ⟨rule, ?_⟩
    rw [h.once Socket]
    exact Act.bind_of_error hrule

/-! ## Admitted messages -/

namespace Admitted

variable {message admitted : Message}

theorem ne_empty (h : Admitted message admitted) : admitted ≠ .empty := by
  have hsendable := h.sendable
  rw [h.same]
  cases message <;> simp_all [Message.isSendable, Message.withContent]

theorem recipient (h : Admitted message admitted) : admitted.recipient = message.recipient := by
  rw [h.same, Message.recipient_withContent]

theorem segmentSize (h : Admitted message admitted) :
    admitted.segmentSize = message.segmentSize := by
  rw [h.same, Message.segmentSize_withContent]

theorem readable (h : Admitted message admitted) :
    admitted.content.readable = message.content.readable := by
  rw [← Buffer.length_toBytes, h.bytes, Buffer.length_toBytes]

theorem requestOf_nil (h : Admitted message admitted) (hbytes : message.content.toBytes = []) :
    requestOf admitted = .ok none :=
  requestOf_nothing h.ne_empty (h.bytes.trans hbytes)

/-- A payload of more bytes than an address reaches goes out in several regions, if each of them
fits and it does not have to be copied. -/
theorem length_le_of_fits (h : Admitted message admitted) (hfits : message.FitsSend)
    (hone : ¬ 1 < admitted.content.readableComponents.length) :
    message.content.toBytes.length ≤ maxInt32 := by
  rw [Buffer.length_toBytes]
  by_cases hneeds : needsCopy message.content = true
  · exact hfits.copied hneeds
  · have hpassed := h.passed (Bool.eq_false_iff.mpr hneeds)
    rw [hpassed] at hone
    cases hcomponents : message.content.readableComponents with
    | nil =>
      have hnothing : message.content.toBytes = [] := by
        rw [Buffer.toBytes_eq_flatMap_readable, hcomponents]
        rfl
      rw [← Buffer.length_toBytes, hnothing]
      exact Nat.zero_le _
    | cons c rest =>
      have hrest : rest = [] := by
        rw [hcomponents, List.length_cons] at hone
        exact List.length_eq_zero_iff.mp (by omega)
      subst hrest
      rw [← (requestOf_stretch hcomponents).1]
      exact hfits.regions c (hcomponents ▸ List.mem_singleton_self c)

/-- What is asked of the endpoint is told by the bytes and the addressing of the message handed in,
but for the way in which the memory is handed over. -/
theorem requestOf (h : Admitted message admitted)
    (hsize : message.content.readable ≤ Gather.maxReported.toNat)
    (hbytes : message.content.toBytes ≠ []) :
    ∃ request, Channel.requestOf admitted = .ok (some request) ∧
      request.recipient = message.recipient ∧ request.segmentSize = message.segmentSize ∧
      request.payload.toBytes = (if 1 < admitted.content.readableComponents.length
        then message.content.toBytes else message.content.toBytes.take maxInt32) ∧
      (request.payload.isVectorized ↔ 1 < admitted.content.readableComponents.length) := by
  -- A gather is built for several regions only; one region goes out by its address.
  by_cases hseveral : 1 < admitted.content.readableComponents.length
  · obtain ⟨gather, hgather, hrequest⟩ :=
      requestOf_several h.ne_empty hseveral h.few (h.readable ▸ hsize)
    refine ⟨_, hrequest, h.recipient, h.segmentSize, ?_, by simp [Payload.isVectorized, hseveral]⟩
    rw [if_pos hseveral, ← h.bytes]
    exact hgather
  · have hsome : admitted.content.readableComponents ≠ [] := by
      intro hnone
      refine hbytes ?_
      rw [← h.bytes, Buffer.toBytes_eq_flatMap_readable, hnone]
      rfl
    obtain ⟨c, hone⟩ : ∃ c, admitted.content.readableComponents = [c] :=
      List.length_eq_one_iff.mp (by
        have hpos := List.length_pos_iff.mpr hsome
        omega)
    have hmem : c ∈ admitted.content.readableComponents := hone ▸ List.mem_singleton_self c
    have hdirect : c.isDirect := List.all_eq_true.mp h.direct c (List.mem_of_mem_filter hmem)
    refine ⟨_, requestOf_direct hone hdirect, h.recipient, h.segmentSize, ?_, ?_⟩
    · rw [if_neg hseveral, ← h.bytes]
      rfl
    · simp [Payload.isVectorized, hone]

/-- A payload that fits is offered as a whole. -/
theorem datagram_of_fits (h : Admitted message admitted) (hfits : message.FitsSend)
    {request : SendRequest} (hrecipient : request.recipient = message.recipient)
    (hsegments : request.segmentSize = message.segmentSize)
    (hoffered : request.payload.toBytes = if 1 < admitted.content.readableComponents.length
      then message.content.toBytes else message.content.toBytes.take maxInt32) :
    request.datagram = ⟨message.content.toBytes, message.recipient, message.segmentSize⟩ := by
  have hwhole : request.payload.toBytes = message.content.toBytes := by
    rw [hoffered]
    split
    · rfl
    · rename_i hone
      exact List.take_of_length_le (h.length_le_of_fits hfits hone)
  rw [SendRequest.datagram, hwhole, hrecipient, hsegments]

/-- What is offered of a message that fits is told by its bytes and its addressing. -/
theorem offered_of_fits (h : Admitted message admitted)
    (hsize : message.content.readable ≤ Gather.maxReported.toNat) (hfits : message.FitsSend) :
    offered admitted = .ok (if message.content.toBytes = [] then none
      else some ⟨message.content.toBytes, message.recipient, message.segmentSize⟩) := by
  unfold offered
  by_cases hbytes : message.content.toBytes = []
  · rw [h.requestOf_nil hbytes, if_pos hbytes]
    rfl
  · obtain ⟨request, hrequest, hrecipient, hsegments, hoffered, -⟩ := h.requestOf hsize hbytes
    rw [hrequest, if_neg hbytes, ← h.datagram_of_fits hfits hrecipient hsegments hoffered]
    rfl

end Admitted

section Shapes

variable {ε ω : Type} {message admitted rest : Message} {site site' : Site ε ω}

/-- **The shape of a message does not matter.** An admitted message is the message handed in, its
payload in direct memory of few enough regions. If it holds bytes, an attempt with it is one send
with the addressing of the message, as a gather iff there are several regions, and the payload is
never too scattered; if it holds none, nothing is asked of the endpoint. All the bytes are offered,
or of one stretch as many as an address reaches. So two messages that fit, with the same bytes and
addressing, offer the same datagram, whatever memory they came in. -/
theorem offered_of_prepare (hfallback : FallbackDirect site)
    (hrun : (prepare message : SiteAct ε ω (Message × Message)).run site =
      .ok (admitted, rest) site')
    (hsize : message.content.readable ≤ Gather.maxReported.toNat) :
    Admitted message admitted ∧
      (message.content.toBytes ≠ [] → ∃ request : SendRequest,
        Asks admitted request ∧ (∀ socket, Leaves socket admitted request) ∧
        request.recipient = message.recipient ∧ request.segmentSize = message.segmentSize ∧
        request.payload.toBytes = (if 1 < admitted.content.readableComponents.length
          then message.content.toBytes else message.content.toBytes.take maxInt32) ∧
        (message.FitsSend → request.payload.toBytes = message.content.toBytes)) ∧
      (message.content.toBytes = [] → ∀ (ε' : Type) [Endpoint ε'],
        (offer admitted : NativeAct ε' (Message × Bool)) = pure (admitted, true)) ∧
      ∀ {other admitted₂ rest₂ : Message} {site₂ site₂' : Site ε ω},
        other.content.toBytes = message.content.toBytes → other.recipient = message.recipient →
        other.segmentSize = message.segmentSize → message.FitsSend → other.FitsSend →
        FallbackDirect site₂ →
        (prepare other : SiteAct ε ω (Message × Message)).run site₂ =
          .ok (admitted₂, rest₂) site₂' →
        offered admitted₂ = offered admitted := by
  obtain ⟨hadmitted, -⟩ := prepare_spec hfallback hrun
  refine ⟨hadmitted, fun hbytes => ?_, fun hbytes ε' _ => ?_, ?_⟩
  · obtain ⟨request, hrequest, hrecipient, hsegments, hoffered, hvectorized⟩ :=
      hadmitted.requestOf hsize hbytes
    have hasks := asks_of_requestOf hrequest hvectorized
    refine ⟨request, hasks, hasks.leaves, hrecipient, hsegments, hoffered, fun hfits => ?_⟩
    exact congrArg Datagram.bytes
      (hadmitted.datagram_of_fits hfits hrecipient hsegments hoffered)
  · exact offer_of_none (hadmitted.requestOf_nil hbytes)
  · intro other admitted₂ rest₂ site₂ site₂' hbytes hrecipient hsegments hfits hfits₂ hfallback₂
      hrun₂
    -- What is offered depends on the bytes and the addressing alone.
    obtain ⟨hadmitted₂, -⟩ := prepare_spec hfallback₂ hrun₂
    have hsize₂ : other.content.readable ≤ Gather.maxReported.toNat := by
      rwa [← Buffer.length_toBytes, hbytes, Buffer.length_toBytes]
    rw [hadmitted₂.offered_of_fits hsize₂ hfits₂, hadmitted.offered_of_fits hsize hfits, hbytes,
      hrecipient, hsegments]

/-- A channel whose configured allocator makes heap memory. -/
abbrev heapSite : Site Unit Unit :=
  { channel := { name := "a", config := { allocator := 0, policy := 0 } }
    endpoint := ()
    host := { ledger := ⟨[{ kind := .heap }]⟩ }
    outside := () }

/-- Three bytes in two stretches of heap memory go out as one datagram from direct memory, over any
socket in one call. -/
theorem offered_of_heap :
    let piece (bytes : Bytes) : Component := { Component.borrow 0 bytes with kind := .heap }
    let message : Message := .envelope (.ofComponents [piece [1, 2], piece [], piece [3]]) none
    ∃ admitted rest site', (prepare message : SiteAct Unit Unit (Message × Message)).run heapSite =
        .ok (admitted, rest) site' ∧
      FallbackDirect heapSite ∧ Admitted message admitted ∧ message.FitsSend ∧
      ∃ request : SendRequest, request.datagram = ⟨[1, 2, 3], none, 0⟩ ∧
        request.payload.isVectorized = false ∧
        ∀ socket, ∃ call, Socket.HandsOver socket request call ∧
          ((offer admitted : NativeAct Socket (Message × Bool)).after (socket, {})).2.calls =
            [call] := by
  intro piece message
  have hfallback : FallbackDirect heapSite := fun _ hid => by cases hid
  have hrun : (prepare message : SiteAct Unit Unit (Message × Message)).run heapSite =
    .ok _ _ := rfl
  have hfits : message.FitsSend := ⟨by decide, fun _ => by decide⟩
  obtain ⟨hadmitted, hbytes, -⟩ := offered_of_prepare hfallback hrun (by decide)
  obtain ⟨request, hasks, hleaves, hrecipient, hsegments, -, hwhole⟩ := hbytes (by decide)
  have hbytes : request.payload.toBytes = [1, 2, 3] := hwhole hfits
  refine ⟨_, _, _, hrun, hfallback, hadmitted, hfits, request, ?_, ?_, fun socket => ?_⟩
  · rw [SendRequest.datagram, hbytes, hrecipient, hsegments]
    rfl
  · exact Bool.eq_false_iff.mpr fun h => absurd (hasks.vectorized.mp h) (by decide)
  · have htakes : socket.Takes request := by
      constructor
      · intro address haddress
        rw [hrecipient] at haddress
        cases haddress
      · rw [hsegments]
        decide
    -- Neither a recipient nor segments, so the socket takes the request whatever its family.
    obtain ⟨call, hcall, hcalls⟩ := (hleaves socket).calls htakes
    exact ⟨call, hcall, (hcalls {}).2⟩

/-- Two stretches of heap memory with as many bytes each. -/
def halves (size : Nat) : Message :=
  let half : Component :=
    { Component.zeroed 0 .heap size with
      writer := size
      reader_le := Nat.zero_le size
      writer_le := Nat.le_refl size }
  .envelope (.ofComponents [half, half]) none

theorem readable_halves (size : Nat) : (halves size).content.readable = 2 * size := by
  show size + (size + 0) = 2 * size
  omega

theorem readable_le_of_mem_halves {size : Nat} {c : Component}
    (h : c ∈ (halves size).content.readableComponents) : c.readable ≤ size := by
  have hmem := List.mem_of_mem_filter h
  simp only [halves, Message.content, Buffer.ofComponents, Buffer.components, Option.getD_some,
    List.mem_cons, List.not_mem_nil, or_false, or_self] at hmem
  subst hmem
  exact Nat.sub_le size 0

/-- Of two stretches that are too long for an address together, a part is offered, though each of
them may be short enough. -/
theorem offered_halves {size : Nat} (hlong : maxInt32 < 2 * size)
    (hblock : 2 * size ≤ Ledger.largestBlock) (hsize : 2 * size ≤ Gather.maxReported.toNat) :
    ∃ admitted rest site', (prepare (halves size) : SiteAct Unit Unit (Message × Message)).run
        heapSite = .ok (admitted, rest) site' ∧
      ∃ request, Asks admitted request ∧
        request.payload.toBytes = (halves size).content.toBytes.take maxInt32 ∧
        request.payload.toBytes ≠ (halves size).content.toBytes := by
  have hfallback : FallbackDirect heapSite := fun _ hid => by cases hid
  have hlength : (halves size).content.toBytes.length = 2 * size :=
    (Buffer.length_toBytes _).trans (readable_halves size)
  have hneeds : needsCopy (halves size).content = true := rfl
  have hmemory : ¬ CopyRefused heapSite (halves size).content := by
    rintro ⟨id, site', hallocator, hrefuses⟩
    rw [readable_halves] at hrefuses
    cases hallocator
    rcases hrefuses with hnone | hlarge
    · cases hnone
    · exact absurd hlarge (Nat.not_lt.mpr hblock)
  -- Two regions become one when they are copied, and one region is offered no further than the
  -- limit.
  obtain ⟨copy, id, site', hrun, -⟩ := run_prepare_copied hfallback rfl hneeds hmemory
  obtain ⟨hadmitted, -⟩ := prepare_spec hfallback hrun
  have hbytes : (halves size).content.toBytes ≠ [] := by
    intro hnil
    rw [hnil, List.length_nil] at hlength
    omega
  obtain ⟨request, hrequest, -, -, hoffered, hvectorized⟩ :=
    hadmitted.requestOf (readable_halves size ▸ hsize) hbytes
  rw [if_neg (Nat.not_lt.mpr (hadmitted.copied hneeds))] at hoffered
  refine ⟨_, _, _, hrun, request, asks_of_requestOf hrequest hvectorized, hoffered,
    fun hwhole => ?_⟩
  have hpart : (halves size).content.toBytes.length ≤ maxInt32 := by
    rw [← hwhole, hoffered]
    exact List.length_take_le ..
  omega

/-- Two stretches of heap memory of 1.5 GiB each are within what an address reaches, but their copy
is not: only a part of the bytes is offered. And a message to an IPv6 address is admitted, but a
socket of IPv4 makes no call for it. -/
theorem offered_of_halves :
    let foreign : Message := .packet
      ⟨.ofComponents [{ Component.borrow 0 [97, 98, 99] with kind := .direct }],
        some (.loopback 9 Family.ipv6), none⟩
    (∀ c ∈ (halves 1610612736).content.readableComponents, c.readable ≤ maxInt32) ∧
      (halves 1610612736).content.readable ≤ Gather.maxReported.toNat ∧
      (∃ admitted rest site', (prepare (halves 1610612736) :
          SiteAct Unit Unit (Message × Message)).run heapSite = .ok (admitted, rest) site' ∧
        ∃ request, Asks admitted request ∧
          request.payload.toBytes ≠ (halves 1610612736).content.toBytes) ∧
      foreign.content.toBytes = [97, 98, 99] ∧
      (prepare foreign : SiteAct Unit Unit (Message × Message)).run heapSite =
        .ok (foreign, foreign.movedFrom) heapSite ∧
      ∀ fd native, ∃ rule,
        (offer foreign : NativeAct Socket (Message × Bool)).run
            ({ fd := fd, family := Family.ipv4 }, native) =
          .error (.violation rule) ({ fd := fd, family := Family.ipv4 }, native) := by
  intro foreign
  obtain ⟨admitted, rest, site', hrun, request, hasks, -, hpart⟩ :=
    @offered_halves 1610612736 (by decide) (by decide) (by decide)
  refine ⟨fun c hc => ?_, ?_, ⟨admitted, rest, site', hrun, request, hasks, hpart⟩, rfl, rfl,
    fun fd native => ?_⟩
  · exact Nat.le_trans (readable_le_of_mem_halves hc) (by decide)
  · rw [readable_halves]
    decide
  -- An IPv4 socket reaches no IPv6 address, and finds that out before any call.
  · have hrequest : requestOf foreign = .ok (some _) := rfl
    have hleaves := (asks_of_requestOf hrequest (by decide)).leaves
      { fd := fd, family := Family.ipv4 }
    refine hleaves.refused (fun htakes => ?_) native
    have hreaches : Socket.Transfer.Reaches Family.ipv4 (.loopback 9 Family.ipv6) :=
      htakes.recipient _ rfl
    exact absurd hreaches (by unfold Socket.Transfer.Reaches; decide)

end Shapes

end Channel

end UdpTransport
