import UdpTransport.Proofs.Buffers
import UdpTransport.Proofs.Outbound.Gather
import UdpTransport.Proofs.Outbound.Offer

/-!
# What is asked for a message

What an attempt asks of the endpoint is told by how the payload lies in memory. Without bytes
nothing is asked (`requestOf_nothing`). One stretch is handed over by itself, as far as an address
or a view reaches (`requestOf_stretch`), and several stretches are gathered, with none of their
bytes left out (`requestOf_several`, `datagram_of_several`).
-/

namespace UdpTransport

/-- What the network gets to see of a send. -/
structure Datagram where
  bytes : Bytes
  /-- The destination; without one the connected peer. -/
  recipient : Option Address
  segmentSize : Int

/-- The datagram that a send offers. -/
def SendRequest.datagram (request : SendRequest) : Datagram :=
  ⟨request.payload.toBytes, request.recipient, request.segmentSize⟩

/-- Whether a payload is handed over as several regions. -/
def Payload.isVectorized : Payload → Bool
  | .single .. => false
  | .gather _ => true

namespace Channel

theorem requestOf_nothing {message : Message} (hmessage : message ≠ .empty)
    (hbytes : message.content.toBytes = []) : requestOf message = .ok none := by
  unfold requestOf
  rw [if_neg hmessage]
  exact if_pos ((Buffer.toBytes_eq_nil_iff _).mp hbytes)

/-- A payload in one stretch of memory is handed over as far as the way it is handed over reaches.
-/
theorem requestOf_stretch {message : Message} {c : Component}
    (hcomponents : message.content.readableComponents = [c]) :
    c.readable = message.content.readable ∧ requestOf message = .ok (some
      { payload := .single (accessOf c)
          (message.content.toBytes.take (clip (accessOf c) message.content.readable))
        recipient := message.recipient
        segmentSize := message.segmentSize }) := by
  have hmem : c ∈ message.content.readableComponents := hcomponents ▸ List.mem_singleton_self c
  have hmessage : message ≠ .empty := by
    rintro rfl
    cases hmem
  have hbytes : message.content.toBytes = c.readableBytes := by
    rw [Buffer.toBytes_eq_flatMap_readable, hcomponents, List.flatMap_cons]
    exact List.append_nil _
  -- What is listed as readable has something to read.
  have hnonempty : ¬ message.content.readable = 0 := by
    rw [← Buffer.toBytes_eq_nil_iff, hbytes]
    exact Component.isReadable_iff.mp (List.mem_filter.mp hmem).2
  have hreadable : c.readable = message.content.readable := by
    rw [← Buffer.length_toBytes, hbytes, c.length_readableBytes]
  refine ⟨hreadable, ?_⟩
  unfold requestOf
  rw [if_neg hmessage]
  dsimp only
  rw [if_neg hnonempty, hcomponents]
  dsimp only
  rw [hreadable, hbytes]

/-- A payload in one stretch of memory that an address reaches is handed over as a whole. -/
theorem requestOf_single {message : Message} {c : Component}
    (hcomponents : message.content.readableComponents = [c]) (hregion : c.readable ≤ maxInt32) :
    requestOf message = .ok (some
      { payload := .single (accessOf c) message.content.toBytes
        recipient := message.recipient
        segmentSize := message.segmentSize }) := by
  obtain ⟨hreadable, hrequest⟩ := requestOf_stretch hcomponents
  have hclip : clip (accessOf c) message.content.readable = message.content.readable := by
    cases accessOf c with
    | address => exact Nat.min_eq_left (hreadable ▸ hregion)
    | view => rfl
  have hwhole : message.content.toBytes.take message.content.readable = message.content.toBytes :=
    List.take_of_length_le (Nat.le_of_eq (Buffer.length_toBytes _))
  rw [hrequest, hclip, hwhole]

/-- A payload in one stretch of direct memory is handed over by its address, and an address reaches
no further than `maxInt32` bytes. -/
theorem requestOf_direct {message : Message} {c : Component}
    (hcomponents : message.content.readableComponents = [c]) (hdirect : c.isDirect) :
    requestOf message = .ok (some
      { payload := .single .address (message.content.toBytes.take maxInt32)
        recipient := message.recipient
        segmentSize := message.segmentSize }) := by
  have haccess : accessOf c = .address := if_pos hdirect
  have hclip : message.content.toBytes.take (clip .address message.content.readable) =
      message.content.toBytes.take maxInt32 := by
    rw [clip, ← Buffer.length_toBytes, Nat.min_comm]
    exact List.take_eq_take_min.symm
  rw [(requestOf_stretch hcomponents).2, haccess, hclip]

/-- A payload in several stretches is handed over as a gather, with none of its bytes left out. -/
theorem requestOf_several {message : Message} (hmessage : message ≠ .empty)
    (hseveral : 1 < message.content.readableComponents.length)
    (hfew : message.content.readableComponents.length ≤ Gather.maxRegions)
    (hsize : message.content.readable ≤ Gather.maxReported.toNat) :
    ∃ gather : Gather, gather.toBytes = message.content.toBytes ∧
      requestOf message = .ok (some
        { payload := .gather gather
          recipient := message.recipient
          segmentSize := message.segmentSize }) := by
  let pieces := message.content.readableComponents.map Component.readableBytes
  have hall : ∀ piece ∈ pieces, piece ≠ [] := by
    intro piece hpiece
    obtain ⟨c, hmem, rfl⟩ := List.mem_map.mp hpiece
    exact Component.isReadable_iff.mp (List.mem_filter.mp hmem).2
  have hbytes : pieces.flatten = message.content.toBytes := by
    rw [Buffer.toBytes_eq_flatMap_readable, List.flatMap_def]
  have hlength : pieces.flatten.length = message.content.readable := by
    rw [hbytes, Buffer.length_toBytes]
  -- Each stretch becomes one region, as none is empty.
  obtain ⟨size, hadd⟩ := Gather.addAll_pieces pieces (Gather.empty Gather.maxReported) hall
    (by simpa [pieces, Gather.empty] using hfew) (by simpa [Gather.empty, hlength] using hsize)
  have hgather : (Gather.empty Gather.maxReported).addReadable message.content =
      (true, ⟨pieces.map .ofBytes, size, Gather.maxReported⟩) := by
    rw [Gather.addReadable]
    simpa [pieces, Gather.empty, Function.comp_def] using hadd
  have hnonempty : ¬ message.content.readable = 0 := by
    obtain ⟨c, hmem⟩ := List.exists_mem_of_length_pos (Nat.lt_of_succ_lt hseveral)
    rw [← Buffer.toBytes_eq_nil_iff, Buffer.toBytes_eq_flatMap_readable, List.flatMap_eq_nil_iff]
    exact fun hnil => Component.isReadable_iff.mp (List.mem_filter.mp hmem).2 (hnil c hmem)
  refine ⟨_, (Gather.toBytes_pieces pieces size Gather.maxReported).trans hbytes, ?_⟩
  unfold requestOf
  rw [if_neg hmessage]
  dsimp only
  rw [if_neg hnonempty, hgather]
  split
  · rename_i c hone
    rw [hone] at hseveral
    exact absurd hseveral (Nat.lt_irrefl 1)
  · rfl

/-- A send of a payload in several stretches is a gather of all its bytes. -/
theorem datagram_of_several {message : Message} {request : SendRequest}
    (hseveral : 1 < message.content.readableComponents.length)
    (hwords : ∀ c ∈ message.content.readableComponents, c.readable < UInt64.size)
    (h : requestOf message = .ok (some request)) :
    request.datagram = ⟨message.content.toBytes, message.recipient, message.segmentSize⟩ ∧
      request.payload.isVectorized = true := by
  let pieces := message.content.readableComponents.map Component.readableBytes
  have hbytes : pieces.flatten = message.content.toBytes := by
    rw [Buffer.toBytes_eq_flatMap_readable, List.flatMap_def]
  have hpieces : ∀ piece ∈ pieces, piece.length < UInt64.size := by
    intro piece hpiece
    obtain ⟨c, hc, rfl⟩ := List.mem_map.mp hpiece
    rw [Component.length_readableBytes]
    exact hwords c hc
  unfold requestOf at h
  split at h
  · cases h
  dsimp only at h
  split at h
  · cases h
  split at h
  · -- One stretch alone would not be a gather.
    rename_i hone
    rw [hone] at hseveral
    exact absurd hseveral (Nat.lt_irrefl 1)
  split at h
  · rename_i hfits
    have hadd : (Gather.empty Gather.maxReported).addAll (pieces.map .ofBytes) =
        (true, ((Gather.empty Gather.maxReported).addReadable message.content).2) := by
      rw [← hfits, Gather.addReadable, List.map_map]
      rfl
    have hall := Gather.toBytes_addAll pieces hpieces hadd
    cases h
    refine ⟨?_, rfl⟩
    simp only [SendRequest.datagram, Payload.toBytes, hall, hbytes]
    rfl
  · cases h

end Channel

end UdpTransport
