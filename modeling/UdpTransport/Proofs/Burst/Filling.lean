import UdpTransport.Proofs.Buffers.Requests
import UdpTransport.Proofs.Burst.Handle
import UdpTransport.Proofs.Memory.Custody

/-!
# What a receive does with its buffer

A datagram is stored in the first component of a receive buffer that has room, and if none has, the
endpoint is not even asked. So a packet can only come of a buffer with room, and what it holds is
this buffer: each component is still in its place and goes on from what it was (`Fills`).
-/

namespace UdpTransport.Channel

open Component (Evolves evolves_refl evolves_trans)

variable {ε ω α : Type} {data filled : Buffer} {packet : Packet} {source : HandleSource ω}

/-- A packet that holds what was read into a buffer. -/
structure Fills (data : Buffer) (packet : Packet) : Prop where
  room : (firstWritable? data).isSome = true
  content : List.Forall₂ Evolves data.components packet.content.components

theorem evolves_stored (data : Buffer) (bytes : Bytes) (amount : Nat) :
    List.Forall₂ Evolves data.components (stored data bytes amount).components :=
  Buffer.forall₂_withComponents
    (Buffer.evolves_updateFirst _ (fun c => (Evolves.poke c bytes).trans (.commit _ _)) _)

section Receiving

variable [Endpoint ε]

theorem returns_readInto {amount : Int}
    (h : (readInto data : NativeAct ε (Buffer × Int)).Returns (filled, amount)) :
    List.Forall₂ Evolves data.components filled.components ∧
      (0 < amount → (firstWritable? data).isSome = true) := by
  unfold readInto at h
  cases hroom : firstWritable? data with
  | none =>
    rw [hroom] at h
    cases Act.returns_pure h
    exact ⟨evolves_refl _, fun hpos => absurd hpos (Int.lt_irrefl 0)⟩
  | some c =>
    rw [hroom] at h
    refine ⟨?_, fun _ => rfl⟩
    obtain ⟨incoming, _, hstored⟩ := Act.returns_bind h
    split at hstored
    · cases Act.returns_pure hstored
      exact evolves_stored ..
    · split at hstored
      · cases Act.returns_pure hstored
        exact evolves_stored ..
      · exact absurd hstored Act.not_returns_throw

theorem returns_receiveInto {received? : Option Received}
    (h : (receiveInto data : NativeAct ε (Buffer × Option Received)).Returns (filled, received?)) :
    List.Forall₂ Evolves data.components filled.components ∧
      (received?.isSome = true → (firstWritable? data).isSome = true) := by
  unfold receiveInto at h
  cases hroom : firstWritable? data with
  | none =>
    rw [hroom] at h
    cases Act.returns_pure h
    exact ⟨evolves_refl _, fun hsome => hsome⟩
  | some c =>
    rw [hroom] at h
    refine ⟨?_, fun _ => rfl⟩
    obtain ⟨found, _, hstored⟩ := Act.returns_bind h
    cases found with
    | none =>
      cases Act.returns_pure hstored
      exact evolves_refl _
    | some received =>
      cases Act.returns_pure hstored
      exact evolves_stored ..

omit [Endpoint ε] in
theorem returns_connectedRead {act : SiteAct ε ω α} {a : α} (h : (connectedRead act).Returns a) :
    act.Returns a := by
  obtain ⟨result, hcapture, hlater⟩ := Act.returns_bind h
  cases result with
  | ok b =>
    rw [Act.returns_pure hlater]
    exact Act.returns_capture hcapture
  | error fault => exact absurd hlater Act.not_returns_throw

/-- **A packet of the connected peer is what was read into.** -/
theorem fills_nextConnected
    (h : (nextConnected source data : SiteAct ε ω (Option Packet)).Returns (some packet)) :
    Fills data packet := by
  obtain ⟨⟨filled, amount⟩, hread, hlater⟩ := Act.returns_bind h
  obtain ⟨hevolves, hroom⟩ := returns_readInto (Act.returns_focus (returns_connectedRead hread))
  obtain ⟨_, _, hlater⟩ := Act.returns_bind hlater
  split at hlater
  · cases Act.returns_pure hlater
  case isFalse hpos =>
    obtain ⟨sender, _, hlater⟩ := Act.returns_bind hlater
    obtain ⟨recipient, _, hlater⟩ := Act.returns_bind hlater
    cases Act.returns_pure hlater
    exact ⟨hroom (Int.not_le.mp hpos), hevolves⟩

/-- **A packet of any sender is what was read into.** -/
theorem fills_nextUnconnected
    (h : (nextUnconnected source data : SiteAct ε ω (Option Packet)).Returns (some packet)) :
    Fills data packet := by
  obtain ⟨⟨filled, received?⟩, hread, hlater⟩ := Act.returns_bind h
  obtain ⟨hevolves, hroom⟩ := returns_receiveInto (Act.returns_focus hread)
  cases received? with
  | none =>
    obtain ⟨_, _, hlater⟩ := Act.returns_bind hlater
    cases Act.returns_pure hlater
  | some received =>
    -- However the recipient was found, the bytes are marked as written last.
    obtain ⟨recipient, hrest⟩ : ∃ recipient,
        (takeIn source filled received recipient : SiteAct ε ω _).Returns (some packet) := by
      dsimp only at hlater
      cases hlocal : received.local? with
      | some address =>
        rw [hlocal] at hlater
        obtain ⟨recipient, _, hlater⟩ := Act.returns_bind hlater
        exact ⟨recipient, hlater⟩
      | none =>
        rw [hlocal] at hlater
        obtain ⟨recipient, _, hlater⟩ := Act.returns_bind hlater
        exact ⟨recipient, hlater⟩
    obtain ⟨_, _, hrest⟩ := Act.returns_bind hrest
    obtain ⟨marked, hskip, hrest⟩ := Act.returns_bind hrest
    cases Act.returns_pure hrest
    have hmarked := Buffer.Request.evolves_of_ask (.skipWritable _) (Act.returns_ofExcept hskip)
    exact ⟨hroom rfl, evolves_trans hevolves hmarked⟩

end Receiving

end UdpTransport.Channel
