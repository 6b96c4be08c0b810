import UdpTransport.Proofs.Buffers.Content
import UdpTransport.Proofs.Outbound.Datagram

/-!
# What a send leaves

The endpoint may take less than it is offered. A payload in one stretch of memory then is left with
the rest (`Buffer.toBytes_takeFrom`), which is what the next attempt offers (`verdictOf_single`). A
payload in several stretches is taken as a whole or not at all (`verdictOf_several`).
-/

namespace UdpTransport

namespace Buffer

variable {buffer : Buffer} {c : Component} {n : Nat}

/-- What is left of a payload if bytes are taken from its first readable component. -/
def takeFrom (n : Nat) (buffer : Buffer) : Buffer :=
  buffer.withComponents (updateFirst Component.isReadable (·.consume n) buffer.components)

theorem updateFirst_append {eligible : Component → Bool} {change : Component → Component}
    {before after : List Component} (hbefore : ∀ c ∈ before, ¬ eligible c) (hc : eligible c) :
    updateFirst eligible change (before ++ c :: after) = before ++ change c :: after := by
  induction before with
  | nil => exact if_pos hc
  | cons first rest ih =>
    obtain ⟨hfirst, hrest⟩ := List.forall_mem_cons.mp hbefore
    exact (if_neg hfirst).trans (congrArg (first :: ·) (ih hrest))

/-- To take nothing leaves everything. -/
theorem takeFrom_zero (buffer : Buffer) : buffer.takeFrom 0 = buffer := by
  have hsame : ∀ components : List Component,
      updateFirst Component.isReadable (·.consume 0) components = components := by
    intro components
    induction components with
    | nil => rfl
    | cons c rest ih =>
      rw [updateFirst, ih]
      split
      · rw [Component.consume_zero]
      · rfl
  obtain ⟨contents, hint⟩ := buffer
  rw [takeFrom, hsame]
  cases contents <;> rfl

theorem readableComponents_takeFrom (h : buffer.readableComponents = [c]) :
    (buffer.takeFrom n).readableComponents = [c.consume n].filter Component.isReadable := by
  obtain ⟨before, after, hcomponents, hbefore, hc, hafter⟩ := List.filter_eq_cons_iff.mp h
  have hopen : (buffer.takeFrom n).components =
      updateFirst Component.isReadable (·.consume n) buffer.components := by
    obtain ⟨contents, hint⟩ := buffer
    cases contents with
    | none => cases h
    | some components => rfl
  rw [readableComponents, hopen, hcomponents, updateFirst_append hbefore hc, List.filter_append,
    List.filter_eq_nil_iff.mpr hbefore, List.nil_append, List.filter_cons, List.filter_cons, hafter,
    List.filter_nil]

theorem toBytes_of_single (h : buffer.readableComponents = [c]) :
    buffer.toBytes = c.readableBytes := by
  rw [toBytes_eq_flatMap_readable, h, List.flatMap_cons]
  exact List.append_nil _

/-- **The rest stays.** What is taken is gone from the front, and nothing else is. -/
theorem toBytes_takeFrom (h : buffer.readableComponents = [c]) (n : Nat) :
    (buffer.takeFrom n).toBytes = buffer.toBytes.drop n := by
  rw [toBytes_of_single h, ← Component.readableBytes_consume, toBytes_eq_flatMap_readable,
    readableComponents_takeFrom h]
  by_cases hrest : (c.consume n).isReadable
  · rw [List.filter_cons_of_pos hrest]
    exact List.append_nil _
  · rw [List.filter_cons_of_neg hrest, Component.readableBytes_eq_nil hrest]
    rfl

theorem readable_takeFrom (h : buffer.readableComponents = [c]) (n : Nat) :
    (buffer.takeFrom n).readable = buffer.readable - n := by
  rw [← length_toBytes, toBytes_takeFrom h, List.length_drop, length_toBytes]

end Buffer

namespace Channel

variable {message : Message} {c : Component} {amount : Int}

/-- An answer within what was offered takes as many bytes, and the message is done with iff these
were all. -/
theorem verdictOf_single (h : message.content.readableComponents = [c]) (hle : 0 ≤ amount)
    (hamount : amount.toNat ≤ message.content.readable) :
    verdictOf message amount = .ok (message.withContent (message.content.takeFrom amount.toNat),
      decide (amount.toNat = message.content.readable)) := by
  have hreadable : message.content.readable = c.readable := by
    rw [← Buffer.length_toBytes, Buffer.toBytes_of_single h, Component.length_readableBytes]
  have htaken : taken message.content c amount =
      .ok (message.content.takeFrom amount.toNat) := by
    unfold taken
    split
    · -- Nothing was taken.
      rw [show amount.toNat = 0 by omega, Buffer.takeFrom_zero]
    · rw [if_pos (hreadable ▸ hamount)]
      rfl
  have hdone : (decide ((message.content.takeFrom amount.toNat).readable = 0)) =
      decide (amount.toNat = message.content.readable) := by
    rw [Buffer.readable_takeFrom h]
    exact decide_eq_decide.mpr (by omega)
  unfold verdictOf
  rw [h]
  dsimp only
  rw [htaken, ← hdone]
  rfl

theorem verdictOf_several (h : 1 < message.content.readableComponents.length) :
    verdictOf message amount = .ok (message, decide (0 < amount)) := by
  unfold verdictOf
  split
  · rename_i hone
    rw [hone] at h
    exact absurd h (Nat.lt_irrefl 1)
  · rfl

end Channel

end UdpTransport
