import UdpTransport.Proofs.Memory.Channels
import UdpTransport.Scenario.Run

/-!
# Nothing is left in the end

At the end of a scenario every object that is left is destroyed: messages and buffers are given back
at once, and channels are removed one by one. Removing a channel succeeds whatever its endpoint
makes of it, so none is left (`World.triple_removeAll`), and whatever was allocated has been
released by then (`World.triple_dismantle`).
-/

namespace UdpTransport.Scenario.World

variable {depth : Nat}

/-- Channels that are removed one by one leave nothing behind if no other channel is there. -/
theorem triple_removeAll (names : List String) {raised : Fault → World → Prop} :
    Act.Triple (fun world => world.outside.held = 0 ∧ (custody depth world).Balanced 0 ∧
        ∀ entry ∈ world.stations.entries, entry.1 ∈ names)
      (forNames Transport.remove names) (fun _ world => world.host.ledger.Balanced 0) raised := by
  -- With every name the stations get fewer, and those left are named further on.
  induction names with
  | nil =>
    refine .pure ?_
    rintro world ⟨hheld, hbalanced, hnames⟩
    have hnone : world.stations.entries = [] :=
      List.eq_nil_iff_forall_not_mem.mpr fun entry hentry => List.not_mem_nil (hnames entry hentry)
    have hstored : 0 + (world.stations.total Station.uses + world.outside.held) = 0 := by
      unfold Named.total Named.values
      rw [hnone, hheld]
      rfl
    exact hstored ▸ hbalanced.books
  | cons name rest ih =>
    refine .pointwise ?_
    rintro world ⟨hheld, hbalanced, hnames⟩
    obtain ⟨host, hrun⟩ := Transport.run_remove hbalanced name
    have hafter := (Transport.conserves_remove name).balanced_after hbalanced
    rw [Act.after_of_ok hrun] at hafter
    refine .of_run (Act.bind_of_ok hrun) (ih.starting ⟨hheld, hafter, fun entry hentry => ?_⟩)
    obtain ⟨hbefore, hother⟩ := List.mem_filter.mp hentry
    exact List.mem_of_ne_of_mem (bne_iff_ne.mp hother) (hnames entry hbefore)

/-- A buffer that is given back leaves the objects as they are. -/
theorem triple_giveBack {taken more : Multiset AllocatorId} {buffer : Buffer}
    (htaken : taken = buffer.uses + more) {raised : Fault → World → Prop} :
    Act.Triple (fun world => world.outside.held = 0 ∧ (custody depth world).Balanced taken)
      (liftM (Ledger.discard buffer) : WorldAct Unit)
      (fun _ world => world.outside.held = 0 ∧ (custody depth world).Balanced more) raised := by
  refine .pointwise ?_
  rintro world ⟨hheld, hbalanced⟩
  have hrun : (liftM (Ledger.discard buffer) : WorldAct Unit).run world =
      .ok () { world with host := { world.host with
        ledger := world.host.ledger.release buffer.components } } := rfl
  refine .of_ok hrun ⟨hheld, ?_, hbalanced.sound⟩
  have hbooks := hbalanced.books
  rw [htaken, add_assoc] at hbooks
  exact hbooks.release

/-- **When every object is destroyed, every component has been released.** -/
theorem triple_dismantle :
    Act.Triple (fun world => (custody 0 world).Balanced 0) dismantle
      (fun _ world => world.host.ledger.Balanced 0)
      fun _ world => world.host.ledger.Balanced 0 := by
  refine triple_bench fun objects => ?_
  have hbuffers : objects.buffers.total Buffer.uses =
      (Buffer.compose objects.buffers.values).uses + 0 := by
    rw [add_zero, Buffer.uses_compose]
    rfl
  have hmessages : objects.messages.total Message.uses + objects.buffers.total Buffer.uses =
      (Buffer.compose (objects.messages.values.map Message.content)).uses +
        objects.buffers.total Buffer.uses := by
    rw [Buffer.uses_compose, List.map_map]
    rfl
  -- No handler is running, so nothing but channels holds anything once the rest is put away.
  refine Act.Triple.via (fun _ world => world.outside.held = 0 ∧ (custody 0 world).Balanced
    (objects.messages.total Message.uses + objects.buffers.total Buffer.uses)) ?_ fun _ => ?_
  · refine Act.Triple.modify ?_
    rintro world ⟨rfl, hbalanced⟩
    have hhand : world.outside.inHand = [] := List.length_eq_zero_iff.mp hbalanced.sound
    have hheld : Bench.held { world.outside with messages := {}, buffers := {} } = 0 := by
      unfold Bench.held
      rw [hhand]
      rfl
    have hbefore : world.outside.held = world.outside.messages.total Message.uses +
        world.outside.buffers.total Buffer.uses := by
      unfold Bench.held
      rw [hhand, add_comm (world.outside.buffers.total _)]
      exact add_zero _
    refine ⟨hheld, ?_, hbalanced.sound⟩
    show Ledger.Balanced _ (_ + (world.stations.total Station.uses +
      Bench.held { world.outside with messages := {}, buffers := {} }))
    rw [hheld, add_zero, ← hbefore, add_comm]
    have hbooks : world.host.ledger.Balanced
      (0 + (world.stations.total Station.uses + world.outside.held)) := hbalanced.books
    rwa [zero_add] at hbooks
  refine Act.Triple.bind (triple_giveBack hmessages) fun _ => ?_
  refine Act.Triple.bind (triple_giveBack hbuffers) fun _ => ?_
  refine Act.Triple.via (fun found world => world.outside.held = 0 ∧
      (custody 0 world).Balanced 0 ∧ ∀ entry ∈ world.stations.entries,
        entry.1 ∈ found.stations.names)
    (.get fun world h => ⟨h.1, h.2, fun entry hentry => List.mem_map_of_mem hentry⟩) fun found => ?_
  refine Act.Triple.bind (triple_removeAll _) fun _ => ?_
  refine .of_within ((?_ : Act.Within (Act.Fixing (custody 0)) _).mono
    fun world world' hsame hbalanced => ?_)
  · refine Act.within_bind (within_custody_arrange fun _ => rfl) fun _ => ?_
    refine Act.within_bind ?_ fun _ => Act.within_bind ?_ fun _ => Act.within_pure _
    · exact Act.within_for (fun socket => Transport.within_custody_native _) _
    · exact Act.within_for EventLoop.within_custody_drop _
  · have hledger : world'.host.ledger = world.host.ledger := congrArg Custody.ledger hsame
    show world'.host.ledger.Balanced 0
    rw [hledger]
    exact hbalanced

end UdpTransport.Scenario.World
