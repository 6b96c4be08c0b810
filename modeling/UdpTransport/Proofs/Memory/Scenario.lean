import UdpTransport.Proofs.Memory.Ending

/-!
# Every component is released once

A scenario does anything in any order: it allocates, copies, wraps, moves, composes, closes and
destroys, makes messages and writes them, and what handlers do about packets is again a list of
steps. Each step keeps the books, however deep it is nested and whether or not it fails
(`World.conserves_perform`), so by induction over the steps a whole scenario does.

**The main result is `World.accounted_reportAll`**: in every state that can be reached, what an
allocator has allocated and not released is what the objects that are there hold of it; and when
these have been destroyed, nothing is left that was not released.
-/

namespace UdpTransport.Scenario.World

variable {depth : Nat} {left : Multiset AllocatorId} {listener : Listener Bench}

/-! ## Packets in hand -/

/-- The packet in hand is given away as a whole. -/
theorem balances_takeInHand : Act.Balances (custody depth) 0 takeInHand Channel.fetched 0 := by
  refine balances_bench fun bench rest => ?_
  refine Act.Triple.via (fun _ world =>
      (custody depth world).Balanced (Channel.fetched bench.inHand.head? + rest))
    (triple_arrange _ ?_ ?_) fun _ => .pure fun _ h => h
  · unfold Bench.held
    dsimp only
    cases bench.inHand with
    | nil => rfl
    | cons packet others =>
      show packet.content.uses + (_ + (0 + (others.map (·.content.uses)).sum)) =
        0 + (_ + (packet.content.uses + (others.map (·.content.uses)).sum))
      abel
  · dsimp only
    cases bench.inHand with
    | nil => exact id
    | cons packet others => exact id

theorem within_roster_takeInHand : Act.Within (Act.Fixing roster) takeInHand := by
  refine Act.within_bind (within_roster_of within_bench) fun bench => ?_
  exact Act.within_bind (within_roster_arrange fun _ => rfl) fun _ => Act.within_pure _

/-- A packet is sent back as it was received, by a channel that is there. -/
theorem conserves_performEcho (channel : String) :
    Act.Conserves (custody depth) (performEcho channel) := by
  refine conserves_station balances_takeInHand within_roster_takeInHand fun packet? rest => ?_
  cases packet? with
  | none => exact .pure fun _ h => h.2
  | some packet =>
    exact triple_handedOut
      (Channel.balances_write (.packet ⟨packet.content, packet.sender, none⟩)) rest

theorem conserves_performKeep (channel name : String) :
    Act.Conserves (custody depth) (performKeep channel name) := by
  have hshow : Act.Conserves (custody depth) (do
      known channel
      showChannel channel {}) :=
    conserves_of (Act.within_bind (within_known channel) fun _ => within_showChannel channel _)
  refine Act.Balances.bind balances_takeInHand fun packet? _ => ?_
  cases packet? with
  | none => exact hshow
  | some packet =>
    exact Act.Balances.bind (balances_storeMessage name (.packet packet)) fun _ _ => hshow

/-- A handler has one packet more in hand while it runs. What is left of the packet when it is done
is given back. -/
theorem balances_holding (packet : Packet) {act : WorldAct Unit}
    (h : Act.Conserves (custody (depth + 1)) act) :
    Act.Balances (custody depth) packet.content.uses (holding packet act) (fun _ => 0) 0 := by
  intro rest
  -- The packet is in hand while the action runs, so the books are one deeper there.
  refine Act.Triple.via (fun _ world => (custody (depth + 1) world).Balanced (0 + rest)) ?_
    fun _ => ?_
  · refine .pointwise fun world hbalanced => ?_
    have hpush : Act.Triple
        (fun world' => world'.outside = world.outside ∧
          (custody depth world').Balanced (packet.content.uses + rest))
        (arrange fun bench => { bench with inHand := packet :: bench.inHand })
        (fun _ world' => (custody (depth + 1) world').Balanced (0 + rest))
        fun _ world' => (custody depth world').Balanced (0 + rest) := by
      refine triple_arrange world.outside ?_ (congrArg (· + 1))
      rw [zero_add]
      exact world.outside.held_push packet
    exact hpush.starting ⟨rfl, hbalanced⟩
  refine Act.Triple.via (fun _ world => (custody (depth + 1) world).Balanced (0 + rest))
    (.capture (h rest)) fun result => ?_
  refine Act.Triple.via (fun _ world => (custody depth world).Balanced (0 + rest)) ?_
    fun _ => (Act.Conserves.fixing (Act.within_ofExcept result)) rest
  refine triple_bench fun bench => ?_
  refine Act.Triple.via (fun _ world =>
      (custody depth world).Balanced (Channel.fetched bench.inHand.head? + rest))
    (triple_arrange _ ?_ fun hdepth => ?_) fun _ => ?_
  · unfold Bench.held
    dsimp only
    cases bench.inHand with
    | nil => rfl
    | cons packet others =>
      show packet.content.uses + (_ + (others.map (·.content.uses)).sum) =
        0 + (_ + (packet.content.uses + (others.map (·.content.uses)).sum))
      abel
  · rw [List.length_tail, hdepth, Nat.add_sub_cancel]
  · cases bench.inHand.head? with
    | none => exact .pure fun _ h => h
    | some packet => exact balances_discard (add_zero _).symm rest

/-! ## Steps -/

theorem within_performKernel (answers : Script) :
    Act.Within (Act.Fixing belongings) (performKernel answers) :=
  Act.within_bind (within_native _) fun _ => Act.within_pure _

/-- **Every step keeps the books** if the listener does, failed or not. -/
theorem conserves_perform (hlistener : Transport.Bookkeeping (Bench.holding depth) listener)
    (step : Step) :
    Act.Conserves (custody depth) (perform listener step) := by
  cases step with
  | buffer step => exact conserves_performBuffer step
  | message step => exact conserves_performMessage step
  | gather name step => exact conserves_of (within_performGather name step)
  | makePolicy name spec => exact conserves_of (within_performMakePolicy name spec)
  | changePolicy name heed count => exact conserves_of (within_performChangePolicy name heed count)
  | makeHandle name policy => exact conserves_of (within_performMakeHandle name policy)
  | handle name step => exact conserves_performHandle name step
  | log step => exact conserves_of (within_performLog step)
  | openChannel name spec =>
    exact Act.Conserves.bind (conserves_makeChannel name spec) fun _ => .pure _
  | channel name step => exact conserves_performChannel hlistener name step
  | script name packet complete failure =>
    exact .fixing (within_custody_performScript name packet complete failure)
  | socket name step => exact conserves_of (within_performSocket name step)
  | kernel answers => exact conserves_of (within_performKernel answers)
  | loop name step => exact conserves_performLoop hlistener name step
  | fail fault => exact .throw fault
  | echo channel => exact conserves_performEcho channel
  | keep channel name => exact conserves_performKeep channel name

theorem conserves_performAll (hlistener : Transport.Bookkeeping (Bench.holding depth) listener)
    (steps : List Step) : Act.Conserves (custody depth) (performAll listener steps) := by
  induction steps with
  | nil => exact .pure ()
  | cons step rest ih => exact Act.Conserves.bind (conserves_perform hlistener step) fun _ => ih

/-- Laying a script aside for the next time has nothing to do with memory, and never fails. -/
theorem balances_takeScript (channel : String) (callback : Callback)
    {taken : Multiset AllocatorId} :
    Act.Balances (custody depth) taken (takeScript channel callback) (fun _ => taken) left := by
  refine .aside ?_ fun world => ⟨_, _, rfl⟩
  refine Act.within_bind (within_custody_of within_bench) fun bench => ?_
  exact Act.within_bind (within_custody_arrange fun _ => rfl) fun _ => Act.within_pure _

/-- **The handlers of a scenario keep the books**, however deep they are nested. -/
theorem bookkeeping_listener (bound : Nat) :
    ∀ depth, Transport.Bookkeeping (Bench.holding depth) (World.listener bound) := by
  induction bound with
  | zero =>
    intro depth name callback
    cases callback with
    | packet packet => exact balances_holding packet (.pure ())
    | readComplete => exact Act.Conserves.pure ()
    | failure fault => exact Act.Conserves.pure ()
  | succ bound ih =>
    intro depth name callback
    refine Act.Balances.bind (balances_takeScript name callback) fun script _ => ?_
    cases callback with
    | packet packet => exact balances_holding packet (conserves_performAll (ih _) script)
    | readComplete => exact conserves_performAll (ih depth) script
    | failure fault => exact conserves_performAll (ih depth) script

/-! ## Reports -/

/-- A report is about the past. -/
theorem custody_reporting (act : WorldAct Reply) (world : World) :
    custody depth (reporting act world).2 = custody depth (act.after world) := by
  unfold reporting Act.after
  rw [show act.run world = act world from rfl]
  cases act world <;> rfl

/-- Steps keep the books, whatever they do and however many of them fail. -/
theorem balanced_reportAll (hlistener : Transport.Bookkeeping (Bench.holding depth) listener)
    (steps : List Step) {world : World} {inHand : Multiset AllocatorId}
    (h : (custody depth world).Balanced inHand) :
    (custody depth (reportAll listener steps world).2).Balanced inHand := by
  induction steps generalizing world with
  | nil => exact h
  | cons step rest ih =>
    have hstep : (custody depth (reporting (perform listener step) world).2).Balanced inHand := by
      rw [custody_reporting]
      exact (conserves_perform hlistener step).balanced_after h
    exact ih hstep

/-- At first nothing is in use. -/
theorem balanced_initial (threshold : Log.Level) : (custody 0 (initial threshold)).Balanced 0 := by
  have hempty : Ledger.Balanced ⟨[]⟩ 0 :=
    { counted := fun h => nomatch h
      known := fun _ h => absurd h (Multiset.notMem_zero _)
      writable := fun h => nomatch h }
  have hdirect : Ledger.Balanced ⟨[{ kind := .direct }]⟩ 0 := hempty.append (by decide)
  exact ⟨hdirect.append (by decide : MemoryKind.heap ≠ .borrowed), rfl⟩

/-! ## The books of a scenario -/

/-- The allocators of the components that live objects hold, each as often as it has a component
there: in buffers, in messages, in the packets that handlers have in hand, and in the queues of
channels. -/
def live (world : World) : Multiset AllocatorId :=
  world.outside.buffers.total Buffer.uses + world.outside.messages.total Message.uses +
    (world.outside.inHand.map (·.content.uses)).sum + world.stations.total Station.uses

/-- The counts of every allocator tell how many of its components live objects hold, and every
component that they hold is counted. -/
structure Accounted (world : World) : Prop where
  released : ∀ {id account}, world.host.ledger.account? id = some account →
    account.released ≤ account.allocated
  outstanding : ∀ {id account}, world.host.ledger.account? id = some account →
    account.outstanding = (live world).count id
  known : ∀ id ∈ live world, (world.host.ledger.account? id).isSome

theorem Accounted.of_balanced {world : World} (h : (custody depth world).Balanced 0) :
    Accounted world := by
  have hlive : world.host.ledger.Balanced (live world) := by
    have hbooks : world.host.ledger.Balanced (0 + (world.stations.total Station.uses +
      world.outside.held)) := h.books
    rwa [zero_add, add_comm] at hbooks
  constructor
  case released =>
    intro id account haccount
    have hcounted := hlive.counted haccount
    omega
  case outstanding =>
    intro id account haccount
    have hcounted := hlive.counted haccount
    unfold Account.outstanding
    omega
  case known => exact hlive.known

/-- **Every component is counted as allocated once and as released once.** Whatever a scenario does,
and however many of its steps fail, after every step what an allocator has allocated and not
released is what live objects hold of it; and once the objects that are left have been destroyed,
it has released all that it has allocated. -/
theorem accounted_reportAll (threshold : Log.Level) (bound : Nat) (steps : List Step) :
    let world := (reportAll (World.listener bound) steps (initial threshold)).2
    Accounted world ∧ ∀ id account,
      (dismantle.after world).host.ledger.account? id = some account →
        account.released = account.allocated := by
  have hbalanced := balanced_reportAll (bookkeeping_listener bound 0) steps
    (balanced_initial threshold)
  refine ⟨.of_balanced hbalanced, fun id account haccount => ?_⟩
  have hended : (dismantle.after (reportAll (World.listener bound) steps
      (initial threshold)).2).host.ledger.Balanced 0 := by
    cases hrun : dismantle.run (reportAll (World.listener bound) steps (initial threshold)).2 with
    | ok reply reached => exact Act.after_of_ok hrun ▸ triple_dismantle.ok hbalanced hrun
    | error fault reached => exact Act.after_of_error hrun ▸ triple_dismantle.error hbalanced hrun
  exact (hended.counted haccount).symm

end UdpTransport.Scenario.World
