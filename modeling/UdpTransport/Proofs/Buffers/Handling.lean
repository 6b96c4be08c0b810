import UdpTransport.Proofs.Buffers.Lineage
import UdpTransport.Proofs.Buffers.Visits
import UdpTransport.Proofs.Memory.Objects

/-!
# Handling buffers

The steps on allocators and buffers make, join, move, change and close buffers, and may fail on the
way. An operation may also have components in its hands that no buffer of the scenario holds,
because it has just made them or taken a buffer apart. `World.Hands taken act given` says that the
components in hand and those in buffers together descend from what was there before
(`World.Descends`), if they did when the operation took over `taken`; on success it leaves `given`
in hand, and a failure leaves nothing there. There is one rule for each building block, and from
them every step hands on what it takes (`World.hands_performBuffer`).
-/

namespace UdpTransport.Scenario

open Buffer (stock stockAll stock_closed stock_compose rel_stock)

namespace World

variable {α β : Type} {name : String} {before world : World} {taken : Multiset Component}
  {given : α → Multiset Component}

/-- The components of all buffers. -/
def components (world : World) : Multiset Component := world.outside.buffers.sum stock

/-- What is in hand and in buffers descends from what was there before. -/
def Descends (before : World) (inHand : Multiset Component) (world : World) : Prop :=
  Lineage before.host.ledger world.host.ledger before.components (inHand + world.components)

/-- An operation hands on what it takes over, and what it makes or takes out. -/
def Hands (taken : Multiset Component) (act : WorldAct α) (given : α → Multiset Component) : Prop :=
  ∀ before rest, Act.Triple (Descends before (taken + rest)) act
    (fun a => Descends before (given a + rest)) fun _ => Descends before rest

namespace Descends

variable {inHand gone : Multiset Component}

/-- Less may be in hand. -/
theorem giveBack (h : Descends before (gone + inHand) world) : Descends before inHand world := by
  unfold Descends at h
  rw [add_assoc] at h
  exact Lineage.giveBack h

theorem congr {world' : World} (h : Descends before inHand world)
    (hledger : ∀ id, world'.host.ledger.allocated id = world.host.ledger.allocated id)
    (hbuffers : world'.outside.buffers = world.outside.buffers) :
    Descends before inHand world' := by
  have hsame : world'.components = world.components := congrArg (Named.sum stock) hbuffers
  unfold Descends
  rw [hsame]
  exact Lineage.counting h hledger

end Descends

/-! ## Rules -/

namespace Hands

theorem pure {a : α} (h : given a = taken) : Hands taken (Pure.pure a : WorldAct α) given :=
  fun _ _ => .pure fun _ hworld => h ▸ hworld

theorem throw {fault : Fault} : Hands taken (MonadExcept.throw fault : WorldAct α) given :=
  fun _ _ => .throw fun _ hworld => hworld.giveBack

theorem bind {act : WorldAct α} {next : α → WorldAct β} {mid : α → Multiset Component}
    {given : β → Multiset Component} (first : Hands taken act mid)
    (later : ∀ a, Hands (mid a) (next a) given) : Hands taken (act >>= next) given :=
  fun before rest => .bind (first before rest) fun a => later a before rest

/-- What concerns no memory leaves in hand what was there. -/
theorem of_within {act : WorldAct α} (h : Act.Within (Act.Fixing belongings) act) :
    Hands taken act fun _ => taken := by
  have hsame : ∀ world, (act.after world).host.ledger = world.host.ledger ∧
      (act.after world).outside.buffers = world.outside.buffers := by
    intro world
    have hworld := h world
    simp only [Act.Fixing, belongings, Prod.mk.injEq] at hworld
    exact ⟨hworld.1, hworld.2.2.1⟩
  intro before rest
  constructor
  case ok =>
    intro world a world' hworld hrun
    obtain ⟨hledger, hbuffers⟩ := hsame world
    rw [Act.after_of_ok hrun] at hledger hbuffers
    exact hworld.congr (fun _ => by rw [hledger]) hbuffers
  case error =>
    intro world fault world' hworld hrun
    obtain ⟨hledger, hbuffers⟩ := hsame world
    rw [Act.after_of_error hrun] at hledger hbuffers
    exact (hworld.congr (fun _ => by rw [hledger]) hbuffers).giveBack

end Hands

/-! ## Memory -/

/-- What the ledger supplies is in hand. -/
theorem hands_ledger {act : Act Ledger α} (h : Ledger.Supplies act given) :
    Hands 0 (liftM act : WorldAct α) given := by
  intro before rest
  rw [zero_add]
  refine Act.Triple.focus fun world hworld => ?_
  refine Act.Triple.focus fun host hhost => ?_
  subst hhost
  refine (h _ _ _).starting hworld |>.weaken (fun _ h => h) (fun a ledger hledger => ?_)
    fun _ _ h => h
  rw [← add_assoc] at hledger
  exact hledger

theorem hands_discard {buffer : Buffer} {more : Multiset Component}
    (h : taken = stock buffer + more) :
    Hands taken (liftM (Ledger.discard buffer) : WorldAct Unit) fun _ => more := by
  intro before rest
  refine (hands_ledger (Ledger.supplies_discard buffer) before (more + rest)).weaken
    (fun world hworld => ?_) (fun _ world hworld => ?_) fun _ world hworld => hworld.giveBack
  · rw [h, add_assoc] at hworld
    exact (zero_add (more + rest)).symm ▸ hworld.giveBack
  · exact zero_add (more + rest) ▸ hworld

/-! ## Buffers -/

/-- A buffer that is put under a name takes the place of the one that was there. -/
theorem stock_put (buffers : Named Buffer) (name : String) (buffer : Buffer) :
    stock ((buffers.get? name).getD .closed) + (buffers.put name buffer).sum stock =
      stock buffer + buffers.sum stock := by
  rw [Named.sum_put, Named.sum_getD stock stock_closed buffers name]
  abel

theorem stock_erase (buffers : Named Buffer) (name : String) :
    stock ((buffers.get? name).getD .closed) + (buffers.erase name).sum stock =
      buffers.sum stock :=
  (Named.sum_getD stock stock_closed buffers name).symm

/-- Components are exchanged between hands and buffers, and may go on meanwhile. -/
theorem triple_exchange {f : Bench → Bench} (bench : Bench) {given rest : Multiset Component}
    {raised : Fault → World → Prop}
    (h : Multiset.Rel Component.Evolves (taken + bench.buffers.sum stock)
      (given + (f bench).buffers.sum stock)) :
    Act.Triple (fun world => world.outside = bench ∧ Descends before (taken + rest) world)
      (arrange f) (fun _ => Descends before (given + rest)) raised := by
  refine Act.Triple.modify ?_
  rintro world ⟨rfl, hworld⟩
  -- What else is in hand takes no part in the exchange.
  have hrel := Multiset.Rel.add (Lineage.rel_refl rest) h
  have hsum : ∀ inHand stored : Multiset Component,
      rest + (inHand + stored) = inHand + rest + stored := fun _ _ => by abel
  rw [hsum, hsum] at hrel
  exact Lineage.evolve hworld hrel

/-- What is done with an object that was found may rely on its being there. -/
theorem hands_find {object : Type} {shelf : Bench → Named object} {next : object → WorldAct α}
    (h : ∀ bench found, (shelf bench).get? name = some found → ∀ before rest,
      Act.Triple (fun world => world.outside = bench ∧ Descends before (taken + rest) world)
        (next found) (fun a => Descends before (given a + rest)) fun _ => Descends before rest) :
    Hands taken (find shelf name >>= next) given := by
  intro before rest
  refine .pointwise fun world hworld => ?_
  cases hfound : (shelf world.outside).get? name with
  | none => exact .of_error (Act.bind_of_error (run_find_none hfound)) hworld.giveBack
  | some found =>
    refine .of_run (Act.bind_of_ok (run_find_some hfound)) ?_
    exact (h world.outside found hfound before rest).starting ⟨rfl, hworld⟩

/-- A buffer that is stored is in hand no more, and the one that was there is given back. -/
theorem hands_storeBuffer (name : String) (buffer : Buffer) :
    Hands (stock buffer) (storeBuffer name buffer) fun _ => 0 := by
  intro before rest
  refine triple_bench fun bench => ?_
  refine Act.Triple.via
    (fun _ => Descends before (stock ((bench.buffers.get? name).getD .closed) + rest))
    (triple_exchange bench ?_) fun _ => hands_discard (add_zero _).symm before rest
  rw [stock_put]
  exact Lineage.rel_refl _

/-- A buffer that is taken leaves nothing behind. -/
theorem hands_takeBuffer (name : String) : Hands 0 (takeBuffer name) stock := by
  refine hands_find fun bench found hfound before rest => ?_
  refine Act.Triple.via (fun _ => Descends before (stock found + rest)) (triple_exchange bench ?_)
    fun _ => .pure fun _ h => h
  have hput := stock_put bench.buffers name .closed
  rw [hfound] at hput
  rw [show stock found + _ = _ from hput]
  exact Lineage.rel_refl _

/-- A buffer whose components go on is changed in its place. -/
theorem hands_onBuffer {act : Buffer → Except Fault (α × Buffer)}
    (h : ∀ {buffer a after}, act buffer = .ok (a, after) →
      List.Forall₂ Component.Evolves buffer.components after.components) :
    Hands 0 (onBuffer name act) fun _ => 0 := by
  refine hands_find fun bench found hfound before rest => ?_
  cases hact : act found with
  | error fault => exact .throw_bind fun world hworld => hworld.2.giveBack
  | ok result =>
    obtain ⟨a, after⟩ := result
    show Act.Triple _ (setBuffer name after >>= fun _ => pure a) _ _
    refine Act.Triple.via (fun _ => Descends before (0 + rest)) (triple_exchange bench ?_)
      fun _ => .pure fun _ h => h
    have hothers := Named.sum_erase stock hfound
    rw [zero_add, zero_add, hothers]
    show Multiset.Rel _ _ ((bench.buffers.put name after).sum stock)
    rw [Named.sum_put]
    exact (rel_stock (h hact)).add (Lineage.rel_refl _)

/-- A buffer that an operation fails on is given back. -/
theorem hands_orDiscard {buffer : Buffer} {act : Except Fault Buffer}
    (h : ∀ after, act = .ok after →
      List.Forall₂ Component.Evolves buffer.components after.components) :
    Hands (stock buffer) (orDiscard buffer act) stock := by
  cases act with
  | ok after =>
    intro before rest
    refine .pure fun world hworld => ?_
    have hrel := ((rel_stock (h after rfl)).add (Lineage.rel_refl rest)).add
      (Lineage.rel_refl world.components)
    exact Lineage.evolve hworld hrel
  | error fault => exact (hands_discard (add_zero _).symm).bind fun _ => .throw

/-! ## Making buffers -/

/-- A buffer is kept in hand while others are made or taken, and given back if that fails. -/
theorem hands_cons {first : Buffer} {others : WorldAct (List Buffer)}
    {next : Except Fault (List Buffer) → WorldAct (List Buffer)} (h : Hands 0 others stockAll)
    (hok : ∀ buffers, next (.ok buffers) = pure (first :: buffers))
    (herror : ∀ fault, next (.error fault) = (do
      Ledger.discard first
      throw fault)) :
    Hands (stock first) (others.capture >>= next) stockAll := by
  intro before rest
  have hothers := h before (stock first + rest)
  rw [zero_add] at hothers
  refine Act.Triple.capture_bind hothers (fun buffers => ?_) fun fault => ?_
  · rw [hok]
    refine .pure fun world hworld => ?_
    have hsum : stockAll buffers + (stock first + rest) = stockAll (first :: buffers) + rest := by
      rw [stockAll, stockAll, List.map_cons, List.sum_cons]
      abel
    exact hsum ▸ hworld
  · rw [herror]
    exact (hands_discard (add_zero _).symm).bind (fun _ => .throw) before rest

theorem hands_takeBuffers (names : List String) : Hands 0 (takeBuffers names) stockAll := by
  induction names with
  | nil => exact .pure rfl
  | cons name rest ih =>
    exact (hands_takeBuffer name).bind fun _ => hands_cons ih (fun _ => rfl) fun _ => rfl

theorem hands_makeCopies {make : WorldAct Buffer} (h : Hands 0 make stock) (count : Nat) :
    Hands 0 (makeCopies make count) stockAll := by
  induction count with
  | zero => exact .pure rfl
  | succ count ih => exact h.bind fun _ => hands_cons ih (fun _ => rfl) fun _ => rfl

theorem hands_compose {parts : WorldAct (List Buffer)} (h : Hands 0 parts stockAll) :
    Hands 0 (do return .compose (← parts)) stock :=
  h.bind fun buffers => .pure (stock_compose buffers)

mutual

/-- What is made from a description is made by allocators, or taken from other buffers. -/
theorem hands_makeBuffer : ∀ spec : BufferSpec, Hands 0 (makeBuffer spec) stock
  | .use _ => hands_takeBuffer _
  | .closed => .pure rfl
  | .parts parts => hands_compose (hands_makeBuffers parts)
  | .repeated count part => hands_compose (hands_makeCopies (hands_makeBuffer part) count)
  | .wrapped _ bytes =>
    (Hands.of_within (within_find _ _)).bind fun id =>
      hands_ledger (Ledger.supplies_wrap id bytes)
  | .filled _ capacity bytes =>
    (Hands.of_within (within_find _ _)).bind fun id =>
      (hands_ledger (Ledger.supplies_allocate id capacity)).bind fun _ =>
        hands_orDiscard fun _ => Buffer.Request.evolves_of_ask (.write bytes)
  | .skipping count spec =>
    (hands_makeBuffer spec).bind fun _ =>
      hands_orDiscard fun _ => Buffer.Request.evolves_of_ask (.skipReadable count)
  | .touched _ spec => (hands_makeBuffer spec).bind fun _ => .pure rfl

theorem hands_makeBuffers : ∀ specs : List BufferSpec, Hands 0 (makeBuffers specs) stockAll
  | [] => .pure rfl
  | spec :: rest =>
    (hands_makeBuffer spec).bind fun _ =>
      hands_cons (hands_makeBuffers rest) (fun _ => rfl) fun _ => rfl

end

/-! ## Steps -/

theorem hands_show (name : String) (result : Option Value) :
    Hands 0 (showBuffer name result) fun _ => 0 := .of_within (within_showBuffer name result)

/-- A buffer that was made is stored and shown. -/
theorem hands_storing {make : WorldAct Buffer} (h : Hands 0 make stock) (name : String)
    (result : Option Value) :
    Hands 0 (do
      let made ← make
      storeBuffer name made
      showBuffer name result) fun _ => 0 :=
  h.bind fun made => (hands_storeBuffer name made).bind fun _ => hands_show name result

/-- The components of the buffer of a name go on. -/
theorem hands_revising {act : Buffer → Except Fault Buffer}
    (h : ∀ buffer {after}, act buffer = .ok after →
      List.Forall₂ Component.Evolves buffer.components after.components) (result : Option Value) :
    Hands 0 (do
      onBuffer name fun buffer => return ((), ← act buffer)
      showBuffer name result) fun _ => 0 := by
  refine (hands_onBuffer ?_).bind fun _ => hands_show name result
  intro buffer _ after hact
  cases hrevised : act buffer with
  | error fault =>
    rw [hrevised] at hact
    cases hact
  | ok revised =>
    rw [hrevised] at hact
    cases hact
    exact h buffer hrevised

/-- What a visitor is shown goes on, whatever the visitor does. -/
theorem hands_visit (side : Buffer.Side) (name : String)
    (visitor : Nat → Component → Buffer.Visit) :
    Hands 0 (onBuffer name fun buffer =>
      let (after, walk) := side.visit buffer visitor
      pure (walk, after)) fun _ => 0 := by
  refine hands_onBuffer fun {buffer walk after} h => ?_
  cases h
  exact side.evolves_visit buffer visitor

/-- The buffer of a name is given up. -/
theorem hands_giveUp {f : Bench → Bench} {content : Bench → Buffer} {next : WorldAct α}
    (h : ∀ bench, stock (content bench) + (f bench).buffers.sum stock = bench.buffers.sum stock)
    (hnext : Hands 0 next given) :
    Hands 0 (do
      let objects ← bench
      arrange f
      Ledger.discard (content objects)
      next) given := by
  intro before rest
  refine triple_bench fun bench => ?_
  refine Act.Triple.via (fun _ => Descends before (stock (content bench) + rest))
    (triple_exchange bench ?_) fun _ =>
      ((hands_discard (add_zero _).symm).bind fun _ => hnext) before rest
  rw [zero_add, h]
  exact Lineage.rel_refl _

/-- **Every step on allocators and buffers hands on what it takes**, failed or not. -/
theorem hands_performBuffer (step : BufferStep) :
    Hands 0 (performBuffer step) fun _ => 0 := by
  have hfind : ∀ {object : Type} (shelf : Bench → Named object) (name : String),
      Hands 0 (find shelf name) fun _ => 0 := fun shelf name => .of_within (within_find shelf name)
  have hwalk : ∀ (walk : Buffer.Walk) (visited : List Visited) (name : String),
      Hands 0 (do
        let result ← walkResult walk visited
        showBuffer name (some result)) fun _ => 0 := fun walk visited name =>
    (Hands.of_within (within_walkResult walk visited)).bind fun _ => hands_show name _
  cases step with
  | allocate name source size =>
    exact (hfind _ source).bind fun id =>
      hands_storing (hands_ledger (Ledger.supplies_allocate id size)) name none
  | copy name source bytes =>
    exact (hfind _ source).bind fun id =>
      hands_storing (hands_ledger (Ledger.supplies_copyOf id bytes)) name none
  | wrap name source bytes =>
    exact (hfind _ source).bind fun id =>
      hands_storing (hands_ledger (Ledger.supplies_wrap id bytes)) name none
  | make name spec => exact hands_storing (hands_makeBuffer spec) name none
  | compose name parts =>
    refine (hands_takeBuffers parts).bind fun made => ?_
    rw [← stock_compose]
    exact (hands_storeBuffer name _).bind fun _ => hands_show name _
  | move name source =>
    have hshow : Hands 0 (do
        let left ← buffer source
        showBuffer name (some (.status left.status))) fun _ => 0 :=
      (hfind _ source).bind fun _ => hands_show name _
    unfold performBuffer
    dsimp only
    split
    · refine (hands_takeBuffer source).bind fun content => ?_
      exact (hands_storeBuffer name content).bind fun _ => hshow
    · exact hshow
  | write name bytes =>
    exact hands_revising (fun _ _ => Buffer.Request.evolves_of_ask (.write bytes)) none
  | skipReadable name count =>
    exact hands_revising (fun _ _ => Buffer.Request.evolves_of_ask (.skipReadable count)) none
  | skipWritable name count =>
    exact hands_revising (fun _ _ => Buffer.Request.evolves_of_ask (.skipWritable count)) none
  | readAll name =>
    exact (hands_onBuffer Buffer.evolves_readAll).bind fun _ => hands_show name _
  | content name => exact (hfind _ name).bind fun _ => hands_show name _
  -- What the buffer held stands in for it until it is given back.
  | close name =>
    refine hands_find fun bench found hfound before rest => ?_
    refine Act.Triple.via (fun _ => Descends before (stock found + rest)) (triple_exchange bench ?_)
      fun _ => ((hands_discard (add_zero _).symm).bind fun _ => hands_show name none) before rest
    have hput := stock_put bench.buffers name found.close
    rw [hfound] at hput
    rw [show stock found + _ = _ from hput]
    exact Lineage.rel_refl _
  | touch name hint =>
    refine (hands_onBuffer fun {before _ after} h => ?_).bind fun _ => hands_show name _
    cases h
    exact Component.evolves_refl _
  | status name => exact hands_show name _
  | drop name =>
    exact hands_giveUp (fun bench => stock_erase bench.buffers name) (.pure rfl)
  | visitReadable name stop skips =>
    exact (hands_visit .readable name _).bind fun walk => hwalk walk _ name
  | visitWritable name stop skips fill =>
    exact (hands_visit .writable name _).bind fun walk => hwalk walk _ name
  | makeAllocator name kind =>
    refine (hands_ledger (Ledger.supplies_openAccount kind)).bind fun id => ?_
    have harrange : Hands 0 (arrange fun bench =>
        { bench with allocators := bench.allocators.put name id }) fun _ => 0 :=
      .of_within (within_arrange fun _ => ⟨rfl, rfl, rfl, rfl⟩)
    exact harrange.bind fun _ =>
      (Hands.of_within (within_forgetReported name)).bind fun _ => .pure rfl
  | limitAllocator name allowance =>
    refine (hfind _ name).bind fun id => Hands.bind (fun before rest => ?_) fun _ => .pure rfl
    exact Act.Triple.modify fun world hworld =>
      hworld.congr (fun other => Ledger.tally_limit _ id allowance (fun _ => rfl) other) rfl
  | dropAllocator name =>
    have harrange : Hands 0 (arrange fun bench =>
        { bench with allocators := bench.allocators.erase name }) fun _ => 0 :=
      .of_within (within_arrange fun _ => ⟨rfl, rfl, rfl, rfl⟩)
    exact harrange.bind fun _ =>
      (Hands.of_within (within_forgetReported name)).bind fun _ => .pure rfl

end World

end UdpTransport.Scenario
