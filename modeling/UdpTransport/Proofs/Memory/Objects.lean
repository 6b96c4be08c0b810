import UdpTransport.Proofs.Memory.Bench
import UdpTransport.Scenario.Buffers

/-!
# Steps on buffers and messages keep the books

A step on allocators, buffers and messages makes, moves, replaces, closes or destroys objects, and
may fail anywhere on the way. Whatever it does, the objects hold afterwards what is in use
(`World.conserves_performBuffer`, `World.conserves_performMessage`).
-/

namespace UdpTransport.Scenario.World

variable {α : Type} {name : String} {depth : Nat} {taken left : Multiset AllocatorId}
  {given : α → Multiset AllocatorId}

/-! ## What a step shows -/

theorem within_showBuffer (name : String) (result : Option Value) :
    Act.Within (Act.Fixing belongings) (showBuffer name result) :=
  Act.within_bind (within_find _ _) fun _ => Act.within_pure _

theorem within_showMessage (name : String) (result : Option Value) :
    Act.Within (Act.Fixing belongings) (showMessage name result) :=
  Act.within_bind (within_find _ _) fun _ => Act.within_pure _

theorem within_viewMessage (name : String) :
    Act.Within (Act.Fixing belongings) (viewMessage name) :=
  Act.within_bind (within_find _ _) fun _ => Act.within_pure _

theorem within_walkResult (walk : Buffer.Walk) (visited : List Visited) :
    Act.Within (Act.Fixing belongings) (walkResult walk visited) := by
  unfold walkResult
  cases walk.result with
  | ok result => exact Act.within_pure _
  | error fault => exact Act.within_bind (within_native _) fun _ => Act.within_throw fault

theorem within_forgetReported (name : String) :
    Act.Within (Act.Fixing belongings) (forgetReported name) :=
  within_arrange fun _ => ⟨rfl, rfl, rfl, rfl⟩

/-! ## Buffers -/

/-- A buffer that was made is stored and shown. -/
theorem conserves_storing {make : WorldAct Buffer}
    (h : Act.Balances (custody depth) 0 make Buffer.uses 0) (name : String)
    (result : Option Value) :
    Act.Conserves (custody depth) (do
      let made ← make
      storeBuffer name made
      showBuffer name result) := by
  refine Act.Balances.bind h fun made _ => ?_
  exact Act.Balances.bind (balances_storeBuffer name made) fun _ _ =>
    conserves_of (within_showBuffer _ _)

/-- A buffer whose components stay in place is shown as it is then. -/
theorem conserves_revising {act : Buffer → Except Fault Buffer}
    (h : ∀ before {after}, act before = .ok after → after.uses = before.uses)
    (result : Option Value) :
    Act.Conserves (custody depth) (do
      onBuffer name fun buffer => return ((), ← act buffer)
      showBuffer name result) := by
  refine Act.Conserves.bind (conserves_onBuffer ?_) fun _ => conserves_of (within_showBuffer _ _)
  intro before _ after hact
  cases hrevised : act before with
  | error fault =>
    rw [hrevised] at hact
    cases hact
  | ok revised =>
    rw [hrevised] at hact
    cases hact
    exact h before hrevised

theorem balances_takeBuffers (names : List String) :
    Act.Balances (custody depth) 0 (takeBuffers names) usesAll 0 := by
  induction names with
  | nil => exact .pure rfl
  | cons name rest ih =>
    exact Act.Balances.bind (balances_takeBuffer name) fun _ _ =>
      balances_cons ih (fun _ => rfl) fun _ => rfl

/-- An object that is put away is given back. -/
theorem conserves_giveBack {f : Bench → Bench} {content : Bench → Buffer}
    (h : ∀ bench, (content bench).uses + (f bench).held = bench.held)
    (hhand : ∀ bench, (f bench).inHand.length = bench.inHand.length) :
    Act.Conserves (custody depth) (do
      let objects ← bench
      arrange f
      Ledger.discard (content objects)
      pure ({} : Reply)) := by
  refine balances_bench fun objects rest => ?_
  refine Act.Triple.via
    (fun _ world => (custody depth world).Balanced ((content objects).uses + rest))
    (triple_arrange _ (by rw [h, zero_add]) (hhand objects).trans) fun _ => ?_
  refine Act.Triple.via (fun _ world => (custody depth world).Balanced (0 + rest))
    (balances_discard (add_zero _).symm rest) fun _ => .pure fun _ h => h

/-- **A step on allocators and buffers keeps the books**, failed or not. -/
theorem conserves_performBuffer (step : BufferStep) :
    Act.Conserves (custody depth) (performBuffer step) := by
  cases step with
  | allocate name source size =>
    refine Act.Conserves.bind (conserves_of (within_find _ _)) fun id => ?_
    exact conserves_storing (Transport.balances_ledger (Ledger.balances_allocate id size)) _ _
  | copy name source bytes =>
    refine Act.Conserves.bind (conserves_of (within_find _ _)) fun id => ?_
    exact conserves_storing (Transport.balances_ledger (Ledger.balances_copyOf id bytes)) _ _
  | wrap name source bytes =>
    refine Act.Conserves.bind (conserves_of (within_find _ _)) fun id => ?_
    exact conserves_storing (Transport.balances_ledger (Ledger.balances_wrap id bytes)) _ _
  | make name spec => exact conserves_storing (balances_makeBuffer spec) _ _
  -- The parts are in hand together before they are put under the one name.
  | compose name parts =>
    refine Act.Balances.bind (balances_takeBuffers parts) fun made _ => ?_
    rw [show usesAll made = (Buffer.compose made).uses from (Buffer.uses_compose made).symm]
    exact Act.Balances.bind (balances_storeBuffer _ _) fun _ _ =>
      conserves_of (within_showBuffer _ _)
  | move name source =>
    have hshow : Act.Conserves (custody depth) (do
        let left ← buffer source
        showBuffer name (some (.status left.status))) :=
      conserves_of (Act.within_bind (within_find _ _) fun _ => within_showBuffer _ _)
    unfold performBuffer
    dsimp only
    split
    · refine Act.Balances.bind (balances_takeBuffer source) fun content _ => ?_
      exact Act.Balances.bind (balances_storeBuffer name content) fun _ _ => hshow
    · exact hshow
  | write name bytes =>
    exact conserves_revising (fun _ => Buffer.uses_ask (.write bytes)) _
  | skipReadable name count =>
    exact conserves_revising (fun _ => Buffer.uses_ask (.skipReadable _)) _
  | skipWritable name count =>
    exact conserves_revising (fun _ => Buffer.uses_ask (.skipWritable _)) _
  | readAll name =>
    refine Act.Conserves.bind (conserves_onBuffer Buffer.uses_readAll) fun bytes => ?_
    exact conserves_of (within_showBuffer _ _)
  | content name =>
    exact conserves_of (Act.within_bind (within_find _ _) fun _ => within_showBuffer _ _)
  -- Here the buffer that was there is seen, since its memory is given back after it is closed.
  | close name =>
    refine balances_find fun bench found hfound rest => ?_
    refine Act.Triple.via (fun _ world => (custody depth world).Balanced (found.uses + rest))
      (triple_arrange _ ?_ id) fun _ => ?_
    · have hput := bench.held_putBuffer name found.close
      rw [hfound, Buffer.uses_close] at hput
      exact hput
    · exact Act.Balances.bind (balances_discard (add_zero _).symm)
        (fun _ _ => conserves_of (within_showBuffer _ _)) rest
  | touch name hint =>
    refine Act.Conserves.bind (conserves_onBuffer ?_) fun _ => conserves_of (within_showBuffer _ _)
    rintro before _ after h
    cases h
    rfl
  | status name => exact conserves_of (within_showBuffer _ _)
  | drop name => exact conserves_giveBack (fun bench => bench.held_eraseBuffer name) fun _ => rfl
  | visitReadable name stop skips =>
    refine Act.Conserves.bind (conserves_onBuffer ?_) fun walk => ?_
    · rintro before walk after h
      cases h
      exact Buffer.uses_visit .readable ..
    · refine conserves_of (Act.within_bind (within_walkResult _ _) fun result => ?_)
      exact within_showBuffer _ _
  | visitWritable name stop skips fill =>
    refine Act.Conserves.bind (conserves_onBuffer ?_) fun walk => ?_
    · rintro before walk after h
      cases h
      exact Buffer.uses_visit .writable ..
    · refine conserves_of (Act.within_bind (within_walkResult _ _) fun result => ?_)
      exact within_showBuffer _ _
  | makeAllocator name kind =>
    refine Act.Conserves.bind (Transport.balances_ledger (Ledger.conserves_openAccount kind))
      fun id => ?_
    refine Act.Conserves.bind (conserves_of (within_arrange fun _ => ⟨rfl, rfl, rfl, rfl⟩))
      fun _ => ?_
    exact Act.Conserves.bind (conserves_of (within_forgetReported _)) fun _ => .pure _
  | limitAllocator name allowance =>
    refine Act.Conserves.bind (conserves_of (within_find _ _)) fun id => ?_
    refine Act.Conserves.bind (fun rest => ?_) fun _ => .pure _
    exact Act.Triple.modify fun world hbalanced =>
      ⟨hbalanced.books.limit id allowance, hbalanced.sound⟩
  | dropAllocator name =>
    refine Act.Conserves.bind (conserves_of (within_arrange fun _ => ⟨rfl, rfl, rfl, rfl⟩))
      fun _ => ?_
    exact Act.Conserves.bind (conserves_of (within_forgetReported _)) fun _ => .pure _

/-! ## Messages -/

/-- **A step on stored messages keeps the books**, failed or not. -/
theorem conserves_performMessage (step : MessageStep) :
    Act.Conserves (custody depth) (performMessage step) := by
  have hview : ∀ name, Act.Conserves (custody depth) (do
      pure ({ result := some (← viewMessage name) } : Reply)) := fun name =>
    conserves_of (Act.within_bind (within_viewMessage name) fun _ => Act.within_pure _)
  cases step with
  | store name spec =>
    refine Act.Balances.bind (balances_makeMessage spec) fun made _ => ?_
    exact Act.Balances.bind (balances_storeMessage name made) fun _ _ => hview name
  | view name => exact hview name
  | touch name hint =>
    refine balances_find fun bench found hfound rest => ?_
    refine Act.Triple.via (fun _ world => (custody depth world).Balanced (0 + rest))
      (triple_arrange bench ?_ id) fun _ => conserves_of (within_showMessage _ _) rest
    have hput := bench.held_putMessage name (found.withContent (found.content.touch hint))
    rw [hfound, Message.uses_withContent_of_eq (Buffer.uses_touch ..)] at hput
    rw [zero_add, zero_add]
    exact add_left_cancel hput
  | replace source name content =>
    refine Act.Conserves.bind (conserves_of (within_find _ _)) fun model => ?_
    refine Act.Balances.bind (balances_makeBuffer content) fun made _ => ?_
    have hstore : Act.Balances (custody depth) (model.withContent made).uses (do
        storeMessage name (model.withContent made)
        showMessage name (some (.message model.view))) (fun _ => 0) 0 :=
      Act.Balances.bind (balances_storeMessage name _) fun _ _ =>
        conserves_of (within_showMessage _ _)
    by_cases hempty : model = .empty
    · -- An empty message takes no payload, so the one that was made for it is given back.
      rw [if_pos hempty]
      refine Act.Balances.bind (balances_discard (add_zero _).symm) fun _ _ => ?_
      subst hempty
      exact hstore
    · rw [if_neg hempty, ← Message.uses_withContent model hempty]
      exact hstore
  | move source name =>
    have hshow : Act.Conserves (custody depth) (do
        showMessage name (some (← viewMessage source))) :=
      conserves_of (Act.within_bind (within_viewMessage _) fun _ => within_showMessage _ _)
    unfold performMessage
    dsimp only
    split
    · refine balances_takeMessage fun moved => ?_
      exact Act.Balances.bind (balances_storeMessage name moved) fun _ _ => hshow
    · exact hshow
  | take name target =>
    refine balances_takeMessage fun taken => ?_
    refine Act.Balances.bind (balances_storeBuffer target taken.content) fun _ _ => ?_
    exact conserves_of (Act.within_bind (within_viewMessage _) fun _ => within_showBuffer _ _)
  | drop name => exact conserves_giveBack (fun bench => bench.held_eraseMessage name) fun _ => rfl

/-! ## Gathers -/

theorem within_onGather (name : String) {act : Gather → WorldAct (Option Bool × Gather)}
    (h : ∀ gather, Act.Within (Act.Fixing belongings) (act gather)) :
    Act.Within (Act.Fixing belongings) (onGather name act) := by
  refine Act.within_bind (within_find _ _) fun before => ?_
  refine Act.within_bind (h before) fun (result, after) => ?_
  refine Act.within_bind (within_arrange fun _ => ⟨rfl, rfl, rfl, rfl⟩) fun _ => ?_
  exact Act.within_pure _

/-- A gather refers to memory and owns none. -/
theorem within_performGather (name : String) (step : GatherStep) :
    Act.Within (Act.Fixing belongings) (performGather name step) := by
  cases step with
  | make maxBytes =>
    refine Act.within_bind (within_arrange fun _ => ⟨rfl, rfl, rfl, rfl⟩) fun _ => ?_
    exact Act.within_pure _
  | add length times => exact within_onGather name fun gather => Act.within_pure _
  | addView length => exact within_onGather name fun gather => Act.within_pure _
  | addBuffer source =>
    refine within_onGather name fun gather => ?_
    exact Act.within_bind (within_find _ _) fun buffer => Act.within_pure _
  | clear => exact within_onGather name fun gather => Act.within_pure _

end UdpTransport.Scenario.World
