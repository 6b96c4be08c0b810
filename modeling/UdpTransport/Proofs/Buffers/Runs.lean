import UdpTransport.Proofs.Buffers.Handling

/-!
# Buffers stay sound

A program may do anything with its buffers: make, join, move, read, close and destroy them, ask for
amounts that there are not, and show their components to visitors that do what they like
(`BufferAct`). Each act is done in whatever state the earlier ones left, whether or not they failed.

**The main result is `World.handled_runBuffers`**: what there is afterwards descends from what there
was, so that borrowed bytes never change; and in the state that was reached, every request for bytes
is refused and changes nothing at all, or is served exactly (`World.Served`).
-/

namespace UdpTransport

namespace Buffer.Request

/-- The step that makes a request of the buffer of a name. -/
def step (name : String) : Request → Scenario.BufferStep
  | write bytes => .write name bytes
  | skipWritable n => .skipWritable name n
  | skipReadable n => .skipReadable name n

end Buffer.Request

namespace Scenario

open Component (Alike)

/-- What a program may do with its buffers: any step, or a visit by any visitor. -/
inductive BufferAct where
  | step (step : BufferStep)
  | visit (side : Buffer.Side) (name : String) (visitor : Nat → Component → Buffer.Visit)

namespace BufferAct

/-- Does something with buffers. -/
def perform : BufferAct → WorldAct Unit
  | .step performed => do
    let _ ← World.performBuffer performed
  | .visit side name visitor => do
    let _ ← World.onBuffer name fun buffer =>
      let (after, walk) := side.visit buffer visitor
      pure (walk, after)

/-- Does one thing after the other; one that fails is left where it stopped. -/
def runAll : List BufferAct → World → World
  | [], world => world
  | first :: rest, world => runAll rest (first.perform.after world)

end BufferAct

namespace World

variable {α : Type} {name : String} {world : World} {buffer : Buffer}

/-! ## Requests of stored buffers -/

/-- The world with another buffer under a name. -/
def withBuffer (world : World) (name : String) (buffer : Buffer) : World :=
  { world with outside := { world.outside with buffers := world.outside.buffers.put name buffer } }

theorem run_onBuffer_error {act : Buffer → Except Fault (α × Buffer)} {fault : Fault}
    (hbuffer : world.outside.buffers.get? name = some buffer) (hact : act buffer = .error fault) :
    (onBuffer name act).run world = .error fault world := by
  refine (Act.bind_of_ok (run_find_some hbuffer)).trans ?_
  rw [hact]
  rfl

theorem run_onBuffer_ok {act : Buffer → Except Fault (α × Buffer)} {a : α} {after : Buffer}
    (hbuffer : world.outside.buffers.get? name = some buffer) (hact : act buffer = .ok (a, after)) :
    (onBuffer name act).run world = .ok a (world.withBuffer name after) := by
  refine (Act.bind_of_ok (run_find_some hbuffer)).trans ?_
  rw [hact]
  rfl

/-- A request is made of the buffer of a name, which is shown as it is then. -/
theorem performBuffer_request (request : Buffer.Request) (name : String) :
    performBuffer (request.step name) = (do
      onBuffer name fun buffer => return ((), ← request.ask buffer)
      showBuffer name none) := by
  cases request <;> rfl

theorem run_request_error {request : Buffer.Request} {fault : Fault}
    (hbuffer : world.outside.buffers.get? name = some buffer)
    (hask : request.ask buffer = .error fault) :
    (performBuffer (request.step name)).run world = .error fault world := by
  rw [performBuffer_request]
  refine Act.bind_of_error (run_onBuffer_error hbuffer ?_)
  rw [hask]
  rfl

theorem run_request_ok {request : Buffer.Request} {after : Buffer}
    (hbuffer : world.outside.buffers.get? name = some buffer)
    (hask : request.ask buffer = .ok after) :
    (performBuffer (request.step name)).run world =
      .ok { buffer := some after.status } (world.withBuffer name after) := by
  have hact : (do return ((), ← request.ask buffer) : Except Fault (Unit × Buffer)) =
      .ok ((), after) := by
    rw [hask]
    rfl
  have hshown : (world.withBuffer name after).outside.buffers.get? name = some after :=
    Named.get?_put_self ..
  rw [performBuffer_request, Act.bind_of_ok (run_onBuffer_ok hbuffer hact)]
  exact Act.bind_of_ok (run_find_some hshown)

/-- What is asked of the buffers of a scenario is refused, and then nothing changes, or is served
exactly. -/
structure Served (world : World) : Prop where
  /-- The cursors of each component are in order. -/
  ordered : ∀ c ∈ world.components, c.reader ≤ c.writer ∧ c.writer ≤ c.memory.size
  /-- Nothing is had of a closed buffer. -/
  closed : ∀ name buffer (request : Buffer.Request),
    world.outside.buffers.get? name = some buffer → buffer.isOpen = false →
    (performBuffer (request.step name)).run world = .error (.violation .bufferClosed) world
  /-- An amount that an open buffer has not is refused. -/
  beyond : ∀ name buffer (request : Buffer.Request),
    world.outside.buffers.get? name = some buffer → buffer.isOpen = true →
    request.available buffer < request.amount →
    (performBuffer (request.step name)).run world =
      .error (.violation (request.excess (request.available buffer))) world
  /-- Any other amount is served. -/
  granted : ∀ name buffer (request : Buffer.Request),
    world.outside.buffers.get? name = some buffer → buffer.isOpen = true →
    request.amount ≤ request.available buffer →
    ∃ after, (performBuffer (request.step name)).run world =
        .ok { buffer := some after.status } (world.withBuffer name after) ∧
      request.Granted buffer after
  /-- An amount that a component has not is refused to a visitor. -/
  beyondVisit : ∀ name buffer (side : Buffer.Side) front c back n,
    world.outside.buffers.get? name = some buffer → buffer.components = front ++ c :: back →
    side.eligible c = true → side.amount c < n →
    (side.ask buffer (front.countP side.eligible) n).2.result =
        .error (.violation ((side.skip n).excess (side.amount c))) ∧
      List.Forall₂ Alike buffer.components
        (side.ask buffer (front.countP side.eligible) n).1.components
  /-- Any other amount is served to it, and the other components are left alone. -/
  grantedVisit : ∀ name buffer (side : Buffer.Side) front c back n,
    world.outside.buffers.get? name = some buffer → buffer.components = front ++ c :: back →
    side.eligible c = true → n ≤ side.amount c →
    ∃ front' c' back',
      (side.ask buffer (front.countP side.eligible) n).2.result =
          .ok (buffer.components.countP side.eligible : Nat) ∧
        (side.ask buffer (front.countP side.eligible) n).1.components =
          front' ++ c' :: back' ∧
        List.Forall₂ Alike front front' ∧ Alike (side.moved c n) c' ∧
        List.Forall₂ Alike back back' ∧
        (side.skip n).Granted buffer
          (side.ask buffer (front.countP side.eligible) n).1
  /-- The two ways of refusing are told apart by their kinds. -/
  kinds : Violation.bufferClosed.kind = .logic ∧
    ∀ (request : Buffer.Request) n, (request.excess n).kind = .outOfRange

/-- Whatever the buffers of a scenario hold, they serve what they have. -/
theorem served (world : World) : world.Served where
  ordered c _ := ⟨c.reader_le, c.writer_le⟩
  closed _ _ request hbuffer hclosed := run_request_error hbuffer (request.ask_closed hclosed)
  beyond _ _ _ hbuffer hopen hbeyond :=
    run_request_error hbuffer (Buffer.Request.ask_beyond hopen hbeyond)
  granted _ _ _ hbuffer hopen hle := by
    obtain ⟨after, hask, hgranted⟩ := Buffer.Request.ask_granted hopen hle
    exact ⟨after, run_request_ok hbuffer hask, hgranted⟩
  beyondVisit _ _ _ _ _ _ _ _ := Buffer.Side.ask_beyond
  grantedVisit _ _ _ _ _ _ _ _ := Buffer.Side.ask_granted
  kinds := ⟨rfl, Buffer.Request.kind_excess⟩

/-! ## Runs -/

theorem hands_perform (act : BufferAct) : Hands 0 act.perform fun _ => 0 := by
  cases act with
  | step step => exact (hands_performBuffer step).bind fun _ => .pure rfl
  | visit side name visitor => exact (hands_visit side name visitor).bind fun _ => .pure rfl

/-- What is done with buffers keeps the descent, failed or not. -/
theorem descends_perform {before : World} (act : BufferAct) (h : Descends before 0 world) :
    Descends before 0 (act.perform.after world) := by
  have hhands := hands_perform act before 0
  rw [zero_add] at hhands
  exact hhands.within world h

/-- **What is there after a run descends from what was there before it, and serves what it has.** -/
theorem handled_runBuffers (acts : List BufferAct) (before : World) :
    Lineage before.host.ledger (BufferAct.runAll acts before).host.ledger before.components
        (BufferAct.runAll acts before).components ∧
      (BufferAct.runAll acts before).Served := by
  refine ⟨?_, served _⟩
  have hrun : ∀ world, Descends before 0 world →
      Descends before 0 (BufferAct.runAll acts world) := by
    induction acts with
    | nil => exact fun _ h => h
    | cons first rest ih => exact fun world h => ih _ (descends_perform first h)
  have hstart : Descends before 0 before := by
    unfold Descends
    rw [zero_add]
    exact .refl _ _
  have hend := hrun before hstart
  unfold Descends at hend
  rwa [zero_add] at hend

end World

end Scenario

end UdpTransport
