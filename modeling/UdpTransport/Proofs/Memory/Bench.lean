import UdpTransport.Proofs.Memory.Stations
import UdpTransport.Scenario.Making

/-!
# The memory of a scenario

A scenario stores components in its buffers, in its messages, in the packets that handlers have in
hand, and in the queues of its channels (`World.custody`). To put an object under a name gives back
the one that was there (`World.balances_storeBuffer`, `World.balances_storeMessage`), and to move
one away leaves nothing of it behind. What is made from a description is either handed over or, if
something fails on the way, given back (`World.balances_makeBuffer`, `World.balances_makeMessage`).

The books of a scenario also say how many packets handlers have in hand. A step may take the content
of such a packet away, but the packet stays there until its handler is done.
-/

namespace UdpTransport.Scenario

/-- The allocators of the components that the objects of a scenario hold, its channels apart. -/
def Bench.held (bench : Bench) : Multiset AllocatorId :=
  bench.buffers.total Buffer.uses + bench.messages.total Message.uses +
    (bench.inHand.map (·.content.uses)).sum

/-- What a scenario holds, its channels apart. As many packets stay in hand as there are. -/
def Bench.holding (depth : Nat) (bench : Bench) : Holding :=
  ⟨bench.held, bench.inHand.length = depth⟩

namespace Bench

/-- A buffer that is put under a name takes the place of the one that was there. -/
theorem held_putBuffer (bench : Bench) (name : String) (buffer : Buffer) :
    ((bench.buffers.get? name).getD .closed).uses +
        held { bench with buffers := bench.buffers.put name buffer } =
      buffer.uses + bench.held := by
  show _ + (Named.total _ _ + _ + _) = _ + (Named.total _ _ + _ + _)
  rw [Named.total_put, Named.total_getD Buffer.uses Buffer.uses_closed bench.buffers name]
  abel

/-- A buffer that is taken from its name is no longer held. -/
theorem held_eraseBuffer (bench : Bench) (name : String) :
    ((bench.buffers.get? name).getD .closed).uses +
        held { bench with buffers := bench.buffers.erase name } = bench.held := by
  show _ + (Named.total _ _ + _ + _) = (Named.total _ _ + _ + _)
  rw [Named.total_getD Buffer.uses Buffer.uses_closed bench.buffers name]
  abel

/-- A message that is put under a name takes the place of the one that was there. -/
theorem held_putMessage (bench : Bench) (name : String) (message : Message) :
    ((bench.messages.get? name).getD .empty).uses +
        held { bench with messages := bench.messages.put name message } =
      message.uses + bench.held := by
  show _ + (_ + Named.total _ _ + _) = _ + (_ + Named.total _ _ + _)
  rw [Named.total_put, Named.total_getD Message.uses Message.uses_empty bench.messages name]
  abel

/-- One that is taken from its name is no longer held. -/
theorem held_eraseMessage (bench : Bench) (name : String) :
    ((bench.messages.get? name).getD .empty).uses +
        held { bench with messages := bench.messages.erase name } = bench.held := by
  show _ + (_ + Named.total _ _ + _) = (_ + Named.total _ _ + _)
  rw [Named.total_getD Message.uses Message.uses_empty bench.messages name]
  abel

/-- A packet that is taken in hand is held besides what was held before. -/
theorem held_push (bench : Bench) (packet : Packet) :
    held { bench with inHand := packet :: bench.inHand } = packet.content.uses + bench.held := by
  show _ + (packet.content.uses + (bench.inHand.map (·.content.uses)).sum) =
    packet.content.uses + (_ + (bench.inHand.map (·.content.uses)).sum)
  abel

/-- What is held besides the message of a name. -/
def heldBut (name : String) (bench : Bench) : Multiset AllocatorId :=
  held { bench with messages := bench.messages.erase name }

/-- A message that is changed holds what it uses then, beside the others. -/
theorem held_setMessage (bench : Bench) (name : String) (message : Message) :
    held { bench with messages := bench.messages.put name message } =
      message.uses + bench.heldBut name := by
  have hput := bench.held_putMessage name message
  rw [← bench.held_eraseMessage name, add_left_comm] at hput
  exact add_left_cancel hput

/-- What is held is a message and what is held besides. -/
theorem held_of_message {bench : Bench} {name : String} {message : Message}
    (h : bench.messages.get? name = some message) :
    bench.held = message.uses + bench.heldBut name := by
  have herase := bench.held_eraseMessage name
  rw [h] at herase
  exact herase.symm

/-- What a scenario holds besides the message of a name. -/
def holdingBut (depth : Nat) (name : String) (bench : Bench) : Holding :=
  ⟨bench.heldBut name, bench.inHand.length = depth⟩

end Bench

namespace World

variable {α β : Type} {name : String} {depth : Nat} {taken left : Multiset AllocatorId}
  {given : α → Multiset AllocatorId}

/-- The memory of a scenario, whose handlers have some number of packets in hand. -/
abbrev custody (depth : Nat) : World → Custody := Transport.custody (Bench.holding depth)

/-! ## What has nothing to do with memory -/

/-- All that memory is kept in or that stands for a channel. -/
def belongings (world : World) :
    Ledger × Named Station × Named Buffer × Named Message × List Packet × Named Scripts :=
  (world.host.ledger, world.stations, world.outside.buffers, world.outside.messages,
    world.outside.inHand, world.outside.handlers)

/-- The custody of a scenario is made of its belongings. -/
theorem within_custody_of {act : WorldAct α} (h : Act.Within (Act.Fixing belongings) act) :
    Act.Within (Act.Fixing (custody depth)) act := by
  intro world
  have hsame := h world
  simp only [Act.Fixing, belongings, Prod.mk.injEq] at hsame
  obtain ⟨hledger, hstations, hbuffers, hmessages, hhand, _⟩ := hsame
  unfold Act.Fixing custody Transport.custody Bench.holding Bench.held
  rw [hledger, hstations, hbuffers, hmessages, hhand]

/-- The native world is none of the belongings. -/
theorem within_native (act : Act Native α) :
    Act.Within (Act.Fixing belongings) (liftM act : WorldAct α) := by
  intro world
  rw [Act.Fixing, Transport.after_lift_native]
  rfl

theorem within_bench : Act.Within (Act.Fixing belongings) bench := Act.within_of_after fun _ => rfl

/-- A change of the bench that spares its shelves. -/
theorem within_arrange {f : Bench → Bench} (h : ∀ bench, (f bench).buffers = bench.buffers ∧
    (f bench).messages = bench.messages ∧ (f bench).inHand = bench.inHand ∧
    (f bench).handlers = bench.handlers) :
    Act.Within (Act.Fixing belongings) (arrange f) := by
  refine Act.within_modify fun world => ?_
  obtain ⟨hbuffers, hmessages, hhand, hhandlers⟩ := h world.outside
  simp only [Act.Fixing, belongings, hbuffers, hmessages, hhand, hhandlers]

section Finding

variable {object : Type} {shelf : Bench → Named object} {world : World} {found : object}

/-- What is on a shelf is found. -/
theorem run_find_some (h : (shelf world.outside).get? name = some found) :
    (find shelf name).run world = .ok found world := by
  unfold find
  rw [Act.bind_of_ok (show bench.run world = .ok world.outside world from rfl), h]
  rfl

/-- What is not there is missed by its name. -/
theorem run_find_none (h : (shelf world.outside).get? name = none) :
    (find shelf name).run world = .error (.noObject name) world := by
  unfold find
  rw [Act.bind_of_ok (show bench.run world = .ok world.outside world from rfl), h]
  rfl

/-- A channel that was asked for once has a name. -/
theorem run_known {scripts : Scripts} (h : world.outside.handlers.get? name = some scripts) :
    (known name).run world = .ok () world :=
  Act.bind_of_ok (run_find_some h)

end Finding

/-- Looking for an object changes nothing. -/
theorem after_find {object : Type} (shelf : Bench → Named object) (name : String) (world : World) :
    (find shelf name).after world = world := by
  cases h : (shelf world.outside).get? name with
  | none => exact Act.after_of_error (run_find_none h)
  | some found => exact Act.after_of_ok (run_find_some h)

/-- To look for something moves nothing. -/
theorem within_find {object : Type} (shelf : Bench → Named object) (name : String) :
    Act.Within (Act.Fixing belongings) (find shelf name) :=
  Act.within_of_after (after_find shelf name)

theorem after_known (name : String) (world : World) : (known name).after world = world := by
  cases h : world.outside.handlers.get? name with
  | none => exact Act.after_of_error (Act.bind_of_error (run_find_none h))
  | some scripts => exact Act.after_of_ok (run_known h)

theorem within_known (name : String) : Act.Within (Act.Fixing belongings) (known name) :=
  Act.within_of_after (after_known name)

/-- Nor does looking at a channel. -/
theorem within_station (name : String) : Act.Within (Act.Fixing belongings) (station name) := by
  refine Act.within_bind (within_known name) fun _ => ?_
  refine Act.within_bind Act.within_get fun world => ?_
  cases world.stations.get? name with
  | none => exact Act.within_throw _
  | some station => exact Act.within_pure station

/-- What leaves the belongings alone keeps the books as a whole. -/
theorem conserves_of {act : WorldAct α} (h : Act.Within (Act.Fixing belongings) act) :
    Act.Conserves (custody depth) act := .fixing (within_custody_of h)

/-! ## Reading and putting -/

/-- What is done with an object that was found may rely on its being there. -/
theorem balances_find {object : Type} {shelf : Bench → Named object}
    {next : object → WorldAct α}
    (h : ∀ bench found, (shelf bench).get? name = some found → ∀ rest,
      Act.Triple
        (fun world => world.outside = bench ∧ (custody depth world).Balanced (taken + rest))
        (next found) (fun a world => (custody depth world).Balanced (given a + rest))
        fun _ world => (custody depth world).Balanced (taken + rest)) :
    Act.Balances (custody depth) taken (find shelf name >>= next) given taken := by
  intro rest
  refine .pointwise fun world hbalanced => ?_
  cases hfound : (shelf world.outside).get? name with
  | none => exact .of_error (Act.bind_of_error (run_find_none hfound)) hbalanced
  | some found =>
    refine .of_run (Act.bind_of_ok (run_find_some hfound)) ?_
    exact (h world.outside found hfound rest).starting ⟨rfl, hbalanced⟩

/-- What is done with the objects as they are. -/
theorem triple_bench {pre : World → Prop} {next : Bench → WorldAct α} {post : α → World → Prop}
    {raised : Fault → World → Prop}
    (h : ∀ bench, Act.Triple (fun world => world.outside = bench ∧ pre world) (next bench) post
      raised) :
    Act.Triple pre (bench >>= next) post raised := by
  refine .pointwise fun world hworld => ?_
  refine .of_run (Act.bind_of_ok (show bench.run world = .ok world.outside world from rfl)) ?_
  exact (h world.outside).starting ⟨rfl, hworld⟩

/-- To look at the bench gives what it is, with the books as they are. -/
theorem balances_bench {next : Bench → WorldAct α}
    (h : ∀ bench rest,
      Act.Triple
        (fun world => world.outside = bench ∧ (custody depth world).Balanced (taken + rest))
        (next bench) (fun a world => (custody depth world).Balanced (given a + rest))
        fun _ world => (custody depth world).Balanced (left + rest)) :
    Act.Balances (custody depth) taken (bench >>= next) given left := fun rest =>
  triple_bench fun bench => h bench rest

/-- Objects are exchanged: some come into hand, and others are in hand no more. -/
theorem triple_arrange {f : Bench → Bench} (bench : Bench) {depth' : Nat}
    {given rest : Multiset AllocatorId} {raised : Fault → World → Prop}
    (h : given + (f bench).held = taken + bench.held)
    (hhand : bench.inHand.length = depth → (f bench).inHand.length = depth') :
    Act.Triple (fun world => world.outside = bench ∧ (custody depth world).Balanced (taken + rest))
      (arrange f) (fun _ world => (custody depth' world).Balanced (given + rest)) raised := by
  refine Act.Triple.modify ?_
  rintro world ⟨rfl, hbalanced⟩
  have hsum : given + rest + (world.stations.total Station.uses + (f world.outside).held) =
      taken + rest + (world.stations.total Station.uses + world.outside.held) := by
    rw [show given + rest + (world.stations.total Station.uses + (f world.outside).held) =
      given + (f world.outside).held + (rest + world.stations.total Station.uses) by abel, h]
    abel
  refine ⟨?_, hhand hbalanced.sound⟩
  show Ledger.Balanced _ (given + rest + (world.stations.total Station.uses +
    (f world.outside).held))
  rw [hsum]
  exact hbalanced.books

/-- To give a buffer back takes its components out of hand. -/
theorem balances_discard {buffer : Buffer} {more : Multiset AllocatorId}
    (htaken : taken = buffer.uses + more) :
    Act.Balances (custody depth) taken (liftM (Ledger.discard buffer) : WorldAct Unit)
      (fun _ => more) left :=
  Transport.balances_ledger (Ledger.balances_discard htaken)

/-! ## Buffers -/

/-- A buffer that is stored is in hand no more, and the one that was there is given back. -/
theorem balances_storeBuffer (name : String) (buffer : Buffer) :
    Act.Balances (custody depth) buffer.uses (storeBuffer name buffer) (fun _ => 0) left := by
  refine balances_bench fun bench rest => ?_
  refine Act.Triple.via (fun _ world =>
      (custody depth world).Balanced (((bench.buffers.get? name).getD .closed).uses + rest))
    (triple_arrange bench (bench.held_putBuffer name buffer) id) fun _ => ?_
  exact balances_discard (add_zero _).symm rest

/-- A buffer that is taken leaves nothing behind. -/
theorem balances_takeBuffer (name : String) :
    Act.Balances (custody depth) 0 (takeBuffer name) Buffer.uses 0 := by
  refine balances_find fun bench found hfound rest => ?_
  refine Act.Triple.via (fun _ world => (custody depth world).Balanced (found.uses + rest))
    (triple_arrange _ ?_ id) fun _ => .pure fun _ h => h
  have hput := bench.held_putBuffer name .closed
  rw [hfound] at hput
  exact hput

/-- An operation that leaves the components of its buffer in place moves nothing. -/
theorem conserves_onBuffer {act : Buffer → Except Fault (α × Buffer)}
    (h : ∀ {before a after}, act before = .ok (a, after) → after.uses = before.uses) :
    Act.Conserves (custody depth) (onBuffer name act) := by
  refine balances_find fun bench found hfound rest => ?_
  cases hact : act found with
  | error fault => exact .throw_bind fun world hworld => hworld.2
  | ok result =>
    obtain ⟨a, after⟩ := result
    show Act.Triple _ (setBuffer name after >>= fun _ => pure a) _ _
    refine Act.Triple.via (fun _ world => (custody depth world).Balanced (0 + rest))
      (triple_arrange bench ?_ id) fun _ => .pure fun _ h => h
    have hput := bench.held_putBuffer name after
    rw [hfound, h hact] at hput
    rw [zero_add, zero_add]
    exact add_left_cancel hput

/-- A buffer that an operation fails on is given back. -/
theorem balances_orDiscard {buffer : Buffer} {act : Except Fault α}
    (h : ∀ a, act = .ok a → given a = buffer.uses) :
    Act.Balances (custody depth) buffer.uses (orDiscard buffer act) given 0 := by
  cases act with
  | ok a => exact .pure (h a rfl)
  | error fault =>
    exact Act.Balances.bind (balances_discard (add_zero _).symm) fun _ _ => .throw rfl

/-! ## Messages -/

/-- A message that is stored is in hand no more, and the one that was there is given back. -/
theorem balances_storeMessage (name : String) (message : Message) :
    Act.Balances (custody depth) message.uses (storeMessage name message) (fun _ => 0) left := by
  refine balances_bench fun bench rest => ?_
  refine Act.Triple.via (fun _ world =>
      (custody depth world).Balanced (((bench.messages.get? name).getD .empty).uses + rest))
    (triple_arrange bench (bench.held_putMessage name message) id) fun _ => ?_
  exact balances_discard (add_zero _).symm rest

/-- A message whose payload is taken leaves nothing behind. -/
theorem balances_takeMessage {next : Message → WorldAct α}
    (h : ∀ message, Act.Balances (custody depth) message.uses (next message) given 0) :
    Act.Balances (custody depth) 0 (do
      let stored ← message name
      setMessage name stored.movedFrom
      next stored) given 0 := by
  refine balances_find fun bench found hfound rest => ?_
  refine Act.Triple.via (fun _ world => (custody depth world).Balanced (found.uses + rest))
    (triple_arrange _ ?_ id) fun _ => h found rest
  have hput := bench.held_putMessage name found.movedFrom
  rw [hfound, Message.uses_movedFrom] at hput
  exact hput

/-! ## Making buffers -/

/-- The allocators of the components of several buffers. -/
def usesAll (buffers : List Buffer) : Multiset AllocatorId := (buffers.map Buffer.uses).sum

/-- A buffer that was made is kept while others are made, and given back if that fails. -/
theorem balances_cons {first : Buffer} {others : WorldAct (List Buffer)}
    {next : Except Fault (List Buffer) → WorldAct (List Buffer)}
    (h : Act.Balances (custody depth) 0 others usesAll 0)
    (hok : ∀ buffers, next (.ok buffers) = pure (first :: buffers))
    (herror : ∀ fault, next (.error fault) = (do
      Ledger.discard first
      throw fault)) :
    Act.Balances (custody depth) first.uses (others.capture >>= next) usesAll 0 := by
  refine Act.Balances.bind (.capture (h.meanwhile first.uses)) fun result _ => ?_
  cases result with
  | ok buffers =>
    rw [hok]
    refine .pure ?_
    show (first.uses :: buffers.map Buffer.uses).sum = usesAll buffers + first.uses
    rw [List.sum_cons, add_comm]
    rfl
  | error fault =>
    rw [herror]
    exact Act.Balances.bind (balances_discard (add_zero _).symm) fun _ _ => .throw rfl

/-- Copies are made one by one; if one fails, those before it are given back. -/
theorem balances_makeCopies {make : WorldAct Buffer}
    (h : Act.Balances (custody depth) 0 make Buffer.uses 0) (count : Nat) :
    Act.Balances (custody depth) 0 (makeCopies make count) usesAll 0 := by
  induction count with
  | zero => exact .pure rfl
  | succ count ih =>
    exact Act.Balances.bind h fun first _ => balances_cons ih (fun _ => rfl) fun _ => rfl

/-- Parts that are composed hold together what they held alone. -/
theorem balances_compose {parts : WorldAct (List Buffer)}
    (h : Act.Balances (custody depth) 0 parts usesAll 0) :
    Act.Balances (custody depth) 0 (do return .compose (← parts)) Buffer.uses 0 :=
  Act.Balances.bind h fun buffers _ => .pure (Buffer.uses_compose buffers)

mutual

/-- **What is made from a description is handed over**, and what was made before a failure is given
back. -/
theorem balances_makeBuffer : ∀ spec : BufferSpec,
    Act.Balances (custody depth) 0 (makeBuffer spec) Buffer.uses 0
  | .use _ => balances_takeBuffer _
  | .closed => .pure rfl
  | .parts parts => balances_compose (balances_makeBuffers parts)
  | .repeated count part => balances_compose (balances_makeCopies (balances_makeBuffer part) count)
  | .wrapped _ bytes =>
    Act.Balances.bind (conserves_of (within_find _ _)) fun id _ =>
      Transport.balances_ledger (Ledger.balances_wrap id bytes)
  | .filled _ capacity _ =>
    Act.Balances.bind (conserves_of (within_find _ _)) fun id _ =>
      Act.Balances.bind (Transport.balances_ledger (Ledger.balances_allocate id capacity))
        fun _ _ => balances_orDiscard fun _ => Buffer.uses_ask (.write _)
  | .skipping _ spec =>
    Act.Balances.bind (balances_makeBuffer spec) fun _ _ =>
      balances_orDiscard fun _ => Buffer.uses_ask (.skipReadable _)
  | .touched _ spec => Act.Balances.bind (balances_makeBuffer spec) fun _ _ => .pure rfl

/-- A list of buffers is made from its end, in the same way. -/
theorem balances_makeBuffers : ∀ specs : List BufferSpec,
    Act.Balances (custody depth) 0 (makeBuffers specs) usesAll 0
  | [] => .pure rfl
  | spec :: rest =>
    Act.Balances.bind (balances_makeBuffer spec) fun _ _ =>
      balances_cons (balances_makeBuffers rest) (fun _ => rfl) fun _ => rfl

end

/-! ## Making messages -/

/-- A message is made of memory of its own, or takes that of a stored one. A segmented packet that
is refused its size gives its memory back. -/
theorem balances_makeMessage (spec : MessageSpec) :
    Act.Balances (custody depth) 0 (makeMessage spec) Message.uses 0 := by
  cases spec with
  | empty => exact .pure rfl
  | stored name => exact balances_takeMessage fun message => .pure rfl
  | fresh form content recipient sender size =>
    refine Act.Balances.bind (.fixing (Act.within_ofExcept _) (fun _ _ => rfl) rfl) fun _ _ => ?_
    refine Act.Balances.bind (.fixing (Act.within_ofExcept _) (fun _ _ => rfl) rfl) fun _ _ => ?_
    refine Act.Balances.bind (balances_makeBuffer content) fun made _ => ?_
    cases form with
    | buffer => exact .pure rfl
    | packet => exact .pure rfl
    | segmented => exact balances_orDiscard fun _ => Message.uses_ofSegments
    | envelope => exact .pure rfl

end World

end UdpTransport.Scenario
