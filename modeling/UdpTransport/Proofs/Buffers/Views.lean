import UdpTransport.Proofs.Buffers.Runs
import UdpTransport.Proofs.Outbound.Limits

/-!
# Views of the readable bytes

The readable bytes of a buffer are counted, copied, shown to a visitor component by component,
gathered for a send, skipped and taken out, and buffers are joined to one. Each of these goes over
the components by itself, and they agree on which components count, on their bytes and on the order,
whatever the components are: empty ones, full ones, ones that were read in part (`Buffer.Agrees`). A
buffer that is joined from others reads as one after the other, and what was joined is closed
(`World.Joins`).

**The main result is `World.agreeing`.**
-/

namespace UdpTransport

/-! ## Visits that go through -/

namespace Buffer.Side

variable {side : Side} {visitor visitor' : Nat → Component → Visit} {index : Nat}
  {components : List Component}

/-- A visitor that fails nowhere and never stops is shown all components that are for it. -/
theorem walk_through
    (h : ∀ i c, (components.filter side.eligible)[i]? = some c →
      (side.move c (visitor (index + i) c)).2 = none ∧ (visitor (index + i) c).proceed = true) :
    (walk side.eligible visitor side.move index components).visited =
        components.filter side.eligible ∧
      (walk side.eligible visitor side.move index components).result =
        .ok (index + (components.filter side.eligible).length : Nat) := by
  -- Components out of reach are passed over without an index, so those seen are numbered in turn.
  induction components generalizing index with
  | nil => exact ⟨rfl, rfl⟩
  | cons c rest ih =>
    by_cases heligible : side.eligible c = true
    · rw [List.filter_cons_of_pos heligible] at h ⊢
      have hfirst := h 0 c rfl
      rw [Nat.add_zero] at hfirst
      have hlater : ∀ i c', (rest.filter side.eligible)[i]? = some c' →
          (side.move c' (visitor (index + 1 + i) c')).2 = none ∧
            (visitor (index + 1 + i) c').proceed = true := by
        intro i c' hi
        rw [Nat.add_right_comm]
        exact h (i + 1) c' hi
      obtain ⟨hvisited, hresult⟩ := ih hlater
      rw [walk_cons_moved heligible (Prod.ext rfl hfirst.1), if_pos hfirst.2]
      refine ⟨congrArg (c :: ·) hvisited, hresult.trans ?_⟩
      rw [List.length_cons, Nat.add_right_comm, Nat.add_assoc]
    · rw [List.filter_cons_of_neg heligible] at h ⊢
      rw [walk_cons_skipped heligible]
      exact ih h

/-- A walk asks its visitor about the components that are for it, each with its number among them,
and about nothing else. -/
theorem walk_congr
    (h : ∀ i c, (components.filter side.eligible)[i]? = some c →
      visitor' (index + i) c = visitor (index + i) c) :
    walk side.eligible visitor' side.move index components =
      walk side.eligible visitor side.move index components := by
  induction components generalizing index with
  | nil => rfl
  | cons c rest ih =>
    by_cases heligible : side.eligible c = true
    · rw [List.filter_cons_of_pos heligible] at h
      have hfirst : visitor' index c = visitor index c := h 0 c rfl
      have hlater : ∀ i c', (rest.filter side.eligible)[i]? = some c' →
          visitor' (index + 1 + i) c' = visitor (index + 1 + i) c' := by
        intro i c' hi
        rw [Nat.add_right_comm]
        exact h (i + 1) c' hi
      rw [walk, walk, if_pos heligible, if_pos heligible, hfirst, ih hlater]
    · rw [List.filter_cons_of_neg heligible] at h
      rw [walk_cons_skipped heligible, walk_cons_skipped heligible, ih h]

end Buffer.Side

/-! ## Gathered regions -/

namespace Gather

/-- Regions are added in order, up to the first that is refused. -/
theorem regions_addAll {regions : List Region} (hregions : ∀ region ∈ regions, region.length ≠ 0)
    (gather : Gather) :
    ((gather.addAll regions).1 = true →
        (gather.addAll regions).2.regions = gather.regions ++ regions) ∧
      ((gather.addAll regions).1 = false → ∃ taken left, left ≠ [] ∧ regions = taken ++ left ∧
        (gather.addAll regions).2.regions = gather.regions ++ taken) := by
  -- The first region that does not fit ends it, so what was taken is a prefix.
  induction regions generalizing gather with
  | nil => exact ⟨fun _ => (List.append_nil _).symm, fun h => absurd h.symm Bool.false_ne_true⟩
  | cons region rest ih =>
    obtain ⟨hregion, hrest⟩ := List.forall_mem_cons.mp hregions
    rw [addAll]
    rcases gather.add_cases region with ⟨hzero, -⟩ | ⟨-, -, hadd⟩ | ⟨-, -, hadd⟩
    · exact absurd hzero hregion
    · rw [hadd]
      exact ⟨fun h => absurd h Bool.false_ne_true, fun _ =>
        ⟨[], region :: rest, List.cons_ne_nil _ _, rfl, (List.append_nil _).symm⟩⟩
    · rw [hadd]
      dsimp only
      obtain ⟨hall, hsome⟩ := ih hrest (gather.push region)
      have hpush : (gather.push region).regions = gather.regions ++ [region] := rfl
      refine ⟨fun h => ?_, fun h => ?_⟩
      · rw [hall h, hpush, List.append_assoc]
        rfl
      · obtain ⟨taken, left, hleft, rfl, htaken⟩ := hsome h
        refine ⟨region :: taken, left, hleft, rfl, ?_⟩
        rw [htaken, hpush, List.append_assoc]
        rfl

end Gather

namespace Buffer

variable {buffer : Buffer} {n : Nat}

/-! ## What is read of a buffer -/

/-- What is consumed from the front is missing in front. -/
theorem flatMap_consumeFront (n : Nat) (components : List Component) :
    (consumeFront n components).flatMap Component.readableBytes =
      (components.flatMap Component.readableBytes).drop n := by
  induction components generalizing n with
  | nil => exact List.drop_nil.symm
  | cons c rest ih =>
    rw [consumeFront, List.flatMap_cons, List.flatMap_cons, ih, Component.readableBytes_consume,
      List.drop_append, Component.length_readableBytes]

theorem toBytes_withComponents (hopen : buffer.isOpen = true) (components : List Component) :
    (buffer.withComponents components).toBytes = components.flatMap Component.readableBytes := by
  unfold toBytes
  rw [components_withComponents hopen]

/-- What is skipped is missing in front. -/
theorem skipReadable_of_le (hopen : buffer.isOpen = true) (h : n ≤ buffer.readable) :
    ∃ after, buffer.skipReadable n = .ok after ∧ after.toBytes = buffer.toBytes.drop n := by
  have hasked : (Request.skipReadable n).amount ≤ (Request.skipReadable n).available buffer := h
  refine ⟨_, Request.ask_of_le hopen hasked, ?_⟩
  rw [toBytes_withComponents hopen]
  exact flatMap_consumeFront n buffer.components

/-- All readable bytes are taken out, and then there are none. -/
theorem readAll_of_isOpen (hopen : buffer.isOpen = true) :
    ∃ after, buffer.readAll = .ok (buffer.toBytes, after) ∧ after.toBytes = [] := by
  refine ⟨buffer.withComponents (buffer.components.map fun c => c.consume c.readable), ?_, ?_⟩
  · rw [readAll, ensureOpen_of_isOpen hopen]
    rfl
  · rw [toBytes_withComponents hopen, List.flatMap_map, List.flatMap_eq_nil_iff]
    intro c _
    rw [Component.readableBytes_consume, ← Component.length_readableBytes, List.drop_length]

theorem toBytes_of_closed (h : ¬ buffer.isOpen = true) : buffer.toBytes = [] := by
  obtain ⟨contents, hint⟩ := buffer
  cases contents with
  | some components => exact absurd rfl h
  | none => rfl

/-- Joined buffers read as one after the other; the closed ones add nothing. -/
theorem toBytes_compose (parts : List Buffer) :
    (compose parts).toBytes = (parts.filter isOpen).flatMap toBytes := by
  show (parts.flatMap components).flatMap Component.readableBytes = _
  rw [List.flatMap_assoc]
  show parts.flatMap toBytes = _
  induction parts with
  | nil => rfl
  | cons part rest ih =>
    by_cases hopen : part.isOpen = true
    · rw [List.filter_cons_of_pos hopen, List.flatMap_cons, List.flatMap_cons, ih]
    · rw [List.filter_cons_of_neg hopen, List.flatMap_cons, toBytes_of_closed hopen, ih]
      rfl

/-! ## All views -/

/-- The visitor fails nowhere and never stops. -/
def LetsThrough (buffer : Buffer) (visitor : Nat → Component → Visit) : Prop :=
  ∀ i c, buffer.readableComponents[i]? = some c →
    (visitor i c).advance ≤ c.readable ∧ (visitor i c).proceed = true

/-- The regions of a gather that takes all of a buffer. -/
def pieces (buffer : Buffer) : List Region :=
  buffer.readableComponents.map fun c => .ofBytes c.readableBytes

/-- All views of the readable bytes agree. -/
structure Agrees (buffer : Buffer) : Prop where
  /-- There are as many bytes as are counted. -/
  length : buffer.toBytes.length = buffer.readable
  /-- A visit that goes through shows as many components as are counted, none of them without bytes,
  and the bytes that it shows are all there are. -/
  visit : ∀ visitor, buffer.LetsThrough visitor →
    let walked := (buffer.visitReadable visitor).2
    walked.result = .ok (buffer.readableComponents.length : Nat) ∧
      walked.visited.length = buffer.readableComponents.length ∧
      (∀ c ∈ walked.visited, c.readableBytes ≠ []) ∧
      walked.visited.flatMap Component.readableBytes = buffer.toBytes
  /-- The numbers that a visitor is given count the components from zero on: nothing else that it
  might do makes a difference. -/
  numbers : ∀ visitor visitor',
    (∀ i c, buffer.readableComponents[i]? = some c → visitor' i c = visitor i c) →
    buffer.visitReadable visitor' = buffer.visitReadable visitor
  /-- A gather that accepts the buffer has all its bytes, and one that refuses it has some pieces
  from the front, but not all. Sizes are words. -/
  gather : (∀ c ∈ buffer.components, c.readable < UInt64.size) → ∀ gather : Gather,
    let gathered := gather.clear.addReadable buffer
    (gathered.1 = true →
        gathered.2.regions = buffer.pieces ∧ gathered.2.toBytes = buffer.toBytes) ∧
      (gathered.1 = false →
        gathered.2.regions <+: buffer.pieces ∧ gathered.2.regions ≠ buffer.pieces)
  /-- What is skipped is missing in front, and nothing else. -/
  skip : ∀ n, buffer.isOpen = true → n ≤ buffer.readable →
    ∃ after, buffer.skipReadable n = .ok after ∧ after.toBytes = buffer.toBytes.drop n
  /-- What is taken out is all there was. -/
  take : buffer.isOpen = true → ∃ after, buffer.readAll = .ok (buffer.toBytes, after) ∧
    after.readable = 0 ∧ after.toBytes = []

/-- The pieces of a buffer have bytes, and these are its bytes. -/
theorem pieces_spec (hwords : ∀ c ∈ buffer.components, c.readable < UInt64.size) :
    (∀ region ∈ buffer.pieces, region.length ≠ 0) ∧
      buffer.pieces.flatMap Region.bytes = buffer.toBytes := by
  constructor
  · intro region hmem
    obtain ⟨c, hc, rfl⟩ := List.mem_map.mp hmem
    obtain ⟨hmem, hreadable⟩ := List.mem_filter.mp hc
    intro hzero
    have hlength : c.readableBytes.length = 0 := by
      have hword := hwords c hmem
      rw [← Component.length_readableBytes] at hword
      exact (UInt64.toNat_ofNat_of_lt' hword).symm.trans (congrArg UInt64.toNat hzero)
    exact Component.isReadable_iff.mp hreadable (List.length_eq_zero_iff.mp hlength)
  · rw [pieces, List.flatMap_map, toBytes_eq_flatMap_readable]
    rfl

/-- **All views agree**, whatever the components are. -/
theorem agrees (buffer : Buffer) : buffer.Agrees where
  length := buffer.length_toBytes
  visit visitor hthrough := by
    have hmoves : ∀ i c, (buffer.components.filter Side.readable.eligible)[i]? = some c →
        (Side.readable.move c (visitor (0 + i) c)).2 = none ∧
          (visitor (0 + i) c).proceed = true := by
      intro i c hi
      rw [Nat.zero_add]
      obtain ⟨hadvance, hproceeds⟩ := hthrough i c hi
      have hmove : moveReader c (visitor i c) = _ := if_pos hadvance
      exact ⟨congrArg Prod.snd hmove, hproceeds⟩
    obtain ⟨hvisited, hresult⟩ := Side.walk_through hmoves
    have hshown : (buffer.visitReadable visitor).2.visited = buffer.readableComponents := hvisited
    rw [Nat.zero_add] at hresult
    dsimp only
    rw [hshown]
    refine ⟨hresult, rfl, fun c hc => ?_, buffer.toBytes_eq_flatMap_readable.symm⟩
    exact Component.isReadable_iff.mp (List.mem_filter.mp hc).2
  numbers visitor visitor' hsame := by
    have hwalk := @Side.walk_congr .readable visitor visitor' 0 buffer.components fun i c hi => by
      rw [Nat.zero_add]
      exact hsame i c hi
    have hvisit : Side.readable.visit buffer visitor' = Side.readable.visit buffer visitor := by
      rw [Side.visit_eq, Side.visit_eq, hwalk]
    exact hvisit
  gather hwords gather := by
    obtain ⟨hnonempty, hbytes⟩ := pieces_spec hwords
    obtain ⟨hall, hsome⟩ := Gather.regions_addAll hnonempty gather.clear
    have hclear : gather.clear.regions = [] := rfl
    refine ⟨fun h => ?_, fun h => ?_⟩
    · have hregions : (gather.clear.addReadable buffer).2.regions = buffer.pieces := hall h
      exact ⟨hregions, (congrArg (List.flatMap Region.bytes) hregions).trans hbytes⟩
    -- A prefix that is not proper would have left nothing over.
    · obtain ⟨taken, left, hleft, hpieces, htaken⟩ := hsome h
      have hregions : (gather.clear.addReadable buffer).2.regions = taken := htaken
      rw [hregions, hpieces]
      refine ⟨List.prefix_append taken left, fun hsame => hleft ?_⟩
      exact List.self_eq_append_right.mp hsame
  skip _ := skipReadable_of_le
  take hopen := by
    obtain ⟨after, hread, hempty⟩ := readAll_of_isOpen hopen
    exact ⟨after, hread, (toBytes_eq_nil_iff after).mp hempty, hempty⟩

end Buffer

/-! ## Buffers of a scenario -/

namespace Scenario.World

variable {world : World} {name sought : String} {buffer : Buffer}

/-- The world after the buffers of some names were moved elsewhere. -/
def emptied (world : World) (names : List String) : World :=
  names.foldl (fun world name => world.withBuffer name .closed) world

/-- A name keeps its buffer, unless the buffer was moved. -/
theorem get?_emptied (names : List String) (world : World) :
    (world.emptied names).outside.buffers.get? sought =
      if sought ∈ names then some .closed else world.outside.buffers.get? sought := by
  induction names generalizing world with
  | nil => rfl
  | cons name rest ih =>
    show ((world.withBuffer name .closed).emptied rest).outside.buffers.get? sought = _
    rw [ih]
    by_cases hlater : sought ∈ rest
    · rw [if_pos hlater, if_pos (List.mem_cons_of_mem _ hlater)]
    · rw [if_neg hlater]
      by_cases hname : sought = name
      · rw [hname, if_pos List.mem_cons_self]
        exact Named.get?_put_self ..
      · rw [if_neg (List.not_mem_cons_of_ne_of_not_mem hname hlater)]
        exact Named.get?_put_of_ne _ hname _

/-- The buffers of different names are moved out of them, in order. -/
theorem run_takeBuffers {names : List String} {parts : List Buffer} (hnames : names.Nodup)
    (hparts : List.Forall₂ (fun name part => world.outside.buffers.get? name = some part)
      names parts) :
    (takeBuffers names).run world = .ok parts (world.emptied names) := by
  induction names generalizing world parts with
  | nil =>
    cases hparts
    rfl
  | cons name rest ih =>
    obtain ⟨part, others, hpart, hothers, rfl⟩ := List.forall₂_cons_left_iff.mp hparts
    obtain ⟨hname, hrest⟩ := List.nodup_cons.mp hnames
    have htake : (takeBuffer name).run world = .ok part (world.withBuffer name .closed) :=
      Act.bind_of_ok (run_find_some hpart)
    -- The other names are different, so their buffers are still there.
    have hleft : List.Forall₂
        (fun other part => (world.withBuffer name .closed).outside.buffers.get? other = some part)
        rest others := by
      have hdifferent : ∀ other ∈ rest, other ≠ name := fun other hmem heq => hname (heq ▸ hmem)
      refine ((List.forall₂_and_left _ _).mpr ⟨hdifferent, hothers⟩).imp fun other part h => ?_
      exact (Named.get?_put_of_ne _ h.1 _).trans h.2
    have htaken := Act.run_capture_ok (ih hrest hleft)
    rw [takeBuffers, Act.bind_of_ok htake, Act.bind_of_ok htaken]
    rfl

/-- A buffer is stored under its name, whatever was there. -/
theorem run_storeBuffer (name : String) (buffer : Buffer) (world : World) :
    ∃ after, (storeBuffer name buffer).run world = .ok () after ∧
      after.outside.buffers = world.outside.buffers.put name buffer :=
  ⟨_, rfl, rfl⟩

/-- What it is to join the buffers of some names. -/
structure Joins (world : World) (name : String) (names : List String) (parts : List Buffer) :
    Prop where
  /-- The new buffer is open. -/
  isOpen : (Buffer.compose parts).isOpen = true
  /-- It reads as the open buffers did, one after the other. -/
  reads : (Buffer.compose parts).toBytes = (parts.filter Buffer.isOpen).flatMap Buffer.toBytes
  /-- It is stored under its name, and nothing is left of the others. -/
  joined : ∃ after,
    (performBuffer (.compose name names)).run world =
        .ok { result := some (.number 0), buffer := some (Buffer.compose parts).status } after ∧
      after.outside.buffers.get? name = some (.compose parts) ∧
      (∀ other ∈ names, other ≠ name → after.outside.buffers.get? other = some .closed) ∧
      ∀ other ∉ names, other ≠ name →
        after.outside.buffers.get? other = world.outside.buffers.get? other

theorem joins {names : List String} {parts : List Buffer} (hnames : names.Nodup)
    (hparts : List.Forall₂ (fun name part => world.outside.buffers.get? name = some part)
      names parts) (name : String) : world.Joins name names parts where
  isOpen := rfl
  reads := Buffer.toBytes_compose parts
  joined := by
    obtain ⟨after, hstore, hbuffers⟩ :=
      run_storeBuffer name (.compose parts) (world.emptied names)
    have hname : after.outside.buffers.get? name = some (.compose parts) := by
      rw [hbuffers]
      exact Named.get?_put_self ..
    have hother : ∀ other, other ≠ name → after.outside.buffers.get? other =
        if other ∈ names then some .closed else world.outside.buffers.get? other := by
      intro other hne
      rw [hbuffers, Named.get?_put_of_ne _ hne, get?_emptied]
    refine ⟨after, ?_, hname, fun other hmem hne => ?_, fun other hmem hne => ?_⟩
    · rw [performBuffer, Act.bind_of_ok (run_takeBuffers hnames hparts), Act.bind_of_ok hstore]
      exact Act.bind_of_ok (run_find_some hname)
    · rw [hother other hne, if_pos hmem]
    · rw [hother other hne, if_neg hmem]

/-- The buffers of a scenario look the same from all sides. -/
structure Agreeing (world : World) : Prop where
  /-- All views of a buffer agree. -/
  views : ∀ name buffer, world.outside.buffers.get? name = some buffer → buffer.Agrees
  /-- Different buffers can be joined. -/
  joins : ∀ name names parts, names.Nodup →
    List.Forall₂ (fun name part => world.outside.buffers.get? name = some part) names parts →
    world.Joins name names parts

/-- **The views of every buffer agree**, and joined buffers read as one after the other, in every
world and so in all that a program can reach. -/
theorem agreeing (world : World) : world.Agreeing where
  views _ buffer _ := buffer.agrees
  joins name _ _ hnames hparts := joins hnames hparts name

end Scenario.World

end UdpTransport
