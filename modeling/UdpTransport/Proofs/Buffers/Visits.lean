import UdpTransport.Proofs.Buffers.Requests

/-!
# Visits of components

A visitor is shown the components that have readable bytes, or those that have room, one by one
(`Buffer.Side`). It may do anything with them, and still each of them goes on from what it was, in
its place (`Side.evolves_visit`). Where it moves the cursor of one component and leaves the others
alone, this is a request for an amount that the component has, or has not: the request is refused
and leaves everything as it was, or served as the same request would be of the whole buffer
(`Side.ask_beyond`, `Side.ask_granted`).
-/

namespace UdpTransport.Buffer

open Component (total Alike Advances Evolves)

/-- What a visitor looks for in a component. -/
inductive Side where
  | readable
  | writable

namespace Side

variable {side : Side} {c c' : Component} {n : Nat}

/-- The bytes of a component that a visitor can have. -/
def amount : Side → Component → Nat
  | readable => Component.readable
  | writable => Component.room

/-- Whether a visitor is shown a component. -/
def eligible : Side → Component → Bool
  | readable => Component.isReadable
  | writable => Component.isWritable

/-- What a visitor's step does with a component. -/
def move : Side → Component → Visit → Component × Option Fault
  | readable => moveReader
  | writable => moveWriter

/-- Shows the components of a buffer to a visitor. -/
def visit : Side → Buffer → (Nat → Component → Visit) → Buffer × Walk
  | readable => visitReadable
  | writable => visitWritable

/-- The request for an amount. -/
def skip : Side → Nat → Request
  | readable => .skipReadable
  | writable => .skipWritable

/-- A component whose cursor was moved. -/
def moved : Side → Component → Nat → Component
  | readable => Component.consume
  | writable => Component.commit

/-- The visitor that moves the cursor of the component with an index, and leaves the others. -/
def only (index n : Nat) : Nat → Component → Visit := fun i _ =>
  if i = index then { advance := n } else {}

/-- Asks one component for an amount, by its index among those that a visitor is shown. -/
def ask (side : Side) (buffer : Buffer) (index n : Nat) : Buffer × Walk :=
  side.visit buffer (only index n)

theorem visit_eq (side : Side) (buffer : Buffer) (visitor : Nat → Component → Visit) :
    side.visit buffer visitor =
      let walked := walk side.eligible visitor side.move 0 buffer.components
      (buffer.withComponents walked.components, walked) := by
  cases side <;> rfl

/-! ## One component -/

/-- Whatever a visitor does with a component, the component goes on from what it was. -/
theorem evolves_move (side : Side) (c : Component) (step : Visit) :
    Evolves c (side.move c step).1 := by
  cases side with
  | readable =>
    show Evolves c (moveReader c step).1
    unfold moveReader
    split
    · exact .consume c _
    · exact .refl c
  | writable =>
    show Evolves c (moveWriter c step).1
    unfold moveWriter
    dsimp only
    split
    · exact (Evolves.poke c step.fill).trans (.commit _ _)
    · exact .poke c step.fill

/-- An amount that a component has not is refused, and the component stays as it was. -/
theorem move_beyond (side : Side) (h : side.amount c < n) :
    ∃ c', side.move c { advance := n } =
        (c', some (.violation ((side.skip n).excess (side.amount c)))) ∧ Alike c c' := by
  cases side with
  | readable => exact ⟨c, if_neg (Nat.not_le.mpr h), .refl c⟩
  | writable =>
    -- A writable component is stored to before its cursor is moved, be it nothing.
    refine ⟨c.poke [], ?_, .poke_nil c⟩
    have hroom : ¬ n ≤ (c.poke []).room := by
      rw [Component.room_poke]
      exact Nat.not_le.mpr h
    exact (if_neg hroom).trans (by rw [Component.room_poke]; rfl)

/-- An amount that a component has is passed. -/
theorem move_granted (side : Side) (h : n ≤ side.amount c) :
    ∃ c', side.move c { advance := n } = (c', none) ∧ Alike (side.moved c n) c' := by
  cases side with
  | readable => exact ⟨_, if_pos h, .refl _⟩
  | writable =>
    refine ⟨(c.poke []).commit n, if_pos ?_, (Alike.poke_nil c).commit n⟩
    rw [Component.room_poke]
    exact h

theorem advances_moved (side : Side) (c : Component) (n : Nat) : Advances c (side.moved c n) := by
  cases side with
  | readable => exact ⟨.consume c n, rfl⟩
  | writable => exact ⟨.commit c n, rfl⟩

/-- What a moved cursor leaves of the amounts. -/
theorem amounts_moved (h : n ≤ side.amount c) :
    (side.moved c n).readable + (side.skip n).taken = c.readable + (side.skip n).written ∧
      (side.moved c n).room + (side.skip n).written = c.room := by
  cases side with
  | readable =>
    have hle : n ≤ c.readable := h
    simp only [moved, skip, Request.taken, Request.written, Component.readable_consume,
      Component.room_consume]
    omega
  | writable =>
    have hle : n ≤ c.room := h
    simp only [moved, skip, Request.taken, Request.written, Component.readable_commit,
      Component.room_commit]
    omega

theorem content_moved (side : Side) (c : Component) (n : Nat) :
    (side.moved c n).memory.content = c.memory.content := by
  cases side <;> rfl

/-- A step that moves no cursor and stores nothing changes nothing. -/
theorem move_nothing (side : Side) (c : Component) :
    ∃ c', side.move c {} = (c', none) ∧ Alike c c' := by
  obtain ⟨c', hmove, halike⟩ := side.move_granted (Nat.zero_le (side.amount c))
  refine ⟨c', hmove, ?_⟩
  cases side with
  | readable => exact Component.consume_zero c ▸ halike
  | writable => exact Component.commit_zero c ▸ halike

/-! ## All components -/

section Walking

variable {visitor : Nat → Component → Visit} {index : Nat} {rest : List Component}

/-- A component that is not shown stays as it is. -/
theorem walk_cons_skipped (h : ¬ side.eligible c = true) :
    walk side.eligible visitor side.move index (c :: rest) =
      let later := walk side.eligible visitor side.move index rest
      ⟨c :: later.components, later.visited, later.result⟩ := by
  rw [walk, if_neg h]

/-- A visit that fails ends the walk. -/
theorem walk_cons_failed {fault : Fault} (h : side.eligible c = true)
    (hmove : side.move c (visitor index c) = (c', some fault)) :
    walk side.eligible visitor side.move index (c :: rest) =
      ⟨c' :: rest, [c], .error fault⟩ := by
  rw [walk, if_pos h]
  dsimp only
  rw [hmove]

/-- A visit that does not fail may go on. -/
theorem walk_cons_moved (h : side.eligible c = true)
    (hmove : side.move c (visitor index c) = (c', none)) :
    walk side.eligible visitor side.move index (c :: rest) =
      if (visitor index c).proceed then
        let later := walk side.eligible visitor side.move (index + 1) rest
        ⟨c' :: later.components, c :: later.visited, later.result⟩
      else ⟨c' :: rest, [c], .ok (-(index + 1))⟩ := by
  rw [walk, if_pos h]
  dsimp only
  rw [hmove]

/-- **Whatever a visitor does, each component goes on from what it was**, in its place. -/
theorem evolves_walk (side : Side) (visitor : Nat → Component → Visit) (index : Nat)
    (components : List Component) :
    List.Forall₂ Evolves components
      (walk side.eligible visitor side.move index components).components := by
  induction components generalizing index with
  | nil => exact .nil
  | cons c rest ih =>
    by_cases heligible : side.eligible c = true
    · have hmoved := side.evolves_move c (visitor index c)
      cases hmove : side.move c (visitor index c) with
      | mk c' fault? =>
        rw [hmove] at hmoved
        -- A visit that fails or ends the walk leaves the components behind it as they are.
        cases fault? with
        | some fault =>
          rw [walk_cons_failed heligible hmove]
          exact .cons hmoved (Component.evolves_refl rest)
        | none =>
          rw [walk_cons_moved heligible hmove]
          split
          · exact .cons hmoved (ih _)
          · exact .cons hmoved (Component.evolves_refl rest)
    · rw [walk_cons_skipped heligible]
      exact .cons (.refl c) (ih _)

/-- A walk goes past a component that a visitor leaves alone. -/
theorem walk_cons_nothing (side : Side) (hnothing : visitor index c = {})
    (rest : List Component) :
    ∃ c', Alike c c' ∧
      (walk side.eligible visitor side.move index (c :: rest)).components = c' ::
        (walk side.eligible visitor side.move (index + [c].countP side.eligible) rest).components ∧
      (walk side.eligible visitor side.move index (c :: rest)).result =
        (walk side.eligible visitor side.move (index + [c].countP side.eligible) rest).result := by
  by_cases heligible : side.eligible c = true
  · obtain ⟨c', hmove, halike⟩ := side.move_nothing c
    refine ⟨c', halike, ?_⟩
    rw [← hnothing] at hmove
    rw [walk_cons_moved heligible hmove, hnothing, List.countP_singleton, if_pos heligible]
    exact ⟨rfl, rfl⟩
  · refine ⟨c, .refl c, ?_⟩
    rw [walk_cons_skipped heligible, List.countP_singleton, if_neg heligible]
    exact ⟨rfl, rfl⟩

/-- A walk that a visitor lets pass changes nothing. -/
theorem walk_nothing (side : Side) (hnothing : ∀ i ≥ index, ∀ c, visitor i c = {})
    (components : List Component) :
    List.Forall₂ Alike components
        (walk side.eligible visitor side.move index components).components ∧
      (walk side.eligible visitor side.move index components).result =
        .ok (index + components.countP side.eligible : Nat) := by
  induction components generalizing index with
  | nil => exact ⟨.nil, rfl⟩
  | cons c rest ih =>
    obtain ⟨c', halike, hcomponents, hresult⟩ :=
      side.walk_cons_nothing (hnothing index (Nat.le_refl _) c) rest
    have hlater : ∀ i ≥ index + [c].countP side.eligible, ∀ c, visitor i c = {} := fun i hi =>
      hnothing i (Nat.le_trans (Nat.le_add_right ..) hi)
    obtain ⟨hrest, hend⟩ := ih hlater
    rw [hcomponents, hresult, hend, Nat.add_assoc, ← List.countP_append]
    exact ⟨.cons halike hrest, rfl⟩

/-- A walk whose visitor moves one cursor comes to what the move comes to. -/
theorem walk_only {front back : List Component} {fault? : Option Fault} {target : Nat}
    (htarget : target = index + front.countP side.eligible) (heligible : side.eligible c = true)
    (hmove : side.move c { advance := n } = (c', fault?)) :
    ∃ front' back', List.Forall₂ Alike front front' ∧ List.Forall₂ Alike back back' ∧
      (walk side.eligible (only target n) side.move index (front ++ c :: back)).components =
        front' ++ c' :: back' ∧
      (walk side.eligible (only target n) side.move index (front ++ c :: back)).result =
        fault?.elim (.ok (index + (front ++ c :: back).countP side.eligible : Nat)) .error := by
  induction front generalizing index with
  | nil =>
    have hvisit : only target n index c = { advance := n } := if_pos htarget.symm
    rw [← hvisit] at hmove
    rw [List.nil_append]
    cases fault? with
    | some fault =>
      rw [walk_cons_failed heligible hmove]
      exact ⟨[], back, .nil, List.forall₂_same.mpr fun c _ => .refl c, rfl, rfl⟩
    | none =>
      have hlater : ∀ i ≥ index + 1, ∀ c, only target n i c = {} := fun i hi _ =>
        if_neg (by rw [htarget, List.countP_nil]; omega)
      obtain ⟨hback, hresult⟩ := side.walk_nothing hlater back
      rw [walk_cons_moved heligible hmove, hvisit, List.countP_cons_of_pos heligible]
      refine ⟨[], _, .nil, hback, rfl, hresult.trans ?_⟩
      rw [Nat.add_assoc, Nat.add_comm 1]
      rfl
  | cons first rest ih =>
    by_cases hfirst : side.eligible first = true
    · -- A component that is shown earlier has another index, so the visitor leaves it alone.
      rw [List.countP_cons_of_pos hfirst] at htarget
      have hnothing : only target n index first = {} := if_neg (by omega)
      obtain ⟨first', halike, hcomponents, hresult⟩ :=
        side.walk_cons_nothing hnothing (rest ++ c :: back)
      rw [List.countP_singleton, if_pos hfirst] at hcomponents hresult
      have hnext : target = index + 1 + rest.countP side.eligible := by omega
      obtain ⟨front', back', hfront, hback, hlater, hend⟩ := ih hnext
      refine ⟨first' :: front', back', .cons halike hfront, hback, ?_, ?_⟩
      · rw [List.cons_append, hcomponents, hlater, List.cons_append]
      · rw [List.cons_append, hresult, hend, List.countP_cons_of_pos hfirst, Nat.add_assoc,
          Nat.add_comm 1]
    · rw [List.countP_cons_of_neg hfirst] at htarget
      obtain ⟨front', back', hfront, hback, hlater, hend⟩ := ih htarget
      rw [List.cons_append, walk_cons_skipped hfirst, List.countP_cons_of_neg hfirst]
      exact ⟨first :: front', back', .cons (.refl first) hfront, hback,
        congrArg (first :: ·) hlater, hend⟩

end Walking

/-! ## Requests of one component -/

section Requests

variable {buffer : Buffer} {front back : List Component}

theorem evolves_visit (side : Side) (buffer : Buffer) (visitor : Nat → Component → Visit) :
    List.Forall₂ Evolves buffer.components (side.visit buffer visitor).1.components := by
  rw [visit_eq]
  exact forall₂_withComponents (side.evolves_walk visitor 0 buffer.components)

/-- A buffer with a component among others is open. -/
theorem isOpen_of_components (h : buffer.components = front ++ c :: back) :
    buffer.isOpen = true := by
  obtain ⟨contents, hint⟩ := buffer
  cases contents with
  | some components => rfl
  | none => exact absurd h (by simp [components])

/-- A visitor that asks one component for an amount comes to what the component says to it. -/
theorem ask_only (h : buffer.components = front ++ c :: back)
    (heligible : side.eligible c = true) {fault? : Option Fault}
    (hmove : side.move c { advance := n } = (c', fault?)) :
    ∃ front' back', List.Forall₂ Alike front front' ∧ List.Forall₂ Alike back back' ∧
      (side.ask buffer (front.countP side.eligible) n).1 =
        buffer.withComponents (front' ++ c' :: back') ∧
      (side.ask buffer (front.countP side.eligible) n).2.result =
        fault?.elim (.ok (buffer.components.countP side.eligible : Nat)) .error := by
  have htarget : front.countP side.eligible = 0 + front.countP side.eligible :=
    (Nat.zero_add _).symm
  obtain ⟨front', back', hfront, hback, hcomponents, hresult⟩ :=
    walk_only htarget heligible hmove
  refine ⟨front', back', hfront, hback, ?_, ?_⟩
  · rw [ask, visit_eq, h]
    dsimp only
    rw [hcomponents]
  · rw [ask, visit_eq, h]
    dsimp only
    rw [hresult, Nat.zero_add]

/-- **An amount that a component has not is refused**, and the buffer stays as it was. -/
theorem ask_beyond (h : buffer.components = front ++ c :: back)
    (heligible : side.eligible c = true) (hbeyond : side.amount c < n) :
    (side.ask buffer (front.countP side.eligible) n).2.result =
        .error (.violation ((side.skip n).excess (side.amount c))) ∧
      List.Forall₂ Alike buffer.components
        (side.ask buffer (front.countP side.eligible) n).1.components := by
  obtain ⟨c', hmove, halike⟩ := side.move_beyond hbeyond
  obtain ⟨front', back', hfront, hback, hcomponents, hresult⟩ := ask_only h heligible hmove
  refine ⟨hresult, ?_⟩
  rw [hcomponents, components_withComponents (isOpen_of_components h), h]
  exact List.rel_append hfront (.cons halike hback)

/-- The amounts of a buffer change as those of the component do. -/
theorem total_replaced {amount : Component → Nat} {front' back' : List Component}
    (halike : ∀ c c', Alike c c' → amount c' = amount c) (hfront : List.Forall₂ Alike front front')
    (hback : List.Forall₂ Alike back back') :
    total amount (front' ++ c' :: back') + amount c =
      total amount (front ++ c :: back) + amount c' := by
  rw [Component.total_append, Component.total_append, total, total,
    Component.total_congr hfront halike, Component.total_congr hback halike]
  omega

theorem contents_alike {before after : List Component} (h : List.Forall₂ Alike before after) :
    after.map (·.memory.content) = before.map (·.memory.content) := by
  induction h with
  | nil => rfl
  | cons hfirst _ ih => rw [List.map_cons, List.map_cons, hfirst.content, ih]

/-- **An amount that a component has is granted**, as it would be by the whole buffer. -/
theorem ask_granted (h : buffer.components = front ++ c :: back)
    (heligible : side.eligible c = true) (hle : n ≤ side.amount c) :
    ∃ front' c' back',
      (side.ask buffer (front.countP side.eligible) n).2.result =
          .ok (buffer.components.countP side.eligible : Nat) ∧
        (side.ask buffer (front.countP side.eligible) n).1.components =
          front' ++ c' :: back' ∧
        List.Forall₂ Alike front front' ∧ Alike (side.moved c n) c' ∧
        List.Forall₂ Alike back back' ∧
        (side.skip n).Granted buffer
          (side.ask buffer (front.countP side.eligible) n).1 := by
  obtain ⟨c', hmove, halike⟩ := side.move_granted hle
  obtain ⟨front', back', hfront, hback, hvisit, hresult⟩ := ask_only h heligible hmove
  have hopen := isOpen_of_components h
  have hadvances : List.Forall₂ Advances (front ++ c :: back) (front' ++ c' :: back') :=
    List.rel_append (hfront.imp fun _ _ h => h.advances)
      (.cons ((side.advances_moved c n).alike halike) (hback.imp fun _ _ h => h.advances))
  obtain ⟨hreadable, hroom⟩ := amounts_moved hle
  have hread : total Component.readable (front' ++ c' :: back') + c.readable =
      total Component.readable (front ++ c :: back) + c'.readable :=
    total_replaced (fun _ _ h => h.readable) hfront hback
  have hspace : total Component.room (front' ++ c' :: back') + c.room =
      total Component.room (front ++ c :: back) + c'.room :=
    total_replaced (fun _ _ h => h.room) hfront hback
  rw [← halike.readable] at hreadable
  rw [← halike.room] at hroom
  rw [hvisit]
  refine ⟨front', c', back', hresult, components_withComponents hopen _, hfront, halike, hback,
    Request.granted_withComponents hopen (h ▸ hadvances) ?_ ?_ fun _ => ?_⟩
  · rw [h]
    omega
  · rw [h]
    omega
  · -- A cursor that is moved changes no bytes.
    have hcontent := halike.content.trans (side.content_moved c n)
    rw [h, List.map_append, List.map_append, List.map_cons, List.map_cons, contents_alike hfront,
      contents_alike hback, hcontent]

end Requests

end Side

end UdpTransport.Buffer
