import UdpTransport.Proofs.Memory.Objects
import UdpTransport.Scenario.Channels
import UdpTransport.Scenario.Sockets

/-!
# Steps on channels keep the books

A message that is made for a channel goes to a channel that is there: the channel is looked for
before the message is made, and making a message removes none (`World.Present`). A channel that is
made takes a name that is free, since the one of that name was removed before
(`World.triple_remove`). With this, every step on channels, receive handles and event loops keeps
the books (`World.conserves_performChannel`, `World.conserves_performLoop`), if the listener does.
Sockets, policies and the log have nothing to do with memory.
-/

namespace UdpTransport.Scenario.World

variable {α β : Type} {name : String} {depth : Nat} {taken left : Multiset AllocatorId}
  {given : α → Multiset AllocatorId}

/-! ## Channels that are there -/

/-- The channels, and the names that channels were asked for under. -/
def roster (world : World) : Named Station × Named Scripts :=
  (world.stations, world.outside.handlers)

/-- A channel of this name is there. -/
def Present (name : String) (world : World) : Prop :=
  (world.outside.handlers.get? name).isSome ∧ (world.stations.get? name).isSome

/-- What belongs to nobody but the books leaves the roster alone as well. -/
theorem within_roster_of {act : WorldAct α} (h : Act.Within (Act.Fixing belongings) act) :
    Act.Within (Act.Fixing roster) act := by
  intro world
  have hsame := h world
  simp only [Act.Fixing, belongings, Prod.mk.injEq] at hsame
  simp only [Act.Fixing, roster, hsame]

/-- A channel that is there stays there as long as the roster does. -/
theorem keeps_present {act : WorldAct α} (h : Act.Within (Act.Fixing roster) act) (name : String) :
    Act.Within (Act.Keeping (Present name)) act := by
  refine h.mono fun world world' hsame hpresent => ?_
  simp only [Act.Fixing, roster, Prod.mk.injEq] at hsame
  unfold Present
  rw [hsame.1, hsame.2]
  exact hpresent

/-- A change of the bench that spares the handlers keeps the roster. -/
theorem within_roster_arrange {f : Bench → Bench}
    (h : ∀ bench, (f bench).handlers = bench.handlers) :
    Act.Within (Act.Fixing roster) (arrange f) := by
  refine Act.within_modify fun world => ?_
  simp only [Act.Fixing, roster, h]

/-- Memory is counted without a look at the roster. -/
theorem within_roster_ledger (act : Act Ledger α) :
    Act.Within (Act.Fixing roster) (liftM act : WorldAct α) := by
  intro world
  have hafter : (liftM act : WorldAct α).after world = { world with
      host := (liftM act : Act Host α).after world.host } := Act.after_focus _ _ _ world
  rw [Act.Fixing, hafter]
  rfl

/-- A buffer that is taken from its name was no channel. -/
theorem within_roster_takeBuffer (name : String) :
    Act.Within (Act.Fixing roster) (takeBuffer name) := by
  refine Act.within_bind (within_roster_of (within_find _ _)) fun content => ?_
  exact Act.within_bind (within_roster_arrange fun _ => rfl) fun _ => Act.within_pure _

/-- Nor does it matter to the roster what is given back after a failure. -/
theorem within_roster_orDiscard (buffer : Buffer) (act : Except Fault α) :
    Act.Within (Act.Fixing roster) (orDiscard buffer act) := by
  cases act with
  | ok a => exact Act.within_pure a
  | error fault => exact Act.within_bind (within_roster_ledger _) fun _ => Act.within_throw fault

/-- A list that is made from its end keeps the roster if its rest does. -/
theorem within_roster_cons {first : Buffer} {others : WorldAct (List Buffer)}
    {next : Except Fault (List Buffer) → WorldAct (List Buffer)}
    (h : Act.Within (Act.Fixing roster) others)
    (hok : ∀ buffers, next (.ok buffers) = pure (first :: buffers))
    (herror : ∀ fault, next (.error fault) = (do
      Ledger.discard first
      throw fault)) :
    Act.Within (Act.Fixing roster) (others.capture >>= next) := by
  refine Act.within_bind (Act.within_capture h) fun result => ?_
  cases result with
  | ok buffers =>
    rw [hok]
    exact Act.within_pure _
  | error fault =>
    rw [herror]
    exact Act.within_bind (within_roster_ledger _) fun _ => Act.within_throw fault

/-- Copies are made one after the other, and none of them names a channel. -/
theorem within_roster_makeCopies {make : WorldAct Buffer} (h : Act.Within (Act.Fixing roster) make)
    (count : Nat) : Act.Within (Act.Fixing roster) (makeCopies make count) := by
  induction count with
  | zero => exact Act.within_pure _
  | succ count ih =>
    exact Act.within_bind h fun first => within_roster_cons ih (fun _ => rfl) fun _ => rfl

mutual

/-- Making a buffer has nothing to do with channels. -/
theorem within_roster_makeBuffer : ∀ spec : BufferSpec,
    Act.Within (Act.Fixing roster) (makeBuffer spec)
  | .use _ => within_roster_takeBuffer _
  | .closed => Act.within_pure _
  | .parts parts => Act.within_bind (within_roster_makeBuffers parts) fun _ => Act.within_pure _
  | .repeated count part =>
    Act.within_bind (within_roster_makeCopies (within_roster_makeBuffer part) count) fun _ =>
      Act.within_pure _
  | .wrapped _ _ =>
    Act.within_bind (within_roster_of (within_find _ _)) fun _ => within_roster_ledger _
  | .filled _ _ _ =>
    Act.within_bind (within_roster_of (within_find _ _)) fun _ =>
      Act.within_bind (within_roster_ledger _) fun _ => within_roster_orDiscard _ _
  | .skipping _ spec =>
    Act.within_bind (within_roster_makeBuffer spec) fun _ => within_roster_orDiscard _ _
  | .touched _ spec => Act.within_bind (within_roster_makeBuffer spec) fun _ => Act.within_pure _

theorem within_roster_makeBuffers : ∀ specs : List BufferSpec,
    Act.Within (Act.Fixing roster) (makeBuffers specs)
  | [] => Act.within_pure _
  | spec :: rest =>
    Act.within_bind (within_roster_makeBuffer spec) fun _ =>
      within_roster_cons (within_roster_makeBuffers rest) (fun _ => rfl) fun _ => rfl

end

/-- A message is made from buffers, whatever its form. -/
theorem within_roster_makeMessage (spec : MessageSpec) :
    Act.Within (Act.Fixing roster) (makeMessage spec) := by
  cases spec with
  | empty => exact Act.within_pure _
  | stored name =>
    refine Act.within_bind (within_roster_of (within_find _ _)) fun stored => ?_
    exact Act.within_bind (within_roster_arrange fun _ => rfl) fun _ => Act.within_pure _
  | fresh form content recipient sender size =>
    refine Act.within_bind (Act.within_ofExcept _) fun _ => ?_
    refine Act.within_bind (Act.within_ofExcept _) fun _ => ?_
    refine Act.within_bind (within_roster_makeBuffer content) fun made => ?_
    cases form with
    | buffer => exact Act.within_pure _
    | packet => exact Act.within_pure _
    | segmented => exact within_roster_orDiscard _ _
    | envelope => exact Act.within_pure _

/-! ## Operations of one channel -/

/-- An operation of one channel balances in the scenario as it does at the site of the channel. -/
theorem balances_onChannel {owned : Bench → Holding} {act : StationAct Bench α}
    (h : Act.Balances (Site.custody (Elsewhere.owned owned name)) taken act given taken) :
    Act.Balances (Transport.custody owned) taken (onChannel name act) given taken :=
  Act.Balances.bind (.fixing (Act.within_of_after (after_known name)) (fun _ _ => rfl) rfl)
    fun _ _ => Transport.balances_on h

/-- What an operation of one channel returns, the channel returned. -/
theorem returns_onChannel {act : StationAct Bench α} {a : α} (h : (onChannel name act).Returns a) :
    act.Returns a := by
  obtain ⟨_, _, hon⟩ := Act.returns_bind h
  exact Transport.returns_on hon

/-- An operation of a channel that leaves the rest of the world alone leaves the objects alone. -/
theorem keeps_outside_onChannel {act : StationAct Bench α}
    (h : Act.Within (Act.Fixing fun site => site.outside) act) (bench : Bench) :
    Act.Within (Act.Keeping fun world : World => world.outside = bench) (onChannel name act) := by
  refine Act.within_bind (Act.within_of_after (after_known name)) fun _ => ?_
  exact (Transport.within_outside_on h).mono fun world world' hsame hbench => hsame.trans hbench

/-- What leaves the custody of a channel alone leaves that of the scenario alone. -/
theorem within_custody_onChannel {act : StationAct Bench α}
    (h : Act.Within (Act.Fixing (Site.custody (Elsewhere.owned (Bench.holding depth) name))) act) :
    Act.Within (Act.Fixing (custody depth)) (onChannel name act) :=
  Act.within_bind (within_custody_of (within_known name)) fun _ => Transport.within_custody_on h

/-- A channel that is there takes over what an operation takes over. -/
theorem triple_onChannel {act : StationAct Bench α}
    (h : Act.Balances (Site.custody (Elsewhere.owned (Bench.holding depth) name)) taken act given
      left)
    (rest : Multiset AllocatorId) :
    Act.Triple (fun world => Present name world ∧ (custody depth world).Balanced (taken + rest))
      (onChannel name act) (fun a world => (custody depth world).Balanced (given a + rest))
      fun _ world => (custody depth world).Balanced (left + rest) := by
  refine .pointwise ?_
  rintro world ⟨⟨hknown, hthere⟩, hbalanced⟩
  obtain ⟨scripts, hscripts⟩ := Option.isSome_iff_exists.mp hknown
  refine .of_run (Act.bind_of_ok (run_known hscripts)) ?_
  exact (Transport.triple_on h rest).starting ⟨hthere, hbalanced⟩

/-- A channel that was found is there. -/
theorem triple_station (name : String) (P : World → Prop) :
    Act.Triple P (station name) (fun _ world => Present name world ∧ P world) fun _ => P := by
  refine .pointwise fun world hworld => ?_
  cases hscripts : world.outside.handlers.get? name with
  | none => exact .of_error (Act.bind_of_error (Act.bind_of_error (run_find_none hscripts))) hworld
  | some scripts =>
    refine .of_run (Act.bind_of_ok (run_known hscripts)) ?_
    cases hstation : world.stations.get? name with
    | none =>
      have hrun : (Transport.station name).run world = .error .noChannel world := by
        unfold Transport.station
        rw [Act.bind_of_ok (EStateM.run_get world), hstation]
        rfl
      exact .of_error hrun hworld
    | some found =>
      refine .of_ok (Transport.run_station hstation) ⟨⟨?_, ?_⟩, hworld⟩
      · rw [hscripts]
        rfl
      · rw [hstation]
        rfl

/-- What is made once the channel was found may be handed to the channel, if its making has nothing
to do with channels. -/
theorem conserves_station {make : WorldAct α} {mid : α → Multiset AllocatorId}
    {next : α → WorldAct β} (hmake : Act.Balances (custody depth) 0 make mid 0)
    (hroster : Act.Within (Act.Fixing roster) make)
    (hnext : ∀ made rest, Act.Triple
      (fun world => Present name world ∧ (custody depth world).Balanced (mid made + rest))
      (next made)
      (fun _ world => (custody depth world).Balanced (0 + rest))
      fun _ world => (custody depth world).Balanced (0 + rest)) :
    Act.Conserves (custody depth) (do
      let _ ← station name
      let made ← make
      next made) := by
  intro rest
  refine Act.Triple.bind (triple_station name _) fun found => ?_
  refine Act.Triple.bind (((hmake rest).keeping (keeps_present hroster name)).weaken
    (fun _ h => h) (fun _ _ h => h) fun _ _ h => h.2) fun made => hnext made rest

/-- To put a promise under a number moves no memory. -/
theorem within_handOut (ticket : Ticket) : Act.Within (Act.Fixing belongings) (handOut ticket) := by
  refine Act.within_bind (Act.within_bind within_bench fun _ => Act.within_pure _) fun number => ?_
  exact Act.within_bind (within_arrange fun _ => ⟨rfl, rfl, rfl, rfl⟩) fun _ => Act.within_pure _

/-- So an operation that hands one out keeps the books if its channel does. -/
theorem conserves_handedOut {act : WorldAct Ticket} (h : Act.Conserves (custody depth) act) :
    Act.Conserves (custody depth) (handedOut act) := by
  refine Act.Conserves.bind h fun ticket => ?_
  exact conserves_of (Act.within_bind (within_handOut ticket) fun _ => Act.within_pure _)

/-- A channel that is there takes over the message that is handed to it. -/
theorem triple_handedOut {act : StationAct Bench Ticket}
    (h : Act.Balances (Site.custody (Elsewhere.owned (Bench.holding depth) name)) taken act
      (fun _ => 0) 0)
    (rest : Multiset AllocatorId) :
    Act.Triple (fun world => Present name world ∧ (custody depth world).Balanced (taken + rest))
      (handedOut (onChannel name act)) (fun _ world => (custody depth world).Balanced (0 + rest))
      fun _ world => (custody depth world).Balanced (0 + rest) := by
  refine Act.Triple.bind (triple_onChannel h rest) fun ticket => ?_
  have hshow : Act.Conserves (custody depth) (do
      return ({ result := some (.number (← handOut ticket)) } : Reply)) :=
    conserves_of (Act.within_bind (within_handOut ticket) fun _ => Act.within_pure _)
  exact hshow rest

/-! ## Making channels -/

section Making

/-- A policy is a record of numbers, and owns nothing. -/
theorem within_addPolicy (policy : ReceivePolicy) :
    Act.Within (Act.Fixing belongings) (addPolicy policy) := fun _ => rfl

/-- The same where an older policy is chosen. -/
theorem within_choosePolicy (choice : PolicyChoice) :
    Act.Within (Act.Fixing belongings) (choosePolicy choice) := by
  cases choice with
  | none => exact Act.within_pure _
  | named name => exact Act.within_bind (within_find _ _) fun _ => Act.within_pure _
  | fresh spec =>
    refine Act.within_bind (Act.within_ofExcept _) fun policy => ?_
    exact Act.within_bind (within_addPolicy policy) fun _ => Act.within_pure _

/-- To settle one value of a draft moves no memory. -/
theorem within_settle (change : ConfigChange) :
    Act.Within (Act.Fixing belongings) (settle change) := by
  cases change with
  | allocator name? =>
    cases name? with
    | none => exact Act.within_bind (Act.within_pure _) fun _ => Act.within_pure _
    | some name =>
      refine Act.within_bind ?_ fun _ => Act.within_pure _
      exact Act.within_bind (within_find _ _) fun _ => Act.within_pure _
  | policy choice => exact Act.within_bind (within_choosePolicy choice) fun _ => Act.within_pure _
  | autoRead on => exact Act.within_pure _
  | activeOnOpen on => exact Act.within_pure _
  | spinCount count => exact Act.within_pure _
  | maxWrites count => exact Act.within_pure _
  | suspended on => exact Act.within_pure _

/-- Nor do all of them. -/
theorem within_amendDraft (changes : List ConfigChange) (draft : ChannelDraft) :
    Act.Within (Act.Fixing belongings) (amendDraft changes draft) := by
  induction changes generalizing draft with
  | nil => exact Act.within_pure _
  | cons change rest ih => exact Act.within_bind (within_settle change) fun _ => ih _

/-- A draft is made from the defaults. -/
theorem within_makeDraft (changes : List ConfigChange) :
    Act.Within (Act.Fixing belongings) (makeDraft changes) := by
  have hrest : ∀ own, Act.Within (Act.Fixing belongings) (do
      let fixed ← addPolicy { sizing := .fixed ReceivePolicy.defaultSize }
      amendDraft changes { allocator := own, policy := some fixed }) := fun own =>
    Act.within_bind (within_addPolicy _) fun _ => within_amendDraft _ _
  unfold makeDraft
  split
  · exact Act.within_bind (Act.within_pure none) hrest
  · refine Act.within_bind ?_ hrest
    rw [map_eq_pure_bind]
    exact Act.within_bind (within_find _ _) fun _ => Act.within_pure _

/-- A new endpoint has neither messages nor components. -/
theorem within_makeEndpoint (name : String) (spec : ChannelSpec) :
    Act.Within (Act.Fixing belongings) (makeEndpoint name spec) := by
  unfold makeEndpoint
  split
  · cases spec.socket with
    | none => exact Act.within_pure _
    | some options => exact Act.within_bind (within_native _) fun _ => Act.within_pure _
  · exact Act.within_pure _

/-- And one that was made for nothing has nothing to give back. -/
theorem within_dropEndpoint (endpoint? : Option ChannelEndpoint) :
    Act.Within (Act.Fixing belongings) (dropEndpoint endpoint?) := by
  cases endpoint? with
  | none => exact Act.within_pure ()
  | some endpoint =>
    cases endpoint with
    | memory endpoint => exact Act.within_pure ()
    | socket socket => exact within_native _

/-- There is no channel of this name. -/
def Absent (name : String) (world : World) : Prop := world.stations.get? name = none

/-- A name is free once its channel was removed. -/
theorem triple_remove (name : String) (rest : Multiset AllocatorId)
    {raised : Fault → World → Prop} :
    Act.Triple (fun world => (custody depth world).Balanced (0 + rest)) (Transport.remove name)
      (fun _ world => Absent name world ∧ (custody depth world).Balanced (0 + rest)) raised := by
  refine .pointwise fun world hbalanced => ?_
  obtain ⟨host, hrun⟩ := Transport.run_remove hbalanced name
  refine .of_ok hrun ⟨Named.get?_erase_self .., ?_⟩
  exact (Transport.conserves_remove name rest).ok hbalanced hrun

/-- A change of the bench that spares its holdings keeps the books. -/
theorem within_custody_arrange {f : Bench → Bench}
    (h : ∀ bench, (f bench).holding depth = bench.holding depth) :
    Act.Within (Act.Fixing (custody depth)) (arrange f) := by
  refine Act.within_modify fun world => ?_
  show Custody.mk _ (((f world.outside).holding depth).add _) = _
  rw [h]
  rfl

/-- What has nothing to do with memory and channels leaves a name free. -/
theorem triple_absent {act : WorldAct α} (h : Act.Within (Act.Fixing belongings) act)
    (rest : Multiset AllocatorId) :
    Act.Triple (fun world => Absent name world ∧ (custody depth world).Balanced (0 + rest)) act
      (fun _ world => Absent name world ∧ (custody depth world).Balanced (0 + rest))
      fun _ world => (custody depth world).Balanced (0 + rest) := by
  have hkeeps : Act.Within (Act.Keeping (Absent name)) act := by
    refine (within_roster_of h).mono fun world world' hsame habsent => ?_
    simp only [Act.Fixing, roster, Prod.mk.injEq] at hsame
    unfold Absent
    rw [hsame.1]
    exact habsent
  exact ((conserves_of h rest).keeping hkeeps).weaken (fun _ h => h) (fun _ _ h => h)
    fun _ _ h => h.2

/-- A new channel has nothing in its queue. -/
theorem triple_putStation {station : Station} (hnew : station.uses = 0)
    (rest : Multiset AllocatorId) {raised : Fault → World → Prop} :
    Act.Triple (fun world => Absent name world ∧ (custody depth world).Balanced (0 + rest))
      (modify fun world : World => { world with stations := world.stations.put name station })
      (fun _ world => (custody depth world).Balanced (0 + rest)) raised := by
  refine Act.Triple.modify ?_
  rintro world ⟨habsent, hbalanced⟩
  rw [custody, Transport.custody_withStations]
  · exact hbalanced
  · rw [Named.total_put, hnew, zero_add, Named.erase_of_none habsent]

/-- **A channel takes a free name**, so nothing that waits is lost by making one. -/
theorem conserves_makeChannel (name : String) (spec : ChannelSpec) :
    Act.Conserves (custody depth) (makeChannel name spec) := by
  intro rest
  -- The name stays absent until the station is put there, so no queue is overwritten.
  refine Act.Triple.bind (triple_remove name rest) fun _ => ?_
  refine Act.Triple.via
    (fun _ world => Absent name world ∧ (custody depth world).Balanced (0 + rest)) ?_ fun _ => ?_
  · refine Act.Triple.modify ?_
    rintro world ⟨habsent, hbalanced⟩
    exact ⟨habsent, hbalanced⟩
  refine Act.Triple.bind (triple_absent (within_makeDraft _) rest) fun draft => ?_
  refine Act.Triple.bind (triple_absent (within_makeEndpoint _ _) rest) fun endpoint? => ?_
  have hfail : ∀ fault, Act.Triple
      (fun world => Absent name world ∧ (custody depth world).Balanced (0 + rest)) (do
        dropEndpoint endpoint?
        throw fault : WorldAct Unit) (fun _ world => (custody depth world).Balanced (0 + rest))
      fun _ world => (custody depth world).Balanced (0 + rest) := fun fault =>
    ((Act.Conserves.bind (conserves_of (within_dropEndpoint _)) fun _ => .throw fault) rest).weaken
      (fun _ h => h.2) (fun _ _ h => h) fun _ _ h => h
  cases hcheck : draft.check endpoint?.isSome spec.hasHandler with
  | error fault =>
    cases endpoint? with
    | none => exact hfail fault
    | some endpoint => exact hfail fault
  | ok config =>
    cases endpoint? with
    | none => exact .throw fun _ h => h.2
    | some endpoint =>
      refine Act.Triple.bind (triple_putStation rfl rest) fun _ => ?_
      have hobserve : Act.Conserves (custody depth)
          (onChannel name (Channel.setRegistration (some .observer))) :=
        .fixing (within_custody_onChannel (Channel.within_custody_setRegistration _))
      split
      · exact hobserve rest
      · exact .pure fun _ h => h

end Making

/-! ## Offering and admitting stored messages -/

/-- A message that failed is noted by its name. -/
theorem within_noteMessage (message : Message) (fault : Fault) :
    Act.Within (Act.Fixing belongings) (noteMessage message fault) :=
  Act.within_bind (within_native _) fun _ => Act.within_throw fault

/-- An attempt leaves the components of a stored message in place. -/
theorem conserves_performOffer (channel name : String) :
    Act.Conserves (custody depth) (performOffer channel name) := by
  refine balances_find fun bench found hfound rest => ?_
  have hoffer : Act.Conserves (custody depth) (onChannel channel (Channel.offer found :
      NativeAct ChannelEndpoint (Message × Bool))) :=
    .fixing (within_custody_onChannel (Channel.within_custody_native _))
  have hquiet : Act.Within (Act.Fixing fun site : StationSite Bench => site.outside)
      (liftM (Channel.offer found : NativeAct ChannelEndpoint (Message × Bool))) := by
    intro site
    rw [Act.Fixing, Channel.after_lift_native]
    rfl
  -- The message stays where it is found. What the socket hands back has the same memory.
  refine .capture_bind ((hoffer rest).returning.keeping (keeps_outside_onChannel hquiet bench))
    (fun offered => ?_) fun fault => ?_
  · obtain ⟨after, done⟩ := offered
    refine .pointwise ?_
    rintro world ⟨hbench, hreturns, hbalanced⟩
    have hsame : after.uses = found.uses :=
      Channel.uses_offer (Act.returns_focus (returns_onChannel hreturns))
    have hset : Act.Triple
        (fun world => world.outside = bench ∧ (custody depth world).Balanced (0 + rest))
        (setMessage name after) (fun _ world => (custody depth world).Balanced (0 + rest))
        fun _ world => (custody depth world).Balanced (0 + rest) := by
      refine triple_arrange bench ?_ id
      rw [Bench.held_setMessage, hsame, ← Bench.held_of_message hfound]
    exact (Act.Triple.via _ hset fun _ => .pure fun _ h => h).starting ⟨hbench, hbalanced⟩
  · exact (conserves_of (within_noteMessage found fault) rest).weaken (fun _ h => h.2)
      (fun _ _ h => h) fun _ _ h => h

/-- The books of a scenario, one of whose messages is regarded as in hand. -/
theorem balanced_custody_iff {world : World} {source : String} {message : Message}
    {inHand : Multiset AllocatorId} (h : world.outside.messages.get? source = some message) :
    (custody depth world).Balanced inHand ↔
      (Transport.custody (Bench.holdingBut depth source) world).Balanced
        (message.uses + inHand) := by
  have hholding : world.outside.holding depth =
      (world.outside.holdingBut depth source).add message.uses := by
    unfold Bench.holding
    rw [Bench.held_of_message h]
    rfl
  show Custody.Balanced ⟨_, (world.outside.holding depth).add _⟩ inHand ↔ _
  rw [hholding, Holding.add_add, add_comm, ← Holding.add_add]
  exact Custody.balanced_add

/-- Admitting a stored message stores what was admitted and what is left. -/
theorem conserves_performPrepare (channel source name : String) :
    Act.Conserves (custody depth) (performPrepare channel source name) := by
  refine balances_find fun bench found hfound rest => ?_
  have hprepare : Act.Balances (Transport.custody (Bench.holdingBut depth source)) found.uses
      (onChannel channel (Channel.prepare found))
      (fun messages => messages.1.uses + messages.2.uses) found.uses :=
    balances_onChannel (Channel.balances_prepare found)
  have hquiet : Act.Within (Act.Fixing fun site : StationSite Bench => site.outside)
      (Channel.prepare found) := by
    refine (Channel.within_prepare found).mono ?_
    rintro site _ ⟨ledger, fallback, rfl⟩
    rfl
  refine (Act.Triple.capture_bind ((hprepare rest).keeping (keeps_outside_onChannel hquiet bench))
    (fun messages => ?_) fun fault => ?_).weaken ?_ (fun _ _ h => h) fun _ _ h => h
  · obtain ⟨admitted, kept⟩ := messages
    -- What is left takes its place on the bench again, and what was admitted goes to its own.
    refine Act.Triple.via
      (fun _ world => (custody depth world).Balanced (admitted.uses + rest)) ?_ fun _ => ?_
    · refine Act.Triple.modify ?_
      rintro world ⟨rfl, hbalanced⟩
      refine ⟨?_, hbalanced.sound⟩
      show Ledger.Balanced _ (admitted.uses + rest + (world.stations.total Station.uses +
        Bench.held { world.outside with messages := world.outside.messages.put source kept }))
      rw [Bench.held_setMessage, show admitted.uses + rest + (world.stations.total Station.uses +
        (kept.uses + world.outside.heldBut source)) = admitted.uses + kept.uses + rest +
          (world.stations.total Station.uses + world.outside.heldBut source) by abel]
      exact hbalanced.books
    · have hstore : Act.Balances (custody depth) admitted.uses (storeMessage name admitted)
          (fun _ => 0) 0 := balances_storeMessage name admitted
      exact Act.Triple.bind (hstore rest) fun _ => .pure fun _ h => h
  · refine (conserves_of (within_noteMessage found fault) rest).weaken ?_ (fun _ _ h => h)
      fun _ _ h => h
    rintro world ⟨rfl, hbalanced⟩
    rw [zero_add, balanced_custody_iff hfound]
    exact hbalanced
  · rintro world ⟨rfl, hbalanced⟩
    rw [zero_add, balanced_custody_iff hfound] at hbalanced
    exact ⟨rfl, hbalanced⟩

/-! ## Policies and receive handles -/

/-- To make a policy under a name owns nothing. -/
theorem within_performMakePolicy (name : String) (spec : PolicySpec) :
    Act.Within (Act.Fixing belongings) (performMakePolicy name spec) := by
  refine Act.within_bind (Act.within_ofExcept _) fun made => ?_
  refine Act.within_bind (within_addPolicy made) fun id => ?_
  refine Act.within_bind (within_arrange fun _ => ⟨rfl, rfl, rfl, rfl⟩) fun _ => ?_
  exact Act.within_pure _

theorem within_policy (id : PolicyId) : Act.Within (Act.Fixing belongings) (policy id) :=
  Act.within_of_after fun _ => rfl

theorem within_setPolicy (id : PolicyId) (policy : ReceivePolicy) :
    Act.Within (Act.Fixing belongings) (setPolicy id policy) := fun _ => rfl

/-- To change one neither. -/
theorem within_performChangePolicy (name : String) (heed : Option Bool) (count : Option Int) :
    Act.Within (Act.Fixing belongings) (performChangePolicy name heed count) := by
  refine Act.within_bind (within_find _ _) fun id => ?_
  refine Act.within_bind (within_policy id) fun before => ?_
  refine Act.within_bind (within_setPolicy id _) fun _ => ?_
  refine Act.within_bind (within_policy id) fun heeding => ?_
  refine Act.within_bind (Act.within_ofExcept _) fun bounded => ?_
  exact Act.within_bind (within_setPolicy id _) fun _ => Act.within_pure _

theorem within_setHandle (name : String) (held : HeldHandle) :
    Act.Within (Act.Fixing belongings) (setHandle name held) :=
  within_arrange fun _ => ⟨rfl, rfl, rfl, rfl⟩

theorem within_showHandle (name : String) (reply : Reply) :
    Act.Within (Act.Fixing belongings) (showHandle name reply) :=
  Act.within_bind (within_find _ _) fun _ => Act.within_pure _

/-- A receive handle predicts sizes and counts bytes, and allocates nothing by itself. -/
theorem within_onHandle (name : String) (f : ReceiveHandle → ReceiveHandle) :
    Act.Within (Act.Fixing belongings) (onHandle name f) := by
  refine Act.within_bind (within_find _ _) fun held => ?_
  exact Act.within_bind (within_setHandle name _) fun _ => within_showHandle name _

/-- So to make one moves no memory. -/
theorem within_performMakeHandle (name source : String) :
    Act.Within (Act.Fixing belongings) (performMakeHandle name source) := by
  refine Act.within_bind (within_find _ _) fun id => ?_
  refine Act.within_bind (within_policy id) fun policy => ?_
  exact Act.within_bind (within_setHandle name _) fun _ => within_showHandle name _

/-- Of the steps on a receive handle only one is about memory: it makes a buffer. -/
theorem conserves_performHandle (name : String) (step : HandleStep) :
    Act.Conserves (custody depth) (performHandle name step) := by
  -- Only an allocation moves memory: it goes from the account into a buffer of the bench.
  cases step with
  | view => exact conserves_of (within_showHandle _ _)
  | setAutoRead on =>
    refine conserves_of (Act.within_bind (within_find _ _) fun held => ?_)
    exact Act.within_bind (within_setHandle _ _) fun _ => within_showHandle _ _
  | reset =>
    refine conserves_of (Act.within_bind (within_find _ _) fun held => ?_)
    refine Act.within_bind (within_policy _) fun policy => ?_
    exact Act.within_bind (within_setHandle _ _) fun _ => within_showHandle _ _
  | allocate source target =>
    refine Act.Conserves.bind (conserves_of (within_find _ _)) fun held => ?_
    refine Act.Conserves.bind (conserves_of (within_find _ _)) fun id => ?_
    refine Act.Balances.bind (Transport.balances_ledger (Ledger.balances_allocate id _))
      fun made _ => ?_
    exact Act.Balances.bind (balances_storeBuffer target made) fun _ _ =>
      conserves_of (within_showHandle _ _)
  | attempt bytes => exact conserves_of (within_onHandle name (·.attempt bytes))
  | noteRead bytes => exact conserves_of (within_onHandle name (·.noteRead bytes))
  | count datagrams => exact conserves_of (within_onHandle name (·.count datagrams))
  | complete => exact conserves_of (within_onHandle name ReceiveHandle.complete)
  | continues more =>
    refine conserves_of (Act.within_bind (within_find _ _) fun held => ?_)
    refine Act.within_bind (Act.within_of_after fun _ => rfl) fun autoRead => ?_
    exact Act.within_bind (within_policy _) fun policy => within_showHandle _ _

/-! ## Steps on channels -/

/-- To look at a channel moves no memory. -/
theorem within_showChannel (name : String) (reply : Reply) :
    Act.Within (Act.Fixing belongings) (showChannel name reply) :=
  Act.within_of_after fun _ => rfl

/-- Settings are changed in place. -/
theorem within_custody_configure (name : String) (changes : List ConfigChange) :
    Act.Within (Act.Fixing (custody depth)) (configure name changes) := by
  induction changes with
  | nil =>
    exact Act.within_bind (within_custody_of (within_station name)) fun _ => Act.within_pure ()
  | cons change rest ih =>
    refine Act.within_bind (within_custody_of (within_station name)) fun _ => ?_
    refine Act.within_bind (within_custody_of (within_settle change)) fun amend => ?_
    refine Act.within_bind (within_custody_onChannel ?_) fun _ => ih
    exact Channel.within_custody_change fun _ => rfl

/-- An in-memory endpoint that was found is that of the channel. -/
theorem triple_memoryEndpoint (name : String) (P : World → Prop) :
    Act.Triple P (memoryEndpoint name) (fun found world =>
      world.stations.get? name = some ⟨found.1, .memory found.2⟩ ∧ P world) fun _ => P := by
  refine .pointwise fun world hworld => .of_run (Act.bind_of_ok (EStateM.run_get world)) ?_
  cases hstation : world.stations.get? name with
  | none => exact .of_error rfl hworld
  | some station =>
    obtain ⟨channel, endpoint⟩ := station
    cases endpoint with
    | memory endpoint => exact .of_ok rfl ⟨hstation, hworld⟩
    | socket socket => exact .of_error rfl hworld

/-- An in-memory endpoint is changed beside the queue of its channel. -/
theorem conserves_performArrange (name : String) (changes : List EndpointChange) :
    Act.Conserves (custody depth) (performArrange name changes) := by
  induction changes with
  | nil =>
    intro rest
    exact Act.Triple.bind (triple_memoryEndpoint name _) fun _ => .pure fun _ h => h.2
  | cons change changes ih =>
    intro rest
    refine Act.Triple.bind (triple_memoryEndpoint name _) fun found => ?_
    obtain ⟨channel, endpoint⟩ := found
    refine Act.Triple.via (fun _ world => world.stations.get? name =
        some ⟨channel, .memory endpoint⟩ ∧ (custody depth world).Balanced (0 + rest))
      (.ofExcept (fun _ _ _ h => h) fun _ _ _ h => h.2) fun after => ?_
    refine Act.Triple.via (fun _ world => (custody depth world).Balanced (0 + rest)) ?_
      fun _ => ih rest
    refine Act.Triple.modify ?_
    rintro world ⟨hstation, hbalanced⟩
    rw [custody, Transport.custody_withStations]
    · exact hbalanced
    · rw [Named.total_put, Named.total_erase Station.uses hstation]
      rfl

/-- A receive handle that is lent to a channel owns no memory. -/
theorem apart_lend (handle channel : String) :
    Channel.Apart (Elsewhere.owned (Bench.holding depth) name) (.lent (lend handle channel)) :=
  ⟨fun _ _ => rfl, fun _ => rfl⟩

/-- A step without an answer keeps the books if its operation does. -/
theorem conserves_plain {act : StationAct Bench Unit}
    (h : Act.Conserves (Site.custody (Elsewhere.owned (Bench.holding depth) name)) act) :
    Act.Conserves (custody depth) (plain name act) :=
  Act.Conserves.bind (balances_onChannel h) fun _ => .pure _

/-- **A step on a channel keeps the books** if the listener does, failed or not. -/
theorem conserves_channelReply {listener : Listener Bench}
    (hlistener : Transport.Bookkeeping (Bench.holding depth) listener) (name : String)
    (step : ChannelStep) :
    Act.Conserves (custody depth) (channelReply listener name step) := by
  have hstation : Act.Conserves (custody depth) (station name) := conserves_of (within_station name)
  have hmake : ∀ {value : Type} (act : Except Fault value),
      Act.Conserves (custody depth) (liftM act : WorldAct value) := fun act =>
    .fixing (Act.within_ofExcept act)
  cases step with
  | destroy =>
    refine Act.Conserves.bind hstation fun _ => ?_
    exact Act.Conserves.bind (Transport.conserves_remove name) fun _ => .pure _
  | observe on => exact conserves_plain (.fixing (Channel.within_custody_setRegistration _))
  | configure changes =>
    exact Act.Conserves.bind (.fixing (within_custody_configure name changes)) fun _ => .pure _
  | setAutoRead on => exact conserves_plain (.fixing (Channel.within_custody_setAutoRead on))
  | bind address =>
    refine Act.Conserves.bind hstation fun _ => Act.Conserves.bind (hmake _) fun address => ?_
    exact conserves_plain (.fixing (Channel.within_custody_bind address))
  | connect remote local? =>
    refine Act.Conserves.bind hstation fun _ => Act.Conserves.bind (hmake _) fun remote => ?_
    refine Act.Conserves.bind (hmake _) fun local? => ?_
    exact conserves_plain (.fixing (Channel.within_custody_connect remote local?))
  | disconnect => exact conserves_plain (.fixing Channel.within_custody_disconnect)
  | close => exact conserves_plain Channel.conserves_close
  | flush => exact conserves_plain Channel.conserves_flush
  | read => exact conserves_plain (.fixing Channel.within_custody_read)
  | status => exact Act.Conserves.bind (conserves_of (within_known name)) fun _ => .pure _
  | localAddress =>
    exact Act.Conserves.bind
      (.fixing (within_custody_onChannel Channel.within_custody_localAddress)) fun _ => .pure _
  | remoteAddress =>
    exact Act.Conserves.bind
      (.fixing (within_custody_onChannel Channel.within_custody_remoteAddress)) fun _ => .pure _
  | descriptor => exact Act.Conserves.bind hstation fun _ => .pure _
  -- A message is made before it is handed over, and the channel is there all the while.
  | write spec =>
    exact conserves_station (balances_makeMessage spec) (within_roster_makeMessage spec)
      fun made => triple_handedOut (Channel.balances_write made)
  | writeAndFlush spec =>
    exact conserves_station (balances_makeMessage spec) (within_roster_makeMessage spec)
      fun made => triple_handedOut (Channel.balances_writeAndFlush made)
  | offer message => exact conserves_performOffer name message
  | prepare source message => exact conserves_performPrepare name source message
  -- The listener may do what it likes to the books, as long as it keeps them.
  | readReady handle? =>
    have hreact := Transport.bookkeeping_react hlistener name
    cases handle? with
    | none =>
      refine Act.Conserves.bind hstation fun _ => ?_
      exact conserves_plain (Channel.conserves_readReady hreact)
    | some handle =>
      refine Act.Conserves.bind hstation fun _ => ?_
      refine Act.Conserves.bind (conserves_of (within_find _ _)) fun _ => ?_
      exact conserves_plain (Channel.conserves_readReadyWith (apart_lend handle name) hreact)
  | requestGroup request =>
    exact conserves_handedOut (.fixing (within_custody_onChannel
      (Channel.within_custody_requestGroup request)))
  | arrange changes =>
    exact Act.Conserves.bind (conserves_of (within_known name)) fun _ =>
      conserves_performArrange name changes

/-- Every step on a channel keeps the books, as long as the listener does. -/
theorem conserves_performChannel {listener : Listener Bench}
    (hlistener : Transport.Bookkeeping (Bench.holding depth) listener) (name : String)
    (step : ChannelStep) :
    Act.Conserves (custody depth) (performChannel listener name step) :=
  Act.Conserves.bind (conserves_channelReply hlistener name step) fun _ =>
    conserves_of (within_showChannel name _)

/-- To change what a handler will do gives back nothing that it holds now. -/
theorem within_custody_performScript (name : String) (packet complete failure : List (List Step)) :
    Act.Within (Act.Fixing (custody depth)) (performScript name packet complete failure) := by
  refine Act.within_bind (within_custody_of (within_find _ _)) fun before => ?_
  refine Act.within_bind (within_custody_arrange fun _ => rfl) fun _ => ?_
  exact within_custody_of (within_showChannel name _)

/-! ## Steps on event loops -/

/-- To look at a loop moves no memory. -/
theorem within_showLoop (name : String) (result : Option Value) :
    Act.Within (Act.Fixing belongings) (showLoop name result) := by
  refine Act.within_bind (within_find _ _) fun id => ?_
  exact Act.within_bind (Act.within_of_after fun _ => rfl) fun _ => Act.within_pure _

/-- **A step on an event loop keeps the books** if the listener does, failed or not. -/
theorem conserves_performLoop {listener : Listener Bench}
    (hlistener : Transport.Bookkeeping (Bench.holding depth) listener) (name : String)
    (step : LoopStep) :
    Act.Conserves (custody depth) (performLoop listener name step) := by
  have hshow : ∀ result, Act.Conserves (custody depth) (showLoop name result) := fun result =>
    conserves_of (within_showLoop name result)
  have harrange : ∀ {f : Bench → Bench},
      (∀ bench, (f bench).holding depth = bench.holding depth) →
      Act.Conserves (custody depth) (arrange f) := fun h => .fixing (within_custody_arrange h)
  -- A loop that goes takes registrations along and never a message; only a run reaches the
  -- listener.
  cases step with
  | make maxEvents =>
    refine Act.Conserves.bind (conserves_of within_bench) fun objects => ?_
    refine Act.Conserves.bind (conserves_of (within_native _)) fun id => ?_
    refine Act.Conserves.bind (harrange fun _ => rfl) fun _ => ?_
    cases objects.loops.get? name with
    | none => exact hshow none
    | some before =>
      exact Act.Conserves.bind (.fixing (EventLoop.within_custody_drop before)) fun _ => hshow none
  | drop =>
    refine Act.Conserves.bind (conserves_of within_bench) fun objects => ?_
    refine Act.Conserves.bind (harrange fun _ => rfl) fun _ => ?_
    cases objects.loops.get? name with
    | none => exact .pure _
    | some before =>
      exact Act.Conserves.bind (.fixing (EventLoop.within_custody_drop before)) fun _ => .pure _
  | register channel =>
    refine Act.Conserves.bind (conserves_of (within_find _ _)) fun id => ?_
    refine Act.Conserves.bind (conserves_of (within_known channel)) fun _ => ?_
    exact Act.Conserves.bind (.fixing (EventLoop.within_custody_register id channel)) fun _ =>
      hshow none
  | deregister channel =>
    refine Act.Conserves.bind (conserves_of (within_find _ _)) fun id => ?_
    refine Act.Conserves.bind (conserves_of (within_station channel)) fun _ => ?_
    exact Act.Conserves.bind (.fixing (EventLoop.within_custody_deregister id channel)) fun _ =>
      hshow none
  | run timeout =>
    refine Act.Conserves.bind (conserves_of (within_find _ _)) fun id => ?_
    exact Act.Conserves.bind (EventLoop.conserves_runOnce hlistener id timeout) fun _ => hshow _
  | inLoop => exact hshow _
  | view => exact hshow none

/-! ## Steps on the log and on sockets -/

/-- Neither does the log. -/
theorem within_performLog (step : LogStep) :
    Act.Within (Act.Fixing belongings) (performLog step) := by
  cases step with
  | setThreshold level => exact Act.within_bind (within_native _) fun _ => Act.within_pure _
  | write level tag text => exact Act.within_bind (within_native _) fun _ => Act.within_pure _
  | enabled => exact Act.within_of_after fun _ => rfl
  | setSink sink => exact Act.within_bind (within_native _) fun _ => Act.within_pure _

theorem within_setSocket (name : String) (socket : Socket) :
    Act.Within (Act.Fixing belongings) (setSocket name socket) :=
  within_arrange fun _ => ⟨rfl, rfl, rfl, rfl⟩

theorem within_storeSocket (name : String) (socket : Socket) :
    Act.Within (Act.Fixing belongings) (storeSocket name socket) := by
  refine Act.within_bind within_bench fun objects => ?_
  refine Act.within_bind (within_setSocket name socket) fun _ => ?_
  cases objects.sockets.get? name with
  | none => exact Act.within_pure ()
  | some before => exact within_native _

/-- A socket works with descriptors and bytes, and owns no component. -/
theorem within_onSocket (name : String) (act : SocketAct α) :
    Act.Within (Act.Fixing belongings) (onSocket name act) := by
  refine Act.within_bind (within_find _ _) fun socket => ?_
  refine Act.within_bind (within_native _) fun (result, after) => ?_
  exact Act.within_bind (within_setSocket name after) fun _ => Act.within_ofExcept _

/-- So it can be moved away from its name. -/
theorem within_takeSocket (name : String) :
    Act.Within (Act.Fixing belongings) (takeSocket name) := by
  refine Act.within_bind (within_find _ _) fun socket => ?_
  exact Act.within_bind (within_setSocket name _) fun _ => Act.within_pure _

theorem within_valueOf (name : String) (wrap : α → Value) (act : SocketAct α) :
    Act.Within (Act.Fixing belongings) (valueOf name wrap act) :=
  Act.within_bind (within_onSocket name act) fun _ => Act.within_pure _

theorem within_plainly (name : String) (act : SocketAct Unit) :
    Act.Within (Act.Fixing belongings) (plainly name act) :=
  Act.within_bind (within_onSocket name act) fun _ => Act.within_pure _

/-- Room for a receive is bytes of the caller. -/
theorem within_demandRoom (name : String) (size : Nat) :
    Act.Within (Act.Fixing belongings) (demandRoom name size) := by
  refine Act.within_bind (within_find _ _) fun _ => ?_
  split
  · exact Act.within_throw _
  · exact Act.within_pure ()

/-- The steps on sockets one by one. -/
theorem within_socketReply (name : String) (step : SocketStep) :
    Act.Within (Act.Fixing belongings) (socketReply name step) := by
  have hfind : ∀ name, Act.Within (Act.Fixing belongings) (find Bench.sockets name) :=
    fun name => within_find _ name
  -- Every reply is the lookup, then one step on the socket below. No step of a socket touches what
  -- a channel holds.
  cases step with
  | make options =>
    refine Act.within_bind (within_native _) fun made => ?_
    exact Act.within_bind (within_storeSocket name made) fun _ => Act.within_pure _
  | drop => exact Act.within_pure _
  | view => exact Act.within_bind (hfind name) fun _ => Act.within_pure _
  | moveNew source =>
    refine Act.within_bind (within_takeSocket source) fun moved => ?_
    exact Act.within_bind (within_storeSocket name moved) fun _ => Act.within_pure _
  | move source =>
    refine Act.within_bind (hfind source) fun _ => Act.within_bind (hfind name) fun before => ?_
    dsimp only
    split
    · refine Act.within_bind (within_native _) fun _ => ?_
      refine Act.within_bind (within_takeSocket source) fun moved => ?_
      exact Act.within_bind (within_setSocket name moved) fun _ => Act.within_pure _
    · exact Act.within_pure _
  | bind address =>
    refine Act.within_bind (hfind name) fun _ => ?_
    exact Act.within_bind (Act.within_ofExcept _) fun _ => within_plainly name _
  | connect address =>
    refine Act.within_bind (hfind name) fun _ => ?_
    exact Act.within_bind (Act.within_ofExcept _) fun _ => within_plainly name _
  | disconnect => exact within_plainly name _
  | close => exact within_plainly name _
  | localAddress => exact within_valueOf name _ _
  | remoteAddress => exact within_valueOf name _ _
  | read size length =>
    refine Act.within_bind (within_demandRoom name size) fun _ => ?_
    exact Act.within_bind (within_onSocket name _) fun _ => Act.within_pure _
  | receive size length =>
    refine Act.within_bind (within_demandRoom name size) fun _ => ?_
    exact Act.within_bind (within_onSocket name _) fun _ => Act.within_pure _
  | send bytes length recipient segmentSize =>
    refine Act.within_bind (hfind name) fun _ => ?_
    exact Act.within_bind (Act.within_ofExcept _) fun _ => within_valueOf name _ _
  | sendGather parts recipient segmentSize =>
    refine Act.within_bind (hfind name) fun _ => ?_
    exact Act.within_bind (Act.within_ofExcept _) fun _ => within_valueOf name _ _
  | set setting => exact within_plainly name _
  | get query => exact within_valueOf name _ _
  | setNumber level option value => exact within_plainly name _
  | getNumber level option => exact within_valueOf name _ _
  | setBytes level option value length => exact within_plainly name _
  | getBytes level option room => exact within_valueOf name _ _

/-- Sockets own no memory. -/
theorem within_performSocket (name : String) (step : SocketStep) :
    Act.Within (Act.Fixing belongings) (performSocket name step) := by
  have hstep : ∀ step, Act.Within (Act.Fixing belongings) (do
      let reply ← socketReply name step
      let socket ← find Bench.sockets name
      pure { reply with socket := some socket }) := by
    intro step
    refine Act.within_bind (within_socketReply name step) fun reply => ?_
    exact Act.within_bind (within_find _ _) fun _ => Act.within_pure _
  cases step with
  | drop =>
    refine Act.within_bind within_bench fun objects => ?_
    refine Act.within_bind (within_arrange fun _ => ⟨rfl, rfl, rfl, rfl⟩) fun _ => ?_
    cases objects.sockets.get? name with
    | none => exact Act.within_pure _
    | some socket => exact Act.within_bind (within_native _) fun _ => Act.within_pure _
  | _ => exact hstep _

end UdpTransport.Scenario.World
