import UdpTransport.Endpoint.Memory
import UdpTransport.Proofs.Along
import UdpTransport.Proofs.Burst.Filling
import UdpTransport.Proofs.Burst.Recording

/-!
# What becomes of the receive buffers of a burst

A burst allocates a buffer for every datagram that it tries to receive. The buffer is handed on in a
packet, or given back when there is no datagram or something fails: the receive, the size that it
reported, an address that is asked for. What was made and given back is counted in the ledger, and
the record of a burst (`Recorded`) keeps the ledger that the handler found and the one that it left
with each callback. So between two callbacks it can be seen what the burst did with memory on its
own account (`Turns`).

**The main result is `readReady_disposes`**: whatever the endpoint and the handler do, each buffer
of a burst went to the handler or back before the handler is told that the burst is over, and at
most one went back (`Disposed`).
-/

namespace UdpTransport.Channel

variable {ε ω : Type}

/-! ## What the ledger tells -/

/-- The turns of the loop of a burst, by the ledgers between which they happen and what is seen of
them. -/
inductive Turns (allocator : AllocatorId) : Ledger → List (Sighting ε ω) → Ledger → Prop where
  /-- The last turn: no buffer was made, or one was, with which the endpoint was asked once at most,
  and it was given back. -/
  | last {start finish : Ledger} {tries made : Nat} (htries : tries ≤ made) (hmade : made ≤ 1)
      (hgains : start.Gains allocator made made finish) :
      Turns allocator start (.replicate tries .asked) finish
  /-- A buffer was made, the endpoint was asked once, and nothing was given back when the handler
  was told of a packet that fills this buffer. The next turn begins with what the handler left. -/
  | handedOn {start finish : Ledger} {packet : Packet} {kind : MemoryKind} {size : Nat}
      {before after : Site ε ω} {fault? : Option Fault} {rest : List (Sighting ε ω)}
      (hgains : start.Gains allocator 1 0 before.host.ledger)
      (hfills : Fills (.ofComponents [.zeroed allocator kind size]) packet)
      (later : Turns allocator after.host.ledger rest finish) :
      Turns allocator start (.asked :: .told (.packet packet) before fault? after :: rest) finish

/-- What is seen after the handler was told that the burst is over: it is told of a failure, or of
nothing more, and the burst leaves memory alone. -/
inductive Aftermath : Ledger → List (Sighting ε ω) → Ledger → Prop where
  | nothing (ledger : Ledger) : Aftermath ledger [] ledger
  | failure {fault : Fault} {before after : Site ε ω} {fault? : Option Fault} :
      Aftermath before.host.ledger [.told (.failure fault) before fault? after] after.host.ledger

/-- The receive buffers of a burst are handed on one after the other, and when the handler is told
that the burst is over, each buffer was handed on or given back. -/
def Disposed (allocator : AllocatorId) (start : Ledger) (seen : List (Sighting ε ω))
    (finish : Ledger) : Prop :=
  ∃ loop before fault? after rest,
    seen = loop ++ .told .readComplete before fault? after :: rest ∧
      Turns allocator start loop before.host.ledger ∧ Aftermath after.host.ledger rest finish

/-! ## Filling a buffer -/

section Filling

variable [Endpoint ε] (source : HandleSource ω)

omit [Endpoint ε] in
theorem within_ledger_handle (f : ReceiveHandle → ReceiveHandle) :
    Act.Within (Act.Fixing (·.host.ledger)) (changeHandle source f : SiteAct ε ω Unit) := by
  refine (within_changeHandle source f).mono ?_
  rintro site _ ⟨_, _, _, rfl⟩
  rfl

omit [Endpoint ε] in
theorem within_ledger_native {α : Type} (act : NativeAct ε α) :
    Act.Within (Act.Fixing (·.host.ledger)) (liftM act : SiteAct ε ω α) := by
  intro site
  rw [Act.Fixing, after_lift_native]
  rfl

/-- To fill a buffer takes no other memory. -/
theorem filling_ledger :
    Filling (Act.Fixing (·.host.ledger) : Site ε ω → Site ε ω → Prop) source where
  localAddress := within_localAddress (fun _ _ _ => rfl) (within_ledger_native _)
  remoteAddress := within_remoteAddress (fun _ _ _ => rfl) (within_ledger_native _)
  readInto _ := within_ledger_native _
  receiveInto _ := within_ledger_native _
  handle := within_ledger_handle source

theorem adds_nextConnected (data : Buffer) (site : Site ε ω) :
    Adds (askings data) (nextConnected source data) (nextConnected source data) site := by
  have hread := ((enters_readInto data).adds (ω := ω) site).capture
  refine Adds.followed (hread.followed fun result _ => ?_) fun (filled, amount) seen => ?_
  · cases result with
    | ok a => exact Act.mirrors_pure a
    | error fault => exact Act.mirrors_throw _
  · refine Act.mirrors_bind (mirrored_changeHandle source _) fun _ => ?_
    refine Act.mirrors_ite (Act.mirrors_pure none) ?_
    refine Act.mirrors_bind (mirrored_remoteAddress (Recorded.mirrors_through _ seen))
      fun sender => ?_
    exact Act.mirrors_bind (mirrored_localAddress (isOpen_mk seen)
      (Recorded.mirrors_through _ seen)) fun recipient => Act.mirrors_pure _

theorem adds_nextUnconnected (data : Buffer) (site : Site ε ω) :
    Adds (askings data) (nextUnconnected source data) (nextUnconnected source data) site := by
  refine ((enters_receiveInto data).adds (ω := ω) site).followed fun (filled, received?) seen => ?_
  cases received? with
  | none =>
    exact Act.mirrors_bind (mirrored_changeHandle source _) fun _ => Act.mirrors_pure none
  | some received =>
    dsimp only
    -- The endpoint may be asked for its address too, but only receives are recorded.
    cases received.local? with
    | some address =>
      exact Act.mirrors_bind (Act.mirrors_pure _) (mirrored_takeIn source filled received)
    | none =>
      exact Act.mirrors_bind (mirrored_localAddress (isOpen_mk seen)
        (Recorded.mirrors_through _ seen)) (mirrored_takeIn source filled received)

end Filling

/-! ## One datagram -/

/-- What is done with a buffer that was tried, by what that came to. -/
def settled (data : Buffer) : Except Fault (Option Packet) → SiteAct ε ω (Option Packet)
  | .error fault => do
    Ledger.discard data
    throw fault
  | .ok none => do
    Ledger.discard data
    pure none
  | .ok (some packet) => pure (some packet)

theorem mirrored_settled {ε' : Type} {φ : ε → ε'} (data : Buffer)
    (result : Except Fault (Option Packet)) :
    Mirrored φ (settled data result : SiteAct ε ω (Option Packet)) (settled data result) := by
  match result with
  | .error fault => exact Act.mirrors_bind (mirrored_ledger _) fun _ => Act.mirrors_throw fault
  | .ok none => exact Act.mirrors_bind (mirrored_ledger _) fun _ => Act.mirrors_pure none
  | .ok (some packet) => exact Act.mirrors_pure _

/-- What becomes of memory while a datagram is fetched, by what that comes to. -/
inductive Fetched (allocator : AllocatorId) (start : Ledger) :
    Except Fault (Option Packet) → List (Sighting ε ω) → Ledger → Prop where
  /-- No buffer is left. -/
  | spent {result : Except Fault (Option Packet)} (hnone : ∀ packet, result ≠ .ok (some packet))
      {tries made : Nat} (htries : tries ≤ made) (hmade : made ≤ 1) {finish : Ledger}
      (hgains : start.Gains allocator made made finish) :
      Fetched allocator start result (.replicate tries .asked) finish
  /-- The buffer is in a packet that is about to be handed on. -/
  | packed {packet : Packet} {kind : MemoryKind} {size : Nat} {finish : Ledger}
      (hgains : start.Gains allocator 1 0 finish)
      (hfills : Fills (.ofComponents [.zeroed allocator kind size]) packet) :
      Fetched allocator start (.ok (some packet)) [.asked] finish

/-- A buffer that was tried is in a packet, or it is given back. -/
theorem fetched_settled {allocator : AllocatorId} {kind : MemoryKind} {size : Nat} {start : Ledger}
    {site : Site ε ω} (hgains : start.Gains allocator 1 0 site.host.ledger)
    (hthere : (site.host.ledger.account? allocator).isSome)
    {result : Except Fault (Option Packet)} :
    let data := Buffer.ofComponents [.zeroed allocator kind size]
    (∀ packet, result = .ok (some packet) → Fills data packet) →
      Fetched allocator start ((settled data result).result site)
        (askings data : List (Sighting ε ω)) ((settled data result).after site).host.ledger := by
  intro data hfills
  obtain ⟨tries, htries, hasked⟩ :
      ∃ tries ≤ 1, (askings data : List (Sighting ε ω)) = .replicate tries .asked := by
    unfold askings
    split
    · exact ⟨1, le_rfl, rfl⟩
    · exact ⟨0, Nat.zero_le 1, rfl⟩
  have hdiscard := run_discard data site
  have hback : start.Gains allocator 1 1 (site.withLedger
      (Ledger.release data.components site.host.ledger)).host.ledger := hgains.release hthere
  -- A packet keeps the buffer. The other two outcomes give it back before they end.
  match result, hfills with
  | .error fault, _ =>
    have hrun : (settled data (.error fault)).run site = .error fault _ :=
      (Act.bind_of_ok hdiscard).trans rfl
    rw [Act.result_of_error hrun, Act.after_of_error hrun, hasked]
    exact .spent (fun packet h => by cases h) htries le_rfl hback
  | .ok none, _ =>
    have hrun : (settled data (.ok none)).run site = .ok none _ :=
      (Act.bind_of_ok hdiscard).trans rfl
    rw [Act.result_of_ok hrun, Act.after_of_ok hrun, hasked]
    exact .spent (fun packet h => by cases h) htries le_rfl hback
  | .ok (some packet), hfills =>
    have hfilled := hfills packet rfl
    have hone : (askings data : List (Sighting ε ω)) = [.asked] := if_pos hfilled.room
    rw [hone]
    exact .packed hgains hfilled

section Burst

variable [Endpoint ε] (handler : Handler ε ω) (source : HandleSource ω) (allocator : AllocatorId)

theorem fetched_fetch (connected : Bool) (site : Site ε ω) :
    ∃ more, Adds more (fetch source allocator connected) (fetch source allocator connected) site ∧
      Fetched allocator site.host.ledger ((fetch source allocator connected).result site) more
        ((fetch source allocator connected).after site).host.ledger := by
  obtain ⟨handle, hhandle⟩ := run_handleNow source site
  unfold fetch
  rw [Act.result_congr (Act.bind_of_ok hhandle), Act.after_bind_of_ok hhandle]
  -- Either memory is granted, and settling the buffer decides what becomes of it, or it is refused
  -- and the books stay as they were.
  rcases site.host.ledger.allocate_cases allocator handle.guess.toNat with
    ⟨kind, ledger, hmade, hgains, hthere⟩ | ⟨ledger, hrefused, hgains⟩
  · let data := Buffer.ofComponents [.zeroed allocator kind handle.guess.toNat]
    have hallocate : (liftM (Ledger.allocate allocator handle.guess.toNat) :
        SiteAct ε ω Buffer).run site = .ok data (site.withLedger ledger) := lift_ledger_ok hmade
    obtain ⟨_, ready, hready⟩ := succeeds_changeHandle source
      (·.attempt (min data.room maxInt32)) (site.withLedger ledger)
    have hkept : ready.host.ledger = ledger := by
      have hfixed := within_ledger_handle source (·.attempt (min data.room maxInt32))
        (site.withLedger ledger)
      rwa [Act.after_of_ok hready] at hfixed
    rw [Act.result_congr (Act.bind_of_ok hallocate), Act.after_bind_of_ok hallocate,
      Act.result_congr (Act.bind_of_ok hready), Act.after_bind_of_ok hready]
    let next : SiteAct ε ω (Option Packet) :=
      if connected then nextConnected source data else nextUnconnected source data
    let next' : SiteAct (Recorded ε ω) ω (Option Packet) :=
      if connected then nextConnected source data else nextUnconnected source data
    have hadds : Adds (askings data) next next' ready := by
      cases connected with
      | true => exact adds_nextConnected source data ready
      | false => exact adds_nextUnconnected source data ready
    have hfixed : (next.after ready).host.ledger = ledger := by
      rw [← hkept]
      cases connected with
      | true => exact within_nextConnected (filling_ledger source) data ready
      | false => exact within_nextUnconnected (filling_ledger source) data ready
    have hfills : ∀ packet, next.result ready = .ok (some packet) → Fills data packet := by
      intro packet hpacket
      have hrun := Act.run_of_result hpacket
      cases connected with
      | true => exact fills_nextConnected ⟨_, _, hrun⟩
      | false => exact fills_nextUnconnected ⟨_, _, hrun⟩
    have hcapture := Act.run_capture next ready
    refine ⟨askings data, ?_, ?_⟩
    · refine .after_mirrored (fun _ => mirrored_handleNow source) hhandle ?_
      refine .after_mirrored (fun _ => mirrored_ledger _) hallocate ?_
      refine .after_mirrored (fun _ => mirrored_changeHandle source _) hready ?_
      exact hadds.capture.followed fun result _ => mirrored_settled data result
    · rw [Act.result_congr (Act.bind_of_ok hcapture), Act.after_bind_of_ok hcapture]
      exact fetched_settled (hfixed ▸ hgains) (hfixed ▸ hthere) hfills
  · have hallocate : (liftM (Ledger.allocate allocator handle.guess.toNat) :
        SiteAct ε ω Buffer).run site = .error .outOfMemory (site.withLedger ledger) :=
      lift_ledger_error hrefused
    refine ⟨[], ?_, ?_⟩
    · exact .after_mirrored (fun _ => mirrored_handleNow source) hhandle
        ((Adds.of_mirrored fun _ => mirrored_ledger _).bind_error hallocate)
    · rw [Act.result_of_error (Act.bind_of_error hallocate),
        Act.after_of_error (Act.bind_of_error hallocate)]
      exact @Fetched.spent ε ω _ _ _ (fun packet h => by cases h) 0 0 le_rfl
        (Nat.zero_le 1) _ hgains

/-! ## The loop -/

/-- The handler is told of a packet before anything else happens to memory, and nothing happens to
it afterwards. -/
theorem adds_handOn (packet : Packet) (site : Site ε ω) :
    ∃ before fault? after, before.host.ledger = site.host.ledger ∧
      Adds [.told (.packet packet) before fault? after] (handOn handler source packet)
        (handOn (recording handler) source packet) site ∧
      ((handOn handler source packet).after site).host.ledger = after.host.ledger := by
  obtain ⟨_, counted, hcount⟩ := succeeds_changeHandle source (·.count 1) site
  have hkept : counted.host.ledger = site.host.ledger := by
    have hfixed := within_ledger_handle source (·.count 1) site
    rwa [Act.after_of_ok hcount] at hfixed
  let ready := counted.withChannel
    { counted.channel with readPending := false, burstPackets := counted.channel.burstPackets + 1 }
  refine ⟨telling (.packet packet) ready, faultOf? ((tell handler (.packet packet)).result ready),
    (tell handler (.packet packet)).after ready, hkept, ?_, ?_⟩
  · refine .after_mirrored (fun _ => mirrored_changeHandle source _) hcount ?_
    refine .after_mirrored (fun _ => mirrored_change _) (run_change ..) ?_
    exact (adds_tell handler (.packet packet) ready).followed fun _ seen =>
      mirrored_goesOn source (isOpen_mk seen)
  · unfold handOn
    rw [Act.after_bind_of_ok hcount, Act.after_bind_of_ok (run_change ..)]
    -- Whether the burst goes on is decided without memory, so the ledger is as the handler left it.
    cases htell : (tell handler (.packet packet)).run ready with
    | ok _ told =>
      obtain ⟨on, hon, -⟩ := run_goesOn source told
      rw [Act.after_bind_of_ok htell, Act.after_of_ok hon, Act.after_of_ok htell]
    | error fault told =>
      rw [Act.after_of_error (Act.bind_of_error htell), Act.after_of_error htell]

/-- One turn of the loop: a packet was handed on, and other turns may come after it, or this was the
last turn. -/
theorem turns_one (connected : Bool) (site : Site ε ω) :
    ∃ more, Adds more (readOne handler source allocator connected)
        (readOne (recording handler) source allocator connected) site ∧
      ((∀ {rest finish}, Turns allocator
            ((readOne handler source allocator connected).after site).host.ledger rest finish →
          Turns allocator site.host.ledger (more ++ rest) finish) ∨
        (readOne handler source allocator connected).result site ≠ .ok true ∧
          Turns allocator site.host.ledger more
            ((readOne handler source allocator connected).after site).host.ledger) := by
  obtain ⟨first, hadds, hfetched⟩ := fetched_fetch source allocator connected site
  unfold readOne
  -- Only a fetch with a packet leads on to another turn, so only there is the later run asked for.
  cases hrun : (fetch source allocator connected).run site with
  | error fault middle =>
    rw [Act.result_of_error hrun, Act.after_of_error hrun] at hfetched
    rw [Act.result_of_error (Act.bind_of_error hrun), Act.after_of_error (Act.bind_of_error hrun)]
    cases hfetched with
    | spent _ htries hmade hgains =>
      refine ⟨_, hadds.bind_error hrun, .inr ⟨fun h => ?_, .last htries hmade hgains⟩⟩
      cases h
  | ok packet? middle =>
    rw [Act.result_of_ok hrun, Act.after_of_ok hrun] at hfetched
    rw [Act.result_congr (Act.bind_of_ok hrun), Act.after_bind_of_ok hrun]
    cases packet? with
    | none =>
      cases hfetched with
      | spent _ htries hmade hgains =>
        refine ⟨_, hadds.before_mirrored hrun fun _ => Act.mirrors_pure false,
          .inr ⟨fun h => ?_, .last htries hmade hgains⟩⟩
        cases h
    | some packet =>
      obtain ⟨before, fault?, after, hbefore, hhanded, hafter⟩ :=
        adds_handOn handler source packet middle
      refine ⟨_, hadds.bind_ok hrun hhanded, .inl fun hlater => ?_⟩
      cases hfetched with
      | spent hnone _ _ _ => exact absurd rfl (hnone packet)
      | packed hgains hfills =>
        exact .handedOn (hbefore ▸ hgains) hfills (hafter ▸ hlater)

/-- **The loop over the datagrams**, by induction on the number of datagrams that it may read. -/
theorem turns_all (connected : Bool) (bound : Nat) (site : Site ε ω) :
    ∃ loop, Adds loop (readAll handler source allocator connected bound)
        (readAll (recording handler) source allocator connected bound) site ∧
      Turns allocator site.host.ledger loop
        ((readAll handler source allocator connected bound).after site).host.ledger := by
  have hnothing : ∀ ledger, Turns allocator ledger ([] : List (Sighting ε ω)) ledger :=
    fun ledger => @Turns.last ε ω _ _ _ 0 0 le_rfl (Nat.zero_le 1) (.refl ledger allocator)
  -- The ledger runs through the turns from left to right, hence the induction is over every site.
  induction bound generalizing site with
  | zero => exact ⟨[], .of_mirrored fun _ => Act.mirrors_pure (), hnothing _⟩
  | succ bound ih =>
    obtain ⟨more, hadds, hone⟩ := turns_one handler source allocator connected site
    have hover : Turns allocator site.host.ledger more
        ((readOne handler source allocator connected).after site).host.ledger := by
      rcases hone with hmore | ⟨-, hlast⟩
      · have hall := hmore (hnothing _)
        rwa [List.append_nil] at hall
      · exact hlast
    unfold readAll
    cases hrun : (readOne handler source allocator connected).run site with
    | error fault middle =>
      rw [Act.after_of_error (Act.bind_of_error hrun)]
      rw [Act.after_of_error hrun] at hover
      exact ⟨more, hadds.bind_error hrun, hover⟩
    | ok on middle =>
      rw [Act.after_bind_of_ok hrun]
      rw [Act.result_of_ok hrun, Act.after_of_ok hrun] at hone
      -- A turn that asks for another one cannot have been the last of its own.
      cases on with
      | true =>
        obtain ⟨later, hlater, hturns⟩ := ih middle
        refine ⟨more ++ later, hadds.bind_ok hrun hlater, ?_⟩
        rcases hone with hmore | ⟨hnot, -⟩
        · exact hmore hturns
        · exact absurd rfl hnot
      | false =>
        rw [Act.after_of_ok hrun] at hover
        exact ⟨more, hadds.before_mirrored hrun fun _ => Act.mirrors_pure (), hover⟩

/-! ## The burst -/

omit [Endpoint ε] in
theorem within_ledger_setReadInterest (wanted : Bool) :
    Act.Within (Act.Fixing (·.host.ledger)) (setReadInterest wanted : SiteAct ε ω Unit) :=
  within_setReadInterest_of fun registration name =>
    within_ledger_native (liftM (registration.setReadInterest name wanted))

theorem within_ledger_read :
    Act.Within (Act.Fixing (·.host.ledger)) (read : SiteAct ε ω Unit) :=
  within_read_of (Act.within_modify fun _ => rfl) (within_ledger_setReadInterest true)

/-- The handler is told that the burst is over before anything else happens to memory. -/
theorem adds_reporting (result : Except Fault Unit) (site : Site ε ω) :
    ∃ before fault? after rest, before.host.ledger = site.host.ledger ∧
      Adds (.told .readComplete before fault? after :: rest) (reporting handler source result)
        (reporting (recording handler) source result) site ∧
      Aftermath after.host.ledger rest
        ((reporting handler source result).after site).host.ledger := by
  obtain ⟨_, completed, hcomplete⟩ := succeeds_changeHandle source ReceiveHandle.complete site
  have hkept : completed.host.ledger = site.host.ledger := by
    have hfixed := within_ledger_handle source ReceiveHandle.complete site
    rwa [Act.after_of_ok hcomplete] at hfixed
  have htold := adds_tell handler .readComplete completed
  unfold reporting
  rw [Act.after_bind_of_ok hcomplete]
  -- A handler that throws here ends the report, whatever the burst came to.
  cases htell : (tell handler .readComplete).run completed with
  | error other told =>
    rw [Act.result_of_error htell, Act.after_of_error htell] at htold
    refine ⟨telling .readComplete completed, _, told, [], hkept,
      .after_mirrored (fun _ => mirrored_changeHandle source _) hcomplete
        (htold.bind_error htell), ?_⟩
    rw [Act.after_of_error (Act.bind_of_error htell)]
    exact .nothing _
  | ok _ told =>
    rw [Act.result_of_ok htell, Act.after_of_ok htell] at htold
    rw [Act.after_bind_of_ok htell]
    cases result with
    | ok _ =>
      refine ⟨telling .readComplete completed, _, told, [], hkept,
        .after_mirrored (fun _ => mirrored_changeHandle source _) hcomplete
          (htold.before_mirrored htell fun seen => ?_), ?_⟩
      · refine Act.mirrors_bind mirrored_current fun channel => ?_
        exact Act.mirrors_ite (mirrored_read (isOpen_mk seen)) (Act.mirrors_pure ())
      · have hread : Act.Within (Act.Fixing (·.host.ledger))
            (do if (← current).config.autoRead then read : SiteAct ε ω Unit) := by
          refine Act.within_bind (Act.within_of_after fun _ => rfl) fun channel => ?_
          split
          · exact within_ledger_read
          · exact Act.within_pure ()
        have hleft : ((do if (← current).config.autoRead then read :
            SiteAct ε ω Unit).after told).host.ledger = told.host.ledger := hread told
        exact hleft.symm ▸ .nothing _
    | error fault =>
      exact ⟨telling .readComplete completed, _, told, _, hkept,
        .after_mirrored (fun _ => mirrored_changeHandle source _) hcomplete
          (htold.bind_ok htell (adds_tell handler (.failure fault) told)),
        @Aftermath.failure ε ω fault (telling (.failure fault) told) _ _⟩

theorem disposed_burst (site : Site ε ω) :
    ∃ seen, Adds seen (burst handler source allocator) (burst (recording handler) source allocator)
        site ∧
      Disposed allocator site.host.ledger seen
        ((burst handler source allocator).after site).host.ledger := by
  obtain ⟨handle, hhandle⟩ := run_handleNow source site
  obtain ⟨loop, hloop, hturns⟩ := turns_all handler source allocator site.channel.connected
    (handle.limit.toNat + burstBound) site
  unfold burst
  rw [Act.after_bind_of_ok (run_current site), Act.after_bind_of_ok hhandle]
  -- The report follows both endings of the loop. After a failure a line is logged first.
  cases hrun : (readAll handler source allocator site.channel.connected
      (handle.limit.toNat + burstBound)).run site with
  | ok _ middle =>
    have hcapture := Act.run_capture_ok hrun
    rw [Act.after_of_ok hrun] at hturns
    obtain ⟨before, fault?, after, rest, hbefore, hadds, hrest⟩ :=
      adds_reporting handler source (.ok ()) middle
    refine ⟨loop ++ .told .readComplete before fault? after :: rest, ?_,
      loop, before, fault?, after, rest, rfl, hbefore ▸ hturns, ?_⟩
    · refine .after_mirrored (fun _ => mirrored_current) (run_current site) ?_
      refine .after_mirrored (fun _ => mirrored_handleNow source) hhandle ?_
      exact hloop.capture.bind_ok hcapture hadds
    · rw [Act.after_bind_of_ok hcapture]
      exact hrest
  | error fault middle =>
    have hcapture := Act.run_capture_error hrun
    rw [Act.after_of_error hrun] at hturns
    obtain ⟨native, hlog⟩ := run_writeLog .debug logTag
      s!"read burst ended by an exception after {middle.channel.burstPackets} packet(s)" middle
    obtain ⟨before, fault?, after, rest, hbefore, hadds, hrest⟩ :=
      adds_reporting handler source (.error fault) (middle.withNative (middle.endpoint, native))
    refine ⟨loop ++ .told .readComplete before fault? after :: rest, ?_,
      loop, before, fault?, after, rest, rfl, hbefore ▸ hturns, ?_⟩
    · refine .after_mirrored (fun _ => mirrored_current) (run_current site) ?_
      refine .after_mirrored (fun _ => mirrored_handleNow source) hhandle ?_
      refine hloop.capture.bind_ok hcapture ?_
      refine .after_mirrored (fun _ => mirrored_current) (run_current middle) ?_
      exact .after_mirrored (fun _ => mirrored_plain _) hlog hadds
    · rw [Act.after_bind_of_ok hcapture]
      dsimp only
      rw [Act.after_bind_of_ok (run_current middle), Act.after_bind_of_ok hlog]
      exact hrest

omit [Endpoint ε] in
/-- To settle takes no memory. -/
theorem within_ledger_settleInterest :
    Act.Within (Act.Fixing (·.host.ledger)) (settleInterest : SiteAct ε ω Unit) :=
  within_settling (fun level tag text => within_ledger_native
    (liftM (Native.writeLog level tag text))) (within_ledger_setReadInterest false)

theorem disposed_readReadyWith {site : Site ε ω} (hready : ReadyToRead site) :
    ∃ seen, Adds seen (readReadyWith handler source) (readReadyWith (recording handler) source)
        site ∧
      Disposed site.channel.config.allocator site.host.ledger seen
        ((readReadyWith handler source).after site).host.ledger := by
  obtain ⟨_, begun, hbegin⟩ := succeeds_beginBurst source site
  have hkept : begun.host.ledger = site.host.ledger := by
    obtain ⟨_, _, _, hsite⟩ := within_beginBurst source site
    rw [Act.after_of_ok hbegin] at hsite
    rw [hsite]
    rfl
  obtain ⟨seen, hadds, hdisposed⟩ :=
    disposed_burst handler source site.channel.config.allocator begun
  refine ⟨seen, ?_, ?_⟩
  · unfold readReadyWith
    refine .after_mirrored (fun seen => mirrored_holdsBack (isOpen_mk seen))
      (run_holdsBack hready) ?_
    refine .after_mirrored (fun _ => mirrored_current) (run_current site) ?_
    refine .after_mirrored (fun _ => mirrored_beginBurst source) hbegin ?_
    refine hadds.capture.followed fun result _ => ?_
    exact Act.mirrors_bind mirrored_settleInterest fun _ => Act.mirrors_ofExcept result
  · have hsettled : (settleInterest.after
        ((burst handler source site.channel.config.allocator).after begun)).host.ledger = _ :=
      within_ledger_settleInterest _
    rw [after_readReadyWith handler hready hbegin, hsettled, ← hkept]
    exact hdisposed

end Burst

/-- **Every receive buffer of a burst is handed on or given back**, exactly once and before the
handler is told that the burst is over, whatever fails and whatever the handler does; at most one is
given back, and each datagram is received into a buffer of its own. -/
theorem readReady_disposes [Endpoint ε] (handler : Handler ε ω) {site : Site ε ω}
    (hready : ReadyToRead site) :
    (∃ seen, Seen (readReady (recording handler)) (readReady handler) site seen ∧
      Disposed site.channel.config.allocator site.host.ledger seen
        ((readReady handler).after site).host.ledger) ∧
    ∀ source, ∃ seen,
      Seen (readReadyWith (recording handler) source) (readReadyWith handler source) site seen ∧
      Disposed site.channel.config.allocator site.host.ledger seen
        ((readReadyWith handler source).after site).host.ledger := by
  constructor
  · let made := site.withChannel { site.channel with handle := some (ownHandle site) }
    have hprepare : (prepareHandle : SiteAct ε ω Unit).run site = .ok () made :=
      run_prepareHandle site
    have hmade : ReadyToRead made := hready
    obtain ⟨seen, hadds, hdisposed⟩ := disposed_readReadyWith handler .own hmade
    have hall : Adds seen (readReady handler) (readReady (recording handler)) site :=
      .after_mirrored (fun _ => mirrored_prepareHandle) hprepare hadds
    refine ⟨seen, hall.seen, ?_⟩
    unfold readReady
    rw [Act.after_bind_of_ok hprepare]
    exact hdisposed
  · intro source
    obtain ⟨seen, hadds, hdisposed⟩ := disposed_readReadyWith handler source hready
    exact ⟨seen, hadds.seen, hdisposed⟩

/-- A connected burst that delivers one datagram and then learns that the peer refused another. -/
theorem readReady_disposes_refused :
    let site : Site MemoryEndpoint Unit :=
      { channel :=
          { name := "a", config := { allocator := 0, policy := 0 }, connected := true }
        endpoint :=
          { channel := "a"
            inbound := [.datagram [1] .unspecified none none,
              .failed (.native "recv" ErrorCode.refused)] }
        host := { ledger := ⟨[{ kind := .heap }]⟩ }
        outside := () }
    let handler : Handler MemoryEndpoint Unit := fun _ => pure ()
    ReadyToRead site ∧
      ∃ seen, Seen (readReady (recording handler)) (readReady handler) site seen ∧
        Disposed 0 ⟨[{ kind := .heap }]⟩ seen ((readReady handler).after site).host.ledger := by
  intro site handler
  have hready : ReadyToRead site := ⟨rfl, rfl⟩
  exact ⟨hready, (readReady_disposes handler hready).1⟩

end UdpTransport.Channel
