import UdpTransport.Proofs.Burst.Order

/-!
# Where senders come from

The handler of a channel that is not connected is told the sender that came with each datagram. On a
connected channel no sender comes with a datagram, and the handler is told the peer instead: the one
that the channel remembers or, failing that, the one that the endpoint reports. Whether a burst
reads as a connected one is settled when it begins, the peer is looked up for every packet, and the
handler may have dissolved the association in between; a packet after that has no sender
(`Introduced`).

The packets of a burst are those of its rounds (`Rounds`). **The main result is
`readReady_introduces`**: each packet that a handler is told of comes from a round, and its sender
is known as the round says.
-/

namespace UdpTransport.Channel

variable {ε ω : Type} [Endpoint ε]

/-- How the sender of a packet came to be known, seen from the site in which its datagram was asked
for. -/
inductive Introduced (asked : Site ε ω) : (connected : Bool) → Option Address → Prop where
  /-- The endpoint named the sender along with the datagram. -/
  | named {access : Access} {room : Nat} {received : Received} {part : ε × Native}
      (hreceive : (Endpoint.receive access room : NativeAct ε (Option Received)).run
        (asked.endpoint, asked.host.native) = .ok (some received) part) :
      Introduced asked false (some received.sender)
  /-- The channel remembered its peer. -/
  | remembered {access : Access} {room : Nat} {incoming : Incoming} {part : ε × Native}
      {peer : Address}
      (hread : (Endpoint.read access room : NativeAct ε Incoming).run
        (asked.endpoint, asked.host.native) = .ok incoming part)
      (hpeer : asked.channel.remoteCache = some peer) :
      Introduced asked true (some peer)
  /-- The channel is connected and asked its endpoint who the peer is. -/
  | reported {access : Access} {room : Nat} {incoming : Incoming} {part part' : ε × Native}
      {peer? : Option Address}
      (hread : (Endpoint.read access room : NativeAct ε Incoming).run
        (asked.endpoint, asked.host.native) = .ok incoming part)
      (hforgotten : asked.channel.remoteCache = none)
      (hconnected : asked.channel.connected = true)
      (hreport : (Endpoint.remoteAddress : NativeAct ε (Option Address)).run part =
        .ok peer? part') :
      Introduced asked true peer?
  /-- The association with the peer was dissolved since the burst began. -/
  | parted {access : Access} {room : Nat} {incoming : Incoming} {part : ε × Native}
      (hread : (Endpoint.read access room : NativeAct ε Incoming).run
        (asked.endpoint, asked.host.native) = .ok incoming part)
      (hforgotten : asked.channel.remoteCache = none)
      (hparted : asked.channel.connected = false) :
      Introduced asked true none

/-! ## One datagram -/

/-- What counts for the sender of a packet: what is below the channel, whether the channel is
connected, and the peer that it remembers. -/
def peerSight (site : Site ε ω) : (ε × Native) × Bool × Option Address :=
  ((site.endpoint, site.host.native), site.channel.connected, site.channel.remoteCache)

section Fetching

variable {source : HandleSource ω} {data : Buffer} {asked site site' : Site ε ω} {packet : Packet}

omit [Endpoint ε] in
theorem peerSight_changeHandle {f : ReceiveHandle → ReceiveHandle}
    (hrun : (changeHandle source f : SiteAct ε ω Unit).run site = .ok () site') :
    peerSight site' = peerSight site := by
  obtain ⟨_, _, _, hsite⟩ := within_changeHandle source f site
  rw [← Act.after_of_ok hrun, hsite]
  rfl

/-- Bytes of the peer were read by the endpoint. -/
theorem read_of_readInto {s s' : ε × Native} {data' : Buffer} {amount : Int}
    (hrun : (readInto data : NativeAct ε (Buffer × Int)).run s = .ok (data', amount) s')
    (hamount : 0 < amount) :
    ∃ access room incoming,
      (Endpoint.read access room : NativeAct ε Incoming).run s = .ok incoming s' := by
  unfold readInto at hrun
  cases hroom : firstWritable? data with
  | none =>
    rw [hroom] at hrun
    cases hrun
    exact absurd hamount (by decide)
  | some c =>
    rw [hroom] at hrun
    obtain ⟨incoming, middle, hread, hrest⟩ := Act.bind_ok_iff.mp hrun
    have hsame : middle = s' := by
      split at hrest
      · cases hrest
        rfl
      · split at hrest
        · cases hrest
          rfl
        · cases hrest
    exact ⟨_, _, incoming, hsame ▸ hread⟩

/-- What a sender sent was received by the endpoint. -/
theorem receive_of_receiveInto {s s' : ε × Native} {data' : Buffer} {received : Received}
    (hrun : (receiveInto data : NativeAct ε (Buffer × Option Received)).run s =
      .ok (data', some received) s') :
    ∃ access room,
      (Endpoint.receive access room : NativeAct ε (Option Received)).run s =
        .ok (some received) s' := by
  unfold receiveInto at hrun
  cases hroom : firstWritable? data with
  | none =>
    rw [hroom] at hrun
    cases hrun
  | some c =>
    rw [hroom] at hrun
    obtain ⟨received?, middle, hreceive, hrest⟩ := Act.bind_ok_iff.mp hrun
    cases received? with
    | none => cases hrest
    | some _ =>
      cases hrest
      exact ⟨_, _, hreceive⟩

omit [Endpoint ε] in
theorem run_of_connectedRead {σ α : Type} {act : Act σ α} {s s' : σ} {a : α}
    (hrun : (connectedRead act).run s = .ok a s') : act.run s = .ok a s' := by
  obtain ⟨result, captured, hcapture, hrest⟩ := Act.bind_ok_iff.mp hrun
  rw [Act.run_capture] at hcapture
  cases hcapture
  cases hresult : act.result s with
  | ok b =>
    rw [hresult] at hrest
    cases hrest
    exact Act.run_of_result hresult
  | error fault =>
    rw [hresult] at hrest
    cases hrest

/-- The peer that a channel tells after a datagram of it was read. -/
theorem introduced_remoteAddress {access : Access} {room : Nat} {incoming : Incoming}
    {sender : Option Address}
    (hread : (Endpoint.read access room : NativeAct ε Incoming).run
      (asked.endpoint, asked.host.native) = .ok incoming (site.endpoint, site.host.native))
    (hconnected : site.channel.connected = asked.channel.connected)
    (hcache : site.channel.remoteCache = asked.channel.remoteCache)
    (hrun : (remoteAddress : SiteAct ε ω (Option Address)).run site = .ok sender site') :
    Introduced asked true sender := by
  unfold remoteAddress at hrun
  rw [Act.bind_of_ok (run_current site)] at hrun
  cases hpeer : asked.channel.remoteCache with
  | some peer =>
    rw [hcache, hpeer] at hrun
    cases hrun
    exact .remembered hread hpeer
  | none =>
    rw [hcache, hpeer, hconnected] at hrun
    cases hasked : asked.channel.connected with
    | false =>
      rw [hasked] at hrun
      cases hrun
      exact .parted hread hpeer hasked
    | true =>
      rw [hasked] at hrun
      obtain ⟨peer?, _, hreport, hrest⟩ := Act.bind_ok_iff.mp hrun
      obtain ⟨part, hreport', rfl⟩ := lift_native_inv hreport
      cases hrest
      exact .reported hread hpeer hasked hreport'

theorem introduced_nextConnected (hsight : peerSight site = peerSight asked)
    (hrun : (nextConnected source data : SiteAct ε ω (Option Packet)).run site =
      .ok (some packet) site') : Introduced asked true packet.sender := by
  obtain ⟨⟨data', amount⟩, _, hlifted, hrun⟩ := Act.bind_ok_iff.mp hrun
  obtain ⟨part, hinto, rfl⟩ := lift_native_inv (run_of_connectedRead hlifted)
  obtain ⟨_, noted, hnote, hrun⟩ := Act.bind_ok_iff.mp hrun
  have hnoted := peerSight_changeHandle hnote
  -- Noting the read changes nothing the question for the peer depends on.
  simp only [peerSight, Site.withNative, Prod.mk.injEq] at hsight hnoted
  obtain ⟨⟨hendpoint, hnative⟩, hconnected, hcache⟩ := hsight
  obtain ⟨⟨hendpoint', hnative'⟩, hconnected', hcache'⟩ := hnoted
  split at hrun
  · cases hrun
  · rename_i hamount
    obtain ⟨access, room, incoming, hread⟩ := read_of_readInto hinto (Int.not_le.mp hamount)
    obtain ⟨sender, _, hsender, hrun⟩ := Act.bind_ok_iff.mp hrun
    obtain ⟨recipient, _, _, hrun⟩ := Act.bind_ok_iff.mp hrun
    have hpacket : (⟨data', recipient, sender⟩ : Packet) = packet :=
      Option.some.inj (EStateM.Result.ok.inj hrun).1
    have hread' : (Endpoint.read access room : NativeAct ε Incoming).run
        (asked.endpoint, asked.host.native) = .ok incoming (noted.endpoint, noted.host.native) := by
      rw [← hendpoint, ← hnative, hendpoint', hnative']
      exact hread
    rw [← hpacket]
    exact introduced_remoteAddress hread' (hconnected'.trans hconnected) (hcache'.trans hcache)
      hsender

omit [Endpoint ε] in
/-- Whatever the recipient is, the sender is the one that came with the datagram. -/
theorem sender_takeIn {received : Received} {recipient : Option Address}
    (hrun : (takeIn source data received recipient : SiteAct ε ω (Option Packet)).run site =
      .ok (some packet) site') : packet.sender = some received.sender := by
  obtain ⟨_, _, _, hrun⟩ := Act.bind_ok_iff.mp hrun
  obtain ⟨filled, _, _, hrun⟩ := Act.bind_ok_iff.mp hrun
  have hpacket : (⟨filled, recipient, some received.sender⟩ : Packet) = packet :=
    Option.some.inj (EStateM.Result.ok.inj hrun).1
  rw [← hpacket]

theorem introduced_nextUnconnected (hsight : peerSight site = peerSight asked)
    (hrun : (nextUnconnected source data : SiteAct ε ω (Option Packet)).run site =
      .ok (some packet) site') : Introduced asked false packet.sender := by
  obtain ⟨⟨data', received?⟩, _, hlifted, hrun⟩ := Act.bind_ok_iff.mp hrun
  obtain ⟨part, hinto, rfl⟩ := lift_native_inv hlifted
  simp only [peerSight, Prod.mk.injEq] at hsight
  obtain ⟨⟨hendpoint, hnative⟩, -⟩ := hsight
  cases received? with
  | none =>
    obtain ⟨_, _, _, hrun⟩ := Act.bind_ok_iff.mp hrun
    cases hrun
  | some received =>
    obtain ⟨access, room, hreceive⟩ := receive_of_receiveInto hinto
    rw [hendpoint, hnative] at hreceive
    have hsender : packet.sender = some received.sender := by
      cases hlocal : received.local? with
      | some address =>
        simp only [hlocal] at hrun
        exact sender_takeIn hrun
      | none =>
        simp only [hlocal] at hrun
        obtain ⟨_, _, _, hrun⟩ := Act.bind_ok_iff.mp hrun
        exact sender_takeIn hrun
    rw [hsender]
    exact .named hreceive

/-- **The sender of every packet is known in one of the four ways.** -/
theorem introduced_fetch {allocator : AllocatorId} {connected : Bool}
    (hrun : (fetch source allocator connected : SiteAct ε ω (Option Packet)).run asked =
      .ok (some packet) site') : Introduced asked connected packet.sender := by
  obtain ⟨handle, hhandle⟩ := run_handleNow source asked
  unfold fetch at hrun
  rw [Act.bind_of_ok hhandle] at hrun
  obtain ⟨data, _, hallocate, hrun⟩ := Act.bind_ok_iff.mp hrun
  obtain ⟨ledger, -, rfl⟩ := lift_ledger_inv hallocate
  obtain ⟨_, attempted, hattempt, hrun⟩ := Act.bind_ok_iff.mp hrun
  have hsight : peerSight attempted = peerSight asked :=
    (peerSight_changeHandle hattempt).trans rfl
  obtain ⟨result, captured, hcapture, hrun⟩ := Act.bind_ok_iff.mp hrun
  rw [Act.run_capture] at hcapture
  cases hcapture
  split at hrun
  · obtain ⟨_, _, _, hrun⟩ := Act.bind_ok_iff.mp hrun
    cases hrun
  · obtain ⟨_, _, _, hrun⟩ := Act.bind_ok_iff.mp hrun
    cases hrun
  · rename_i made hmade
    cases hrun
    have hnext := Act.run_of_result hmade
    cases connected with
    | true => exact introduced_nextConnected hsight hnext
    | false => exact introduced_nextUnconnected hsight hnext

end Fetching

/-! ## The rounds of a burst -/

/-- A packet that a round handed on, and the site in which its datagram was asked for. -/
structure Delivery (ε ω : Type) where
  asked : Site ε ω
  packet : Packet

/-- The deliveries of rounds that follow each other from a site. A round fetches a packet and hands
it on; the next one begins in the site that this ends in, if it says that the burst goes on. -/
inductive Rounds (handler : Handler ε ω) (source : HandleSource ω) (allocator : AllocatorId)
    (connected : Bool) : Site ε ω → List (Delivery ε ω) → Prop where
  | none (site : Site ε ω) : Rounds handler source allocator connected site []
  | last {site fetched : Site ε ω} {packet : Packet}
      (hfetch : (fetch source allocator connected).run site = .ok (some packet) fetched) :
      Rounds handler source allocator connected site [⟨site, packet⟩]
  | more {site fetched next : Site ε ω} {packet : Packet} {rest : List (Delivery ε ω)}
      (hfetch : (fetch source allocator connected).run site = .ok (some packet) fetched)
      (hhand : (handOn handler source packet).run fetched = .ok true next)
      (hrest : Rounds handler source allocator connected next rest) :
      Rounds handler source allocator connected site (⟨site, packet⟩ :: rest)

section Rounds

variable {handler : Handler ε ω} {source : HandleSource ω} {allocator : AllocatorId}
  {connected : Bool} {site : Site ε ω}

theorem Rounds.introduced {deliveries : List (Delivery ε ω)}
    (h : Rounds handler source allocator connected site deliveries) :
    ∀ delivery ∈ deliveries, Introduced delivery.asked connected delivery.packet.sender := by
  induction h with
  | none site => simp
  | last hfetch => simpa using introduced_fetch hfetch
  | more hfetch hhand hrest ih =>
    exact List.forall_mem_cons.mpr ⟨introduced_fetch hfetch, ih⟩

/-- Nobody is told anything while a datagram is fetched. -/
theorem callbacksIn_fetch (source : HandleSource ω) (allocator : AllocatorId) (connected : Bool)
    (site : Site ε ω) :
    ∃ trace, Watched.Follows (watchFetch source allocator connected)
      (fetch source allocator connected) site trace ∧ callbacksIn trace = [] := by
  obtain ⟨trace, hfollows, hfetches⟩ := fetches_fetch source allocator connected site
  refine ⟨trace, hfollows, List.filterMap_eq_nil_iff.mpr fun event hmem => ?_⟩
  have hfetching := hfetches.fetching event hmem
  cases event <;> simp_all [BurstEvent.fetching, BurstEvent.callback?]

/-- Handing on a packet is telling the handler of it. -/
theorem callbacksIn_handOn (handler : Handler ε ω) (source : HandleSource ω) (packet : Packet)
    (site : Site ε ω) :
    ∃ trace, Watched.Follows (watchHandOn handler source packet) (handOn handler source packet)
      site trace ∧ callbacksIn trace = [.packet packet] := by
  obtain ⟨_, counted, hcount⟩ := succeeds_changeHandle source (·.count 1) site
  let told := counted.withChannel
    { counted.channel with readPending := false, burstPackets := counted.channel.burstPackets + 1 }
  have hfollows := follows_watchTell handler (.packet packet) told
  cases htell : (tell handler (.packet packet)).run told with
  | ok _ handled =>
    exact ⟨_, .quiet hcount (.quiet (run_change _ counted)
      (hfollows.bind_ok htell (Watched.follows_quietly _ handled))), rfl⟩
  | error fault handled =>
    exact ⟨_, .quiet hcount (.quiet (run_change _ counted) (hfollows.bind_error htell)), rfl⟩

/-- **The packets of the loop are those of its rounds**, by induction on the number of datagrams
that it may read. -/
theorem rounds_readAll (handler : Handler ε ω) (source : HandleSource ω) (allocator : AllocatorId)
    (connected : Bool) (bound : Nat) (site : Site ε ω) :
    ∃ trace deliveries,
      Watched.Follows (watchAll handler source allocator connected bound)
        (readAll handler source allocator connected bound) site trace ∧
      Rounds handler source allocator connected site deliveries ∧
      callbacksIn trace = deliveries.map fun delivery => .packet delivery.packet := by
  -- The next round begins where this one ends, so the site is general in the induction.
  induction bound generalizing site with
  | zero => exact ⟨[], [], Watched.follows_pure () site, .none site, rfl⟩
  | succ bound ih =>
    obtain ⟨first, hfirst, hsilent⟩ := callbacksIn_fetch source allocator connected site
    cases hfetch : (fetch source allocator connected).run site with
    | error fault failed =>
      exact ⟨first, [], (hfirst.bind_error hfetch).bind_error (Act.bind_of_error hfetch),
        .none site, hsilent⟩
    | ok packet? fetched =>
      cases packet? with
      | none =>
        refine ⟨_, [], (hfirst.bind_ok hfetch (Watched.follows_pure false fetched)).bind_ok
          (Act.bind_of_ok hfetch) (Watched.follows_pure () fetched), .none site, ?_⟩
        rw [List.append_nil, List.append_nil]
        exact hsilent
      | some packet =>
        obtain ⟨second, hsecond, htold⟩ := callbacksIn_handOn handler source packet fetched
        have hround : Watched.Follows (watchOne handler source allocator connected)
            (readOne handler source allocator connected) site (first ++ second) :=
          hfirst.bind_ok hfetch hsecond
        cases hhand : (handOn handler source packet).run fetched with
        | error fault failed =>
          refine ⟨_, [⟨site, packet⟩], hround.bind_error
            ((Act.bind_of_ok hfetch).trans hhand), .last hfetch, ?_⟩
          rw [callbacksIn_append, hsilent, htold]
          rfl
        | ok on next =>
          have hone : (readOne handler source allocator connected).run site = .ok on next :=
            (Act.bind_of_ok hfetch).trans hhand
          cases on with
          | false =>
            refine ⟨_, [⟨site, packet⟩], hround.bind_ok hone (Watched.follows_pure () next),
              .last hfetch, ?_⟩
            rw [List.append_nil, callbacksIn_append, hsilent, htold]
            rfl
          | true =>
            obtain ⟨rest, deliveries, hrest, hrounds, hpackets⟩ := ih next
            refine ⟨_, _, hround.bind_ok hone hrest, .more hfetch hhand hrounds, ?_⟩
            rw [callbacksIn_append, callbacksIn_append, hsilent, htold, hpackets]
            rfl

end Rounds

/-! ## Every burst -/

/-- The peer is not known: the channel has forgotten it, and is not connected any more, or connected
to a peer that its endpoint could not name. -/
def PeerUnknown (asked : Site ε ω) : Prop :=
  asked.channel.remoteCache = none ∧
    (asked.channel.connected = true → ∃ part part' : ε × Native,
      (Endpoint.remoteAddress : NativeAct ε (Option Address)).run part = .ok none part')

/-- A packet without a sender was read as one of the peer when the peer was not known any more. -/
theorem Introduced.missing {asked : Site ε ω} {connected : Bool} {sender : Option Address}
    (h : Introduced asked connected sender) (hmissing : sender = none) :
    connected = true ∧ PeerUnknown asked := by
  cases h with
  | named => cases hmissing
  | remembered => cases hmissing
  | reported hread hforgotten hconnected hreport =>
    exact ⟨rfl, hforgotten, fun _ => ⟨_, _, hmissing ▸ hreport⟩⟩
  | parted hread hforgotten hparted =>
    exact ⟨rfl, hforgotten, fun hconnected => absurd hconnected (by simp [hparted])⟩

/-- In a burst that begins in a site, the handler is told of the packets that the rounds hand on,
and of nothing else before the end. The sender of each is known, and one that is missing was lost
since the burst began. -/
def Introduces (handler : Handler ε ω) (source : HandleSource ω) (site : Site ε ω)
    (trace : List BurstEvent) : Prop :=
  let connected := site.channel.connected
  ∃ begun deliveries, ∃ faults : List Fault,
    (beginBurst source : SiteAct ε ω Unit).run site = .ok () begun ∧
    Rounds handler source site.channel.config.allocator connected begun deliveries ∧
    callbacksIn trace = (deliveries.map fun delivery => .packet delivery.packet) ++
      .readComplete :: faults.map .failure ∧
    ∀ delivery ∈ deliveries, Introduced delivery.asked connected delivery.packet.sender ∧
      (delivery.packet.sender = none → connected = true ∧ PeerUnknown delivery.asked)

theorem introduces_readReadyWith (handler : Handler ε ω) (source : HandleSource ω)
    {site : Site ε ω} (hready : ReadyToRead site) :
    ∃ trace, Watched.Follows (watchReadyWith handler source) (readReadyWith handler source) site
      trace ∧ Introduces handler source site trace := by
  obtain ⟨begun, bound, loop, tail, hbegin, hloop, hfollows, -, ⟨faults, hconcludes⟩, -⟩ :=
    readReadyWith_parts handler source hready
  obtain ⟨_, deliveries, hrounds, hall, hpackets⟩ := rounds_readAll handler source
    site.channel.config.allocator site.channel.connected bound begun
  refine ⟨_, hfollows, begun, deliveries, faults, hbegin, hall, ?_, fun delivery hmem =>
    ⟨hall.introduced delivery hmem, (hall.introduced delivery hmem).missing⟩⟩
  rw [hrounds.notes_eq.symm.trans hloop.notes_eq] at hpackets
  rw [callbacksIn_append, callbacksIn_append, hpackets, hconcludes]
  exact List.append_nil _

/-- **The packets of a burst and their senders.** Whatever the endpoint answers and whatever the
handler does, each packet that the handler is told of comes from a round of the burst. In a burst of
a channel that is not connected its sender is the one that the endpoint named with the datagram. In
a burst of a connected channel it is the peer that the channel knows at that moment, which is none
if the association was dissolved since the burst began. -/
theorem readReady_introduces (handler : Handler ε ω) {site : Site ε ω}
    (hready : ReadyToRead site) :
    (Watched.Follows (watchReady handler) (readReady handler) site
        (Watched.notes (watchReady handler) site) ∧
      Introduces handler .own ((prepareHandle : SiteAct ε ω Unit).after site)
        (Watched.notes (watchReady handler) site)) ∧
    ∀ source, Watched.Follows (watchReadyWith handler source) (readReadyWith handler source) site
        (Watched.notes (watchReadyWith handler source) site) ∧
      Introduces handler source site (Watched.notes (watchReadyWith handler source) site) := by
  refine ⟨?_, fun source => ?_⟩
  · rw [Act.after_of_ok (run_prepareHandle site)]
    let made := site.withChannel { site.channel with handle := some (ownHandle site) }
    have hmade : ReadyToRead made := hready
    obtain ⟨trace, hfollows, hintroduces⟩ := introduces_readReadyWith handler .own hmade
    have hall : Watched.Follows (watchReady handler) (readReady handler) site trace :=
      .quiet (run_prepareHandle site) hfollows
    rw [hall.notes_eq]
    exact ⟨hall, hintroduces⟩
  · obtain ⟨trace, hfollows, hintroduces⟩ := introduces_readReadyWith handler source hready
    rw [hfollows.notes_eq]
    exact ⟨hfollows, hintroduces⟩

/-- The sender that a callback names. -/
def Callback.sender? : Callback → Option (Option Address)
  | .packet packet => some packet.sender
  | _ => none

/-- A handler disconnects the channel on the first packet of its peer: the second one, which was
waiting already, has no sender. -/
theorem readReady_introduces_parted :
    let peer := Address.loopback 9 Family.ipv4
    let site : Site MemoryEndpoint Unit :=
      { channel :=
          { name := "a", config := { allocator := 0, policy := 0 }, connected := true }
        endpoint :=
          { channel := "a"
            remote := some peer
            inbound := [.datagram [1] .unspecified none none,
              .datagram [2] .unspecified none none] }
        host := { ledger := ⟨[{ kind := .heap }]⟩ }
        outside := () }
    let handler : Handler MemoryEndpoint Unit
      | .packet _ => disconnect
      | _ => pure ()
    let trace := Watched.notes (watchReady handler) site
    ReadyToRead site ∧
      Introduces handler .own ((prepareHandle : SiteAct _ _ Unit).after site) trace ∧
      (callbacksIn trace).filterMap Callback.sender? = [some peer, none] := by
  intro peer site handler trace
  have hready : ReadyToRead site := ⟨rfl, rfl⟩
  exact ⟨hready, (readReady_introduces handler hready).1.2, by decide +kernel⟩

end UdpTransport.Channel
