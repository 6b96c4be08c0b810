import UdpTransport.Proofs.Along
import UdpTransport.Proofs.Burst.Recording
import UdpTransport.Proofs.Burst.Round

/-!
# What a burst delivers

A burst over a queue of datagrams delivers them in order until its limit is reached, the queue is
empty, or an empty datagram comes, which reaches the handler unless the channel is connected. With
reading not going on by itself, the burst is over after one.
-/

namespace UdpTransport

/-! ## How far a burst gets -/

section Counts

variable (connected autoRead : Bool) (limit : Nat) (queue : List Waiting)

/-- The number of datagrams after which a burst is over in any case. -/
def burstLimit : Nat := if autoRead then limit else min limit 1

/-- The number of datagrams that reach the handler: on a connected channel those before the first
empty one, otherwise that one as well. -/
def deliverable : Nat :=
  min (burstLimit autoRead limit)
    (if connected then queue.findIdx Waiting.isEmpty
      else min queue.length (queue.findIdx Waiting.isEmpty + 1))

/-- The number of datagrams that are removed from the queue: those that reach the handler, and on a
connected channel an empty one that ends the burst. -/
def removable : Nat :=
  min (burstLimit autoRead limit) (min queue.length (queue.findIdx Waiting.isEmpty + 1))

end Counts

section Counts

variable {connected autoRead : Bool} {limit : Nat} {datagram : Waiting} {queue rest : List Waiting}

/-- No more is delivered than is queued. -/
theorem deliverable_le_length : deliverable connected autoRead limit queue ≤ queue.length := by
  have hfound : queue.findIdx Waiting.isEmpty ≤ queue.length := List.findIdx_le_length
  unfold deliverable
  split <;> omega

/-- Either nothing is there that reaches the handler, or there is a next one that does. -/
theorem head_cases (connected : Bool) (queue : List Waiting) :
    (∀ datagram ∈ queue.head?, connected = true ∧ datagram.isEmpty = true) ∨
      ∃ datagram rest, queue = datagram :: rest ∧
        (connected = true → datagram.isEmpty = false) := by
  cases queue with
  | nil => exact .inl (by simp)
  | cons datagram rest =>
    by_cases hend : connected = true ∧ datagram.isEmpty = true
    · exact .inl (by simpa using hend)
    · refine .inr ⟨datagram, rest, rfl, fun hconnected => ?_⟩
      exact Bool.eq_false_iff.mpr fun hempty => hend ⟨hconnected, hempty⟩

/-- Nothing is delivered where a connected channel finds an empty datagram first, or none. -/
theorem deliverable_none
    (hnone : ∀ datagram ∈ queue.head?, connected = true ∧ datagram.isEmpty = true) :
    deliverable connected autoRead limit queue = 0 := by
  cases queue with
  | nil => cases connected <;> simp [deliverable]
  | cons datagram rest =>
    obtain ⟨rfl, hempty⟩ := hnone datagram rfl
    simp [deliverable, List.findIdx_cons, hempty]

/-- It is removed all the same. -/
theorem drop_removable_none (hlimit : 0 < limit)
    (hnone : ∀ datagram ∈ queue.head?, connected = true ∧ datagram.isEmpty = true) :
    queue.drop (removable autoRead limit queue) = queue.tail := by
  cases queue with
  | nil => simp
  | cons datagram rest =>
    have hone : removable autoRead limit (datagram :: rest) = 1 := by
      have hempty := (hnone datagram rfl).2
      cases autoRead <;> simp [removable, burstLimit, List.findIdx_cons, hempty] <;> omega
    rw [hone]
    rfl

/-- With automatic reading the first datagram is delivered, and the loop goes on with the rest. -/
theorem deliverable_on (hnonempty : datagram.isEmpty = false) :
    deliverable connected true (limit + 1) (datagram :: rest) =
      deliverable connected true limit rest + 1 := by
  cases connected <;> simp [deliverable, burstLimit, List.findIdx_cons, hnonempty]

/-- It is removed, and the loop goes on. -/
theorem removable_on (hnonempty : datagram.isEmpty = false) :
    removable true (limit + 1) (datagram :: rest) = removable true limit rest + 1 := by
  simp [removable, burstLimit, List.findIdx_cons, hnonempty]

/-- One datagram is delivered where the loop does not go on. -/
theorem deliverable_last (hsome : connected = true → datagram.isEmpty = false)
    (hlast : (autoRead && 0 < limit && !datagram.isEmpty) = false) :
    deliverable connected autoRead (limit + 1) (datagram :: rest) = 1 := by
  cases hempty : datagram.isEmpty <;> cases autoRead <;> cases connected <;>
    simp_all [deliverable, burstLimit, List.findIdx_cons]

/-- And one is removed. -/
theorem removable_last (hlast : (autoRead && 0 < limit && !datagram.isEmpty) = false) :
    removable autoRead (limit + 1) (datagram :: rest) = 1 := by
  cases hempty : datagram.isEmpty <;> cases autoRead <;>
    simp_all [removable, burstLimit, List.findIdx_cons]

end Counts

/-! ## The loop over the queue -/

variable {ε ω : Type} [Endpoint ε]

/-- The packets that are made of datagrams, each in the buffer that the receive handle asked for
after those before it. -/
def FifoEndpoint.packetsOf (fifo : FifoEndpoint ε) (channel : Channel) (kind : MemoryKind) :
    ReceiveHandle → List Waiting → List Packet
  | _, [] => []
  | handle, datagram :: rest =>
    fifo.packetOf channel kind handle datagram ::
      packetsOf fifo channel kind (handle.taking datagram) rest

namespace ReceiveHandle

variable {handle : ReceiveHandle}

@[simp] theorem limit_taking (handle : ReceiveHandle) (datagram : Waiting) :
    (handle.taking datagram).limit = handle.limit :=
  limit_noteRead ..

@[simp] theorem messages_taking (handle : ReceiveHandle) (datagram : Waiting) :
    (handle.taking datagram).messages = handle.messages + 1 :=
  congrArg (· + 1) (messages_noteRead (handle.attempt handle.guess) _)

/-- A handle that keeps its bounds keeps them from datagram to datagram. -/
theorem Sized.taking (h : handle.Sized) (datagram : Waiting) : (handle.taking datagram).Sized := by
  have hattempt : (handle.attempt handle.guess).Sized := h
  exact hattempt.noteRead _

end ReceiveHandle

namespace Channel

open Watched

/-- What is noted while packets are handed on, one after another. -/
def rounds (packets : List Packet) : List BurstEvent :=
  packets.flatMap fun packet => [.received, .told (.packet packet) none true]

/-- **The loop over a queue**, by induction on the number of datagrams that it may read. At its end
it may find nothing more to hand on. -/
theorem yields_all {fifo : FifoEndpoint ε} {channel : Channel} {kind : MemoryKind}
    {handler : Handler ε ω} {handle : ReceiveHandle} {queue : List Waiting} {site : Site ε ω}
    {limit bound : Nat} (hquiet : Quiet handler) (hkind : kind ≠ .borrowed)
    (h : Serving fifo channel kind handle queue site) (hsized : handle.Sized)
    (hleft : handle.limit = handle.messages + limit) (hlimit : 0 < limit) (hbound : limit ≤ bound) :
    let taken := deliverable channel.connected channel.config.autoRead limit queue
    ∃ more handle' site',
      Yields (watchAll handler .own channel.config.allocator channel.connected bound)
        (readAll handler .own channel.config.allocator channel.connected bound) site () site'
        (rounds (fifo.packetsOf channel kind handle (queue.take taken)) ++
          List.replicate more .received) ∧
      taken + more ≤ limit ∧ handle'.Sized ∧
      Serving fifo channel kind handle'
        (queue.drop (removable channel.config.autoRead limit queue)) site' := by
  induction bound generalizing handle queue site limit with
  | zero => omega
  | succ bound ih =>
    intro taken
    rcases head_cases channel.connected queue with hnone | ⟨datagram, rest, rfl, hsome⟩
    · -- Nothing comes that could be handed on.
      obtain ⟨handle', hsized', site', hround, h'⟩ := h.round_none handler hkind hsized hnone
      have htaken : taken = 0 := deliverable_none hnone
      refine ⟨1, handle', site', ?_, by omega, hsized', ?_⟩
      · rw [htaken, List.take_zero]
        exact hround.bind (yields_pure () site')
      · rw [drop_removable_none hlimit hnone]
        exact h'
    · -- The next datagram is handed on, and `limit` counts what may come after it.
      obtain ⟨limit, rfl⟩ : ∃ n, limit = n + 1 := ⟨limit - 1, by omega⟩
      obtain ⟨middle, hround, hmiddle⟩ := h.round_some hquiet hkind hsized hsome
      have hgoes : (channel.config.autoRead && handle.messages + 1 < handle.limit &&
          !datagram.isEmpty) = (channel.config.autoRead && 0 < limit && !datagram.isEmpty) := by
        have hiff : handle.messages + 1 < handle.limit ↔ 0 < limit := by omega
        rw [decide_eq_decide.mpr hiff]
      rw [hgoes] at hround
      cases hon : channel.config.autoRead && 0 < limit && !datagram.isEmpty with
      | true =>
        -- One more datagram counts, and the rest is the loop over the rest of the queue.
        rw [hon] at hround
        simp only [Bool.and_eq_true, decide_eq_true_eq, Bool.not_eq_true'] at hon
        obtain ⟨⟨hauto, hpositive⟩, hnonempty⟩ := hon
        have hleft' : (handle.taking datagram).limit =
            (handle.taking datagram).messages + limit := by
          rw [ReceiveHandle.limit_taking, ReceiveHandle.messages_taking]
          omega
        obtain ⟨more, handle', site', hrest, hcount, hsized', h'⟩ :=
          ih hmiddle (hsized.taking datagram) hleft' hpositive (by omega)
        have htaken : taken =
            deliverable channel.connected channel.config.autoRead limit rest + 1 := by
          show deliverable _ _ _ _ = _
          rw [hauto]
          exact deliverable_on hnonempty
        refine ⟨more, handle', site', ?_, by omega, hsized', ?_⟩
        · rw [htaken]
          exact hround.bind hrest
        · rw [hauto, removable_on hnonempty, ← hauto]
          exact h'
      | false =>
        -- The limit is reached, the datagram is empty, or reading does not go on by itself.
        rw [hon] at hround
        have htaken : taken = 1 := deliverable_last hsome hon
        refine ⟨0, handle.taking datagram, middle, ?_, by omega, hsized.taking datagram, ?_⟩
        · rw [htaken]
          exact hround.bind (yields_pure () middle)
        · rw [removable_last hon]
          exact hmiddle

/-! ## The end of a burst -/

/-- What datagrams are received with: the endpoint and the channel's own handle. -/
def intake (site : Site ε ω) : ε × Option ReceiveHandle := (site.endpoint, site.channel.handle)

omit [Endpoint ε] in
theorem within_intake_plain {α : Type} (act : Act Native α) :
    Act.Within (Act.Fixing intake) (liftM act : SiteAct ε ω α) := by
  refine (within_lift_plain act).mono ?_
  rintro site _ ⟨native, rfl⟩
  rfl

omit [Endpoint ε] in
/-- What a channel waits for is no part of the intake. -/
theorem within_setReadInterest (wanted : Bool) :
    Act.Within (Act.Fixing intake) (setReadInterest wanted : SiteAct ε ω Unit) :=
  within_setReadInterest_of fun _ _ => within_intake_plain _

theorem within_read : Act.Within (Act.Fixing intake) (read : SiteAct ε ω Unit) :=
  within_read_of (Act.within_modify fun _ => rfl) (within_setReadInterest true)

omit [Endpoint ε] in
/-- So the end of a burst leaves the queue and the handle as the loop left them. -/
theorem within_settleInterest :
    Act.Within (Act.Fixing intake) (settleInterest : SiteAct ε ω Unit) :=
  within_settling (fun _ _ _ => within_intake_plain _) (within_setReadInterest false)

/-- What a burst over a queue notes. -/
def queueTrace (packets : List Packet) (more : Nat) : List BurstEvent :=
  rounds packets ++ List.replicate more .received ++
    [.ended none, .told .readComplete none true]

/-- A burst is its loop over the queue, with the end told once. -/
theorem burst_delivers {fifo : FifoEndpoint ε} {channel : Channel} {kind : MemoryKind}
    {handler : Handler ε ω} {handle : ReceiveHandle} {queue : List Waiting} {site : Site ε ω}
    {limit : Nat} (hquiet : Quiet handler) (hkind : kind ≠ .borrowed)
    (h : Serving fifo channel kind handle queue site) (hsized : handle.Sized)
    (hleft : handle.limit = limit) (hfresh : handle.messages = 0) (hlimit : 0 < limit) :
    let taken := deliverable channel.connected channel.config.autoRead limit queue
    ∃ more,
      Follows (watchBurst handler .own channel.config.allocator)
        (burst handler .own channel.config.allocator) site
        (queueTrace (fifo.packetsOf channel kind handle (queue.take taken)) more) ∧
      taken + more ≤ limit ∧
      ∃ endpoint handle', handle'.Sized ∧
        intake ((burst handler .own channel.config.allocator).after site) =
          (endpoint, some handle') ∧
        fifo.Holds endpoint (queue.drop (removable channel.config.autoRead limit queue)) := by
  intro taken
  obtain ⟨more, handle', middle, hall, hcount, hsized', hmiddle⟩ :=
    yields_all hquiet hkind h hsized (by omega) hlimit
      (show limit ≤ handle.limit.toNat + burstBound by omega)
  obtain ⟨completed, hcomplete, hcompleted⟩ := hmiddle.changeHandle ReceiveHandle.complete
  obtain ⟨told, htell, htold⟩ := hcompleted.tell hquiet .readComplete
  have hloop : Yields
      (watchAll handler .own channel.config.allocator site.channel.connected
        (handle.limit.toNat + burstBound))
      (readAll handler .own channel.config.allocator site.channel.connected
        (handle.limit.toNat + burstBound)) site () middle
      (rounds (fifo.packetsOf channel kind handle (queue.take taken)) ++
        List.replicate more .received) := by
    rw [h.connected]
    exact hall
  have hread : Act.Within (Act.Fixing intake)
      (do if (← current).config.autoRead then read : SiteAct ε ω Unit) := by
    refine Act.within_bind (Act.within_of_after fun _ => rfl) fun channel => ?_
    split
    · exact within_read
    · exact Act.within_pure ()
  -- What the channel does after that receives nothing.
  refine ⟨more, ?_, hcount, told.endpoint, handle'.complete, hsized'.complete, ?_, htold.holds⟩
  · refine follows_burst h.handleNow hloop hcomplete (htell.follows.bind_ok htell.run ?_)
    refine .quiet (run_current told) ?_
    split
    · exact follows_quietly read told
    · exact follows_pure () told
  · have hafter : (burst handler .own channel.config.allocator).after site =
        (do if (← current).config.autoRead then read : SiteAct ε ω Unit).after told := by
      unfold burst
      rw [Act.after_bind_of_ok (run_current site), Act.after_bind_of_ok h.handleNow,
        Act.after_bind_of_ok (Act.run_capture_ok hloop.run)]
      exact (Act.after_bind_of_ok hcomplete).trans (Act.after_bind_of_ok htell.run)
    rw [hafter, hread told, intake, htold.handle]

/-! ## Every queue -/

/-- The receive handle after datagrams were taken, one after another. -/
def afterTaking (handle : ReceiveHandle) (datagrams : List Waiting) : ReceiveHandle :=
  datagrams.foldl ReceiveHandle.taking handle

/-- Each packet is made of the datagram at its place. -/
theorem getElem?_packetsOf (fifo : FifoEndpoint ε) (channel : Channel) (kind : MemoryKind)
    (handle : ReceiveHandle) (queue : List Waiting) (place : Nat) :
    (fifo.packetsOf channel kind handle queue)[place]? =
      queue[place]?.map (fifo.packetOf channel kind (afterTaking handle (queue.take place))) := by
  induction queue generalizing handle place with
  | nil => rfl
  | cons datagram rest ih =>
    cases place with
    | zero => rfl
    | succ place => exact ih (handle.taking datagram) place

/-- One packet for each datagram. -/
theorem length_packetsOf (fifo : FifoEndpoint ε) (channel : Channel) (kind : MemoryKind)
    (handle : ReceiveHandle) (queue : List Waiting) :
    (fifo.packetsOf channel kind handle queue).length = queue.length := by
  induction queue generalizing handle with
  | nil => rfl
  | cons datagram rest ih => exact congrArg (· + 1) (ih (handle.taking datagram))

/-- The packet at a place is that of the datagram at that place. -/
theorem eq_packetOf {fifo : FifoEndpoint ε} {channel : Channel} {kind : MemoryKind}
    {handle : ReceiveHandle} {queue : List Waiting} {count place : Nat} {packet : Packet}
    {datagram : Waiting}
    (hpacket : (fifo.packetsOf channel kind handle (queue.take count))[place]? = some packet)
    (hdatagram : queue[place]? = some datagram) :
    packet = fifo.packetOf channel kind (afterTaking handle (queue.take place)) datagram := by
  rw [getElem?_packetsOf, List.getElem?_take] at hpacket
  split at hpacket
  · rename_i hlt
    rw [hdatagram, List.take_take, Nat.min_eq_left (Nat.le_of_lt hlt)] at hpacket
    exact (Option.some.inj hpacket).symm
  · cases hpacket

/-- The handler is told of each packet, and of the end. -/
theorem callbacksIn_queueTrace (packets : List Packet) (more : Nat) :
    callbacksIn (queueTrace packets more) = packets.map .packet ++ [.readComplete] := by
  have hrounds : callbacksIn (rounds packets) = packets.map .packet := by
    induction packets with
    | nil => rfl
    | cons packet rest ih => exact congrArg (List.cons (Callback.packet packet)) ih
  have hmore : callbacksIn (List.replicate more .received) = [] := by
    simp [callbacksIn, BurstEvent.callback?]
  rw [queueTrace, callbacksIn_append, callbacksIn_append, hrounds, hmore, List.append_nil]
  rfl

/-- The endpoint is asked once for each packet, and perhaps once more in vain. -/
theorem receivesIn_queueTrace (packets : List Packet) (more : Nat) :
    receivesIn (queueTrace packets more) = packets.length + more := by
  have hrounds : receivesIn (rounds packets) = packets.length := by
    induction packets with
    | nil => rfl
    | cons packet rest ih =>
      show receivesIn ([.received, .told (.packet packet) none true] ++ rounds rest) = _
      rw [receivesIn_append, ih]
      exact Nat.add_comm 1 rest.length
  have hmore : receivesIn (List.replicate more .received) = more := by
    simp [receivesIn, List.countP_replicate]
  rw [queueTrace, receivesIn_append, receivesIn_append, hrounds, hmore]
  rfl

omit [Endpoint ε] in
/-- The channel's own handle is one of the burst before, or a new one. -/
theorem sized_ownHandle {site : Site ε ω}
    (hkept : ∀ handle, site.channel.handle = some handle → handle.Sized)
    (hnew : (ReceiveHandle.ofPolicy site.channel.config.policy (ownPolicy site)).Sized) :
    (ownHandle site).Sized := by
  unfold ownHandle
  cases hfilter : site.channel.handle.filter (·.policy = site.channel.config.policy) with
  | none => exact hnew
  | some handle => exact hkept handle (Option.filter_eq_some_iff.mp hfilter).1

/-- The site when a burst with the channel's own handle begins. -/
def begun (site : Site ε ω) : Site ε ω :=
  site.withChannel
    { site.channel with
      handle := some ((ownHandle site).reset (ownPolicy site)), burstPackets := 0 }

/-- What a ready channel does is its burst and what it waits for after it. -/
theorem follows_readReady {handler : Handler ε ω} {site : Site ε ω} {trace : List BurstEvent}
    (hready : ReadyToRead site)
    (hburst : Follows (watchBurst handler .own site.channel.config.allocator)
      (burst handler .own site.channel.config.allocator) (begun site) trace) :
    Follows (watchReady handler) (readReady handler) site (trace ++ [.settled]) ∧
      (readReady handler).after site = settleInterest.after
        ((burst handler .own site.channel.config.allocator).after (begun site)) := by
  let made := site.withChannel { site.channel with handle := some (ownHandle site) }
  have hprepare : (prepareHandle : SiteAct ε ω Unit).run site = .ok () made :=
    run_prepareHandle site
  have hholdsBack : (holdsBack : SiteAct ε ω Bool).run made = .ok false made :=
    run_holdsBack hready
  have hbegin : (beginBurst .own : SiteAct ε ω Unit).run made = .ok () (begun site) := by
    have hpolicy : policy made.host (ownHandle site).policy = ownPolicy site := by
      rw [policy_ownHandle]
      rfl
    have hrun := run_beginBurst (rfl : made.channel.handle = some (ownHandle site))
    rwa [hpolicy] at hrun
  constructor
  · exact .quiet hprepare (.quiet hholdsBack (.quiet (run_current made) (.quiet hbegin
      (hburst.ensuring (follows_noting settleInterest _ _)))))
  · unfold readReady
    rw [Act.after_bind_of_ok hprepare]
    exact after_readReadyWith handler hready hbegin

/-- What a burst makes of a queue, by its record. -/
structure Delivers (fifo : FifoEndpoint ε) (site : Site ε ω) (queue : List Waiting)
    (seen : List (Sighting ε ω)) (packets : List Packet) (site' : Site ε ω) : Prop where
  /-- The handler is given the packets, and told that the burst is over. -/
  callbacks : seen.filterMap Sighting.callback? = packets.map .packet ++ [.readComplete]
  length : packets.length = deliverable site.channel.connected site.channel.config.autoRead
    (ownPolicy site).maxMessages.toNat queue
  /-- A packet holds as much of the datagram at its place as fits into the buffer that the receive
  handle asked for, after it had seen the datagrams before. -/
  content : ∀ (place : Nat) (packet : Packet) (datagram : Waiting),
    packets[place]? = some packet → queue[place]? = some datagram →
    packet.content.capacity =
        (afterTaking ((ownHandle site).reset (ownPolicy site)) (queue.take place)).guess.toNat ∧
      packet.content.toBytes = datagram.bytes.take packet.content.capacity
  addresses : ∀ (place : Nat) (packet : Packet) (datagram : Waiting),
    packets[place]? = some packet → queue[place]? = some datagram →
    (packet.sender, packet.recipient) =
      if site.channel.connected then (fifo.peerOf site.channel, fifo.localOf site.channel)
      else (some datagram.sender, datagram.local?.or (fifo.localOf site.channel))
  /-- The other datagrams wait, and the next burst can take them up. -/
  rest : fifo.Holds site'.endpoint
    (queue.drop (removable site.channel.config.autoRead (ownPolicy site).maxMessages.toNat queue))
  sized : ∀ handle, site'.channel.handle = some handle → handle.Sized
  /-- The endpoint is asked for no more datagrams than the limit says. -/
  receives : seen.countP Sighting.isAsked ≤ (ownPolicy site).maxMessages.toNat

/-- **A burst delivers the first datagrams of a queue**, in order and each as far as its buffer
reaches, whether its buffers are direct memory or not. The record of the burst shows what the
handler is given, and how often the endpoint is asked. -/
theorem readReady_delivers (fifo : FifoEndpoint ε) {handler : Handler ε ω} (hquiet : Quiet handler)
    {site : Site ε ω} {queue : List Waiting} {kind : MemoryKind}
    (hholds : fifo.Holds site.endpoint queue) (hready : site.channel.config.suspended = false)
    (hkind : kind ≠ .borrowed)
    (hmemory : site.host.ledger.Unlimited site.channel.config.allocator kind)
    (hsized : (ownHandle site).Sized) (hlimit : 0 < (ownPolicy site).maxMessages) :
    ∃ seen packets, Seen (readReady (recording handler)) (readReady handler) site seen ∧
      Delivers fifo site queue seen packets ((readReady handler).after site) := by
  let handle := (ownHandle site).reset (ownPolicy site)
  have hserving : Serving fifo site.channel kind handle queue (begun site) :=
    ⟨hholds, rfl, hmemory, rfl, rfl, rfl, rfl⟩
  have hlimit' : 0 < (ownPolicy site).maxMessages.toNat := by omega
  have hleft : handle.limit = (ownPolicy site).maxMessages.toNat :=
    (Int.toNat_of_nonneg (Int.le_of_lt hlimit)).symm
  obtain ⟨more, hburst, hcount, endpoint, handle', hsized', hintake, hrest⟩ :=
    burst_delivers hquiet hkind hserving hsized hleft rfl hlimit'
  obtain ⟨hfollows, hafter⟩ := follows_readReady ⟨fifo.isOpen hholds, hready⟩ hburst
  let packets := fifo.packetsOf site.channel kind handle (queue.take (deliverable
    site.channel.connected site.channel.config.autoRead (ownPolicy site).maxMessages.toNat queue))
  -- From here on the notes are those a recording endpoint and handler made.
  obtain ⟨seen, hseen, hrecounts⟩ := seen_of_follows hfollows (recollects_readReady handler)
  have hlength : packets.length = deliverable site.channel.connected site.channel.config.autoRead
      (ownPolicy site).maxMessages.toNat queue := by
    rw [length_packetsOf, List.length_take, Nat.min_eq_left deliverable_le_length]
  have hleaves : intake ((readReady handler).after site) = (endpoint, some handle') := by
    rw [hafter, within_settleInterest, hintake]
  obtain ⟨hendpoint, hhandle⟩ := Prod.mk.inj hleaves
  refine ⟨seen, packets, hseen, ?_⟩
  -- What was called is read off the record, what is left behind off the state after the burst.
  constructor
  case callbacks =>
    rw [hrecounts.callbacks, callbacksIn_append, callbacksIn_queueTrace]
    exact List.append_nil _
  case length => exact hlength
  case content =>
    intro place packet datagram hpacket hdatagram
    rw [eq_packetOf hpacket hdatagram]
    exact ⟨Buffer.capacity_filled, Buffer.toBytes_filled hkind (List.length_take_le ..)⟩
  case addresses =>
    intro place packet datagram hpacket hdatagram
    rw [eq_packetOf hpacket hdatagram, FifoEndpoint.packetOf]
    cases site.channel.connected <;> rfl
  case rest =>
    rw [hendpoint]
    exact hrest
  case sized =>
    intro handle hkept
    rw [hhandle] at hkept
    cases hkept
    exact hsized'
  case receives =>
    refine Nat.le_trans hrecounts.asked_le ?_
    rw [receivesIn_append, receivesIn_queueTrace, hlength]
    exact hcount

/-- A handler that gives the memory of every packet back at once. -/
def discarding : Handler ε ω
  | .packet packet => Ledger.discard packet.content
  | _ => pure ()

omit [Endpoint ε] in
/-- A handler that gives every packet back is quiet. -/
theorem quiet_discarding : Quiet (discarding : Handler ε ω) := by
  intro callback site
  cases callback with
  | packet packet =>
    exact ⟨_, run_discard packet.content site, rfl, rfl, fun _ _ h => h.release _⟩
  | readComplete => exact ⟨site, rfl, rfl, rfl, fun _ _ => id⟩
  | failure fault => exact ⟨site, rfl, rfl, rfl, fun _ _ => id⟩

/-- A datagram that fills its buffer makes the next buffer larger. An empty one reaches the handler
and ends the burst. -/
theorem readReady_delivers_adaptively :
    let queue : List Waiting :=
      [⟨.replicate 40 7, .unspecified, none⟩, ⟨[], .unspecified, none⟩, ⟨[3], .unspecified, none⟩]
    let site : Site MemoryEndpoint Unit :=
      { channel := { name := "a", config := { allocator := 0, policy := 0 } }
        endpoint := { channel := "a", inbound := queue.map MemoryEndpoint.laidDown }
        host :=
          { ledger := ⟨[{ kind := .direct }]⟩, policies := [{ sizing := .adaptive 0 1 32 }] }
        outside := () }
    let fifo := MemoryEndpoint.fifo site.endpoint.localAddress none
    ∃ seen packets, Seen (readReady (recording discarding)) (readReady discarding) site seen ∧
      Delivers fifo site queue seen packets ((readReady discarding).after site) ∧
      packets.length = 2 ∧ ∀ packet, packets[1]? = some packet → packet.content.capacity = 96 := by
  intro queue site fifo
  have hpolicy : ReceivePolicy.adaptive 16 32 1024 = .ok { sizing := .adaptive 0 1 32 } := rfl
  have hsized : (ownHandle site).Sized :=
    sized_ownHandle (fun _ h => by cases h) (ReceiveHandle.sized_of_adaptive hpolicy (by decide) 0)
  obtain ⟨seen, packets, hseen, hdelivers⟩ := readReady_delivers fifo quiet_discarding
    ⟨rfl, rfl, rfl, rfl⟩ rfl (by decide : MemoryKind.direct ≠ .borrowed) ⟨_, rfl, rfl, rfl⟩ hsized
    (by decide)
  refine ⟨seen, packets, hseen, hdelivers, hdelivers.length, fun packet hpacket => ?_⟩
  exact (hdelivers.content 1 packet _ hpacket rfl).1.trans (by decide)

end Channel

end UdpTransport
