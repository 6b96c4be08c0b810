import UdpTransport.Endpoint.Memory
import UdpTransport.Proofs.Burst.Loop

/-!
# The order of a burst

A handler is told of packets, then that the burst is over, and then of what ended it, if that was a
failure. It can do anything with the channel on the way and fail whenever it is told something. What
a burst notes follows a grammar (`BurstTrace`): the loop over the datagrams, and one of three
endings. So whatever the endpoint and the handler do, every burst keeps the order, passes on the
failure that ended it, stops at a callback that leaves the endpoint closed, and settles exactly
once, at its very end (`BurstTrace.orderly`).
-/

namespace UdpTransport.Channel

variable {ε ω α β : Type}

/-! ## The end of a burst -/

/-- What the loop ended with. -/
def BurstEvent.ending? : BurstEvent → Option (Option Fault)
  | ended fault? => some fault?
  | _ => none

/-- What the loop ended with, each time that it ended. -/
def endingsIn (trace : List BurstEvent) : List (Option Fault) :=
  trace.filterMap BurstEvent.ending?

theorem endingsIn_append (first second : List BurstEvent) :
    endingsIn (first ++ second) = endingsIn first ++ endingsIn second :=
  List.filterMap_append

/-- What comes after the loop of a burst: what the loop ended with, and what the handler is told at
the end. -/
structure Concludes (fault? : Option Fault) (tail : List BurstEvent) : Prop where
  callbacks : ∃ faults : List Fault, callbacksIn tail = .readComplete :: faults.map .failure
  ended : endingsIn tail = [fault?]

section Burst

variable [Endpoint ε]

/-! ## The burst -/

/-- The trace of a burst. -/
inductive BurstTrace (connected : Bool) : List BurstEvent → Prop where
  /-- The loop ended in order, and the handler heard of it. -/
  | completed {loop : List BurstEvent} (hloop : Loops connected loop none) (stillOpen : Bool) :
      BurstTrace connected (loop ++ [.ended none, .told .readComplete none stillOpen])
  /-- A failure ended the loop, and the handler heard of that too. -/
  | failed {loop : List BurstEvent} {fault : Fault} (hloop : Loops connected loop (some fault))
      (stillOpen : Bool) (fault? : Option Fault) (stillOpen' : Bool) :
      BurstTrace connected (loop ++ [.ended (some fault), .told .readComplete none stillOpen,
        .told (.failure fault) fault? stillOpen'])
  /-- The handler failed when it heard of the end. -/
  | abandoned {loop : List BurstEvent} {fault? : Option Fault}
      (hloop : Loops connected loop fault?) (fault : Fault) (stillOpen : Bool) :
      BurstTrace connected (loop ++ [.ended fault?, .told .readComplete (some fault) stillOpen])

section Ending

variable {handler : Handler ε ω} {source : HandleSource ω} {allocator : AllocatorId}
  {site middle completed : Site ε ω} {handle : ReceiveHandle} {loop tail : List BurstEvent}
  {connected : Bool} {fault : Fault}

/-- After a loop that ended in order, the handler is told of the end, and the next burst is asked
for if reading goes on by itself. -/
theorem follows_burst
    (hhandle : (handleNow source : SiteAct ε ω ReceiveHandle).run site = .ok handle site)
    (hloop : Watched.Yields
      (watchAll handler source allocator site.channel.connected (handle.limit.toNat + burstBound))
      (readAll handler source allocator site.channel.connected (handle.limit.toNat + burstBound))
      site () middle loop)
    (hcomplete : (changeHandle source ReceiveHandle.complete : SiteAct ε ω Unit).run middle =
      .ok () completed)
    (htail : Watched.Follows
      (do
        watchTell handler .readComplete
        if (← Watched.quietly current).config.autoRead then Watched.quietly read)
      (do
        tell handler .readComplete
        if (← current).config.autoRead then read) completed tail) :
    Watched.Follows (watchBurst handler source allocator) (burst handler source allocator) site
      (loop ++ .ended none :: tail) :=
  .quiet (run_current site) (.quiet hhandle (hloop.follows.capture.bind_ok
    (Act.run_capture_ok hloop.run) (.marked (.quiet hcomplete htail))))

theorem completed_spec (hloops : Loops connected loop none) (handler : Handler ε ω)
    (completed : Site ε ω) :
    ∃ tail, Watched.Follows
        (do
          watchTell handler .readComplete
          if (← Watched.quietly current).config.autoRead then Watched.quietly read)
        (do
          tell handler .readComplete
          if (← current).config.autoRead then read) completed tail ∧
      BurstTrace connected (loop ++ .ended none :: tail) ∧
      Concludes none (.ended none :: tail) := by
  have htold := follows_watchTell handler .readComplete completed
  cases htell : (tell handler .readComplete).run completed with
  | ok _ told =>
    rw [Act.result_of_ok htell, Act.after_of_ok htell] at htold
    refine ⟨_, htold.bind_ok htell (.quiet (run_current told) ?_), .completed hloops _,
      ⟨[], rfl⟩, rfl⟩
    split
    · exact Watched.follows_quietly read told
    · exact Watched.follows_pure () told
  | error fault told =>
    rw [Act.result_of_error htell, Act.after_of_error htell] at htold
    exact ⟨_, htold.bind_error htell, .abandoned hloops fault _, ⟨[], rfl⟩, rfl⟩

/-- After a loop that failed, the handler is told of the end and then of the failure. -/
theorem follows_burst_failed
    (hhandle : (handleNow source : SiteAct ε ω ReceiveHandle).run site = .ok handle site)
    (hfollows : Watched.Follows
      (watchAll handler source allocator site.channel.connected (handle.limit.toNat + burstBound))
      (readAll handler source allocator site.channel.connected (handle.limit.toNat + burstBound))
      site loop)
    (hrun : (readAll handler source allocator site.channel.connected
      (handle.limit.toNat + burstBound)).run site = .error fault middle) :
    ∃ completed, ∀ {tail}, Watched.Follows
        (do
          watchTell handler .readComplete
          watchTell handler (.failure fault))
        (do
          tell handler .readComplete
          tell handler (.failure fault)) completed tail →
      Watched.Follows (watchBurst handler source allocator) (burst handler source allocator) site
        (loop ++ .ended (some fault) :: tail) := by
  obtain ⟨native, hlog⟩ := run_writeLog .debug logTag
    s!"read burst ended by an exception after {middle.channel.burstPackets} packet(s)" middle
  obtain ⟨_, completed, hcomplete⟩ := succeeds_changeHandle source
    ReceiveHandle.complete (middle.withNative (middle.endpoint, native))
  -- What the two calls at the end come to is left to the tail.
  refine ⟨completed, fun htail => ?_⟩
  exact .quiet (run_current site) (.quiet hhandle (hfollows.capture.bind_ok
    (Act.run_capture_error hrun) (.marked (.quiet (run_current middle) (.quiet hlog
      (.quiet hcomplete htail))))))

theorem failed_spec (hloops : Loops connected loop (some fault)) (handler : Handler ε ω)
    (completed : Site ε ω) :
    ∃ tail, Watched.Follows
        (do
          watchTell handler .readComplete
          watchTell handler (.failure fault))
        (do
          tell handler .readComplete
          tell handler (.failure fault)) completed tail ∧
      BurstTrace connected (loop ++ .ended (some fault) :: tail) ∧
      Concludes (some fault) (.ended (some fault) :: tail) := by
  have htold := follows_watchTell handler .readComplete completed
  cases htell : (tell handler .readComplete).run completed with
  | ok _ told =>
    rw [Act.result_of_ok htell, Act.after_of_ok htell] at htold
    exact ⟨_, htold.bind_ok htell (follows_watchTell handler (.failure fault) told),
      .failed hloops _ _ _, ⟨[fault], rfl⟩, rfl⟩
  | error other told =>
    rw [Act.result_of_error htell, Act.after_of_error htell] at htold
    exact ⟨_, htold.bind_error htell, .abandoned hloops other _, ⟨[], rfl⟩, rfl⟩

end Ending

theorem burst_spec (handler : Handler ε ω) (source : HandleSource ω) (allocator : AllocatorId)
    (site : Site ε ω) :
    ∃ bound loop tail,
      Watched.Follows (watchAll handler source allocator site.channel.connected bound)
        (readAll handler source allocator site.channel.connected bound) site loop ∧
      Watched.Follows (watchBurst handler source allocator) (burst handler source allocator) site
        (loop ++ tail) ∧
      BurstTrace site.channel.connected (loop ++ tail) ∧
      Concludes (faultOf? ((readAll handler source allocator site.channel.connected bound).result
        site)) tail := by
  obtain ⟨handle, hhandle⟩ := run_handleNow source site
  -- The loop gives the trace its first part, and what the loop ended with picks the ending.
  obtain ⟨loop, hfollows, hloops⟩ := loops_all handler source allocator site.channel.connected
    (handle.limit.toNat + burstBound) site
  refine ⟨handle.limit.toNat + burstBound, loop, ?_⟩
  cases hrun : (readAll handler source allocator site.channel.connected
      (handle.limit.toNat + burstBound)).run site with
  | ok _ middle =>
    rw [Act.result_of_ok hrun] at hloops
    obtain ⟨_, completed, hcomplete⟩ :=
      succeeds_changeHandle source ReceiveHandle.complete middle
    obtain ⟨tail, hrest, htrace, hconcludes⟩ := completed_spec hloops handler completed
    rw [Act.result_of_ok hrun]
    exact ⟨.ended none :: tail, hfollows, follows_burst hhandle ⟨hrun, hfollows⟩ hcomplete hrest,
      htrace, hconcludes⟩
  | error fault middle =>
    rw [Act.result_of_error hrun] at hloops
    obtain ⟨completed, hburst⟩ := follows_burst_failed hhandle hfollows hrun
    obtain ⟨tail, hrest, htrace, hconcludes⟩ := failed_spec hloops handler completed
    rw [Act.result_of_error hrun]
    exact ⟨.ended (some fault) :: tail, hfollows, hburst hrest, htrace, hconcludes⟩

/-- A burst begins with the endpoint open and the user of the channel ready for it. -/
def ReadyToRead (site : Site ε ω) : Prop :=
  Endpoint.isOpen site.endpoint = true ∧ site.channel.config.suspended = false

theorem run_holdsBack {site : Site ε ω} (hready : ReadyToRead site) :
    (holdsBack : SiteAct ε ω Bool).run site = .ok false site := by
  unfold holdsBack
  rw [Act.bind_of_ok (run_isOpen site), hready.1, if_pos rfl,
    Act.bind_of_ok (run_current site), hready.2]
  rfl

/-- Whatever a burst comes to, it settles its interest last. -/
theorem after_readReadyWith (handler : Handler ε ω) {source : HandleSource ω}
    {site begun : Site ε ω}
    (hready : ReadyToRead site)
    (hbegin : (beginBurst source : SiteAct ε ω Unit).run site = .ok () begun) :
    (readReadyWith handler source).after site = settleInterest.after
      ((burst handler source site.channel.config.allocator).after begun) := by
  unfold readReadyWith
  rw [Act.after_bind_of_ok (run_holdsBack hready)]
  exact (Act.after_bind_of_ok (run_current site)).trans
    ((Act.after_bind_of_ok hbegin).trans (Act.after_ensuring ..))

/-- The parts of a burst: the loop over the datagrams, from the site in which the burst has begun,
and what reports its end. -/
theorem readReadyWith_parts (handler : Handler ε ω) (source : HandleSource ω) {site : Site ε ω}
    (hready : ReadyToRead site) :
    ∃ begun bound loop tail, (beginBurst source : SiteAct ε ω Unit).run site = .ok () begun ∧
      Watched.Follows
        (watchAll handler source site.channel.config.allocator site.channel.connected bound)
        (readAll handler source site.channel.config.allocator site.channel.connected bound)
        begun loop ∧
      Watched.Follows (watchReadyWith handler source) (readReadyWith handler source) site
        (loop ++ tail ++ [.settled]) ∧
      BurstTrace site.channel.connected (loop ++ tail) ∧
      Concludes (faultOf? ((readAll handler source site.channel.config.allocator
        site.channel.connected bound).result begun)) tail := by
  obtain ⟨_, begun, hbegin⟩ := succeeds_beginBurst source site
  obtain ⟨bound, loop, tail, hloop, hfollows, htrace, hconcludes⟩ :=
    burst_spec handler source site.channel.config.allocator begun
  -- Failures are worded as for the channel that the burst began with.
  have hconnected : begun.channel.connected = site.channel.connected := by
    obtain ⟨_, _, _, hsite⟩ := within_beginBurst source site
    rw [Act.after_of_ok hbegin] at hsite
    rw [hsite]
    rfl
  rw [hconnected] at hloop htrace hconcludes
  unfold watchReadyWith readReadyWith
  exact ⟨begun, bound, loop, tail, hbegin, hloop, .quiet (run_holdsBack hready)
    (.quiet (run_current site) (.quiet hbegin
      (hfollows.ensuring (Watched.follows_noting settleInterest _ _)))), htrace, hconcludes⟩

end Burst

/-! ## Promises -/

/-- The failure that a callback tells of. -/
def Callback.failure? : Callback → Option Fault
  | .failure fault => some fault
  | _ => none

/-- The failures that the handler is told. -/
def failuresIn (trace : List BurstEvent) : List Fault :=
  (callbacksIn trace).filterMap Callback.failure?

/-- The failures that the handler is told are found among the callbacks. -/
theorem failuresIn_of_callbacks {trace : List BurstEvent} {packets : List Packet}
    {faults : List Fault}
    (h : callbacksIn trace = packets.map .packet ++ .readComplete :: faults.map .failure) :
    failuresIn trace = faults := by
  have hpackets : (packets.map Callback.packet).filterMap Callback.failure? = [] := by
    simp [Callback.failure?]
  have hfaults : (faults.map Callback.failure).filterMap Callback.failure? = faults := by
    rw [List.filterMap_map]
    exact List.filterMap_some
  rw [failuresIn, h, List.filterMap_append, hpackets, List.nil_append,
    List.filterMap_cons_none rfl, hfaults]

/-- What is promised of every burst. -/
structure Orderly (connected : Bool) (trace : List BurstEvent) : Prop where
  /-- The handler is told of packets, then once that the burst is over, then of at most one
  failure. -/
  callbacks : ∃ (packets : List Packet) (faults : List Fault),
    callbacksIn trace = packets.map .packet ++ .readComplete :: faults.map .failure ∧
      faults.length ≤ 1
  /-- The loop ends once, with the failure that was raised in it, if any. Unless the handler fails
  on hearing that the burst is over, it is told of this failure and of no other. -/
  failures : ∃ fault?, endingsIn trace = [fault?] ∧
    fault?.toList = (raisedIn trace).map (delivered connected) ∧
    ∀ stillOpen, .told .readComplete none stillOpen ∈ trace → failuresIn trace = fault?.toList
  /-- After a failure, or a callback that leaves the endpoint closed, nothing is received and no
  packet is handed on. -/
  stops : trace.Pairwise fun earlier later =>
    earlier.raised? ≠ none ∨ earlier.closes = true → later.inLoop = false
  /-- The burst settles once, at its end. -/
  settled : ∃ before, trace = before ++ [.settled] ∧ .settled ∉ before

namespace Loops

variable {connected : Bool} {loop rest : List BurstEvent} {fault? : Option Fault}

theorem callbacks (h : Loops connected loop fault?) :
    ∃ packets : List Packet, callbacksIn loop = packets.map .packet := by
  have hall := h.inLoop
  clear h
  induction loop with
  | nil => exact ⟨[], rfl⟩
  | cons event rest ih =>
    obtain ⟨packets, hpackets⟩ := ih fun event hmem => hall event (List.mem_cons_of_mem _ hmem)
    have hevent := hall event List.mem_cons_self
    cases event with
    | received => exact ⟨packets, hpackets⟩
    | failed place fault => exact ⟨packets, hpackets⟩
    | ended fault? => cases hevent
    | told callback fault? stillOpen =>
      cases callback with
      | packet packet =>
        exact ⟨packet :: packets, congrArg (List.cons (Callback.packet packet)) hpackets⟩
      | readComplete => cases hevent
      | failure fault => cases hevent
    | settled => cases hevent

/-- What is looked for outside of the loop is not found in it. -/
theorem filterMap_eq_nil {α : Type} (h : Loops connected loop fault?)
    {look : BurstEvent → Option α} (hlook : ∀ event, event.inLoop = true → look event = none) :
    loop.filterMap look = [] :=
  List.filterMap_eq_nil_iff.mpr fun event hmem => hlook event (h.inLoop event hmem)

theorem endingsIn_eq (h : Loops connected loop fault?) : endingsIn loop = [] :=
  h.filterMap_eq_nil fun event hevent => by
    unfold BurstEvent.inLoop at hevent
    unfold BurstEvent.ending?
    grind

theorem not_mem (h : Loops connected loop fault?) (event : BurstEvent)
    (hevent : event.inLoop = false) : event ∉ loop := by
  intro hmem
  have hin := h.inLoop event hmem
  rw [hevent] at hin
  cases hin

/-- Nothing of the loop comes after its end. -/
theorem stops (h : Loops connected loop fault?) (hrest : ∀ event ∈ rest, event.inLoop = false) :
    (loop ++ rest).Pairwise fun earlier later =>
      earlier.raised? ≠ none ∨ earlier.closes = true → later.inLoop = false := by
  refine List.pairwise_append.mpr ⟨h.last.imp ?_, ?_, fun _ _ event hmem _ => hrest event hmem⟩
  · rintro earlier later ⟨hnone, hopen⟩ (hraised | hclosed)
    · exact absurd hnone hraised
    · exact absurd hopen (by simp [hclosed])
  · exact List.pairwise_of_forall_mem_list fun _ _ event hmem _ => hrest event hmem

end Loops

/-- A trace that ends with the end of the burst, and perhaps a failure that the handler hears of,
keeps what is promised. -/
theorem Loops.orderly {connected : Bool} {loop : List BurstEvent} {fault? outcome : Option Fault}
    (h : Loops connected loop fault?) (stillOpen : Bool)
    (heard : Option (Fault × Option Fault × Bool))
    (hheard : outcome = none → heard.map (·.1) = fault?) :
    let tail := heard.toList.map fun (fault, outcome, on) => .told (.failure fault) outcome on
    Orderly connected
      (loop ++ .ended fault? :: .told .readComplete outcome stillOpen :: tail ++ [.settled]) := by
  intro tail
  have htail : ∀ event ∈ .ended fault? :: .told .readComplete outcome stillOpen :: tail,
      event.inLoop = false ∧ event ≠ .settled := by
    cases heard <;> simp [tail, BurstEvent.inLoop]
  obtain ⟨packets, hpackets⟩ := h.callbacks
  have hcallbacks : callbacksIn (loop ++ .ended fault? ::
      .told .readComplete outcome stillOpen :: tail ++ [.settled]) =
        packets.map .packet ++ .readComplete :: (heard.map (·.1)).toList.map .failure := by
    rw [List.append_assoc, callbacksIn_append, hpackets]
    cases heard <;> rfl
  constructor
  case callbacks => exact ⟨packets, _, hcallbacks, by cases heard <;> simp⟩
  case failures =>
    refine ⟨fault?, ?_, ?_, fun on hmem => ?_⟩
    · rw [List.append_assoc, endingsIn_append, h.endingsIn_eq]
      cases heard <;> rfl
    · rw [List.append_assoc, raisedIn_append, List.map_append, h.raised]
      cases heard <;> simp [tail, raisedIn, BurstEvent.raised?]
    · -- Only a handler that took the news of the end hears of a failure.
      have houtcome : outcome = none := by
        have hnot := h.not_mem (.told .readComplete none on) rfl
        cases heard <;> simp_all [tail]
      rw [failuresIn_of_callbacks hcallbacks, hheard houtcome]
  case stops =>
    rw [List.append_assoc]
    refine h.stops fun event hmem => ?_
    rcases List.mem_append.mp hmem with hmem | hmem
    · exact (htail event hmem).1
    · cases List.mem_singleton.mp hmem
      rfl
  case settled =>
    refine ⟨_, rfl, fun hmem => ?_⟩
    rcases List.mem_append.mp hmem with hmem | hmem
    · exact h.not_mem .settled rfl hmem
    · exact (htail _ hmem).2 rfl

/-- **A trace of a burst keeps what is promised.** -/
theorem BurstTrace.orderly {connected : Bool} {trace : List BurstEvent}
    (h : BurstTrace connected trace) : Orderly connected (trace ++ [.settled]) := by
  cases h with
  | completed hloop stillOpen => exact hloop.orderly stillOpen none fun _ => rfl
  | @failed loop fault hloop stillOpen outcome stillOpen' =>
    exact hloop.orderly stillOpen (some (fault, outcome, stillOpen')) fun _ => rfl
  | abandoned hloop fault stillOpen =>
    exact hloop.orderly stillOpen none fun h => by cases h

end UdpTransport.Channel
