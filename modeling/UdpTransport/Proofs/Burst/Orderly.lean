import UdpTransport.Proofs.Burst.Order
import UdpTransport.Proofs.Burst.Recording
import UdpTransport.Proofs.Interest.Tuning

/-!
# Every burst is orderly

What a burst notes keeps an order (`Orderly`). **The main result is `readReady_orderly`**: every
burst does what is noted of it, and the notes are borne out by what can be looked at (`Conducted`).
The record of the burst shows each callback in its place, with what it failed with and the endpoint
as it left it. What the notes call the end of the loop is the result of the loop, and the state that
the burst leaves is the one in which it settled once.
-/

namespace UdpTransport.Channel

variable {ε ω : Type}

/-! ## Settling -/

/-- A channel that is registered waits to read after a burst if it did when the callbacks were over,
and there is a reason to; the others do not wait any more. -/
def Settles (left site : Site ε ω) : Prop :=
  ∀ registration, left.channel.registration = some registration →
    left.host.native.board.Live registration → left.host.native.board.Obliging →
    site.host.native.board.waits registration left.channel.name .reading =
      (left.host.native.board.waits registration left.channel.name .reading &&
        (left.channel.readPending || left.channel.config.autoRead))

theorem settles_settleInterest [Endpoint ε] (left : Site ε ω) :
    Settles left ((settleInterest : SiteAct ε ω Unit).after left) := by
  intro registration hregistration hlive hobliging
  have hreport := within_report (R := Act.Fixing (stance : Site ε ω → Stance)) fun _ _ _ =>
    within_stance_log _ _ _
  unfold settleInterest
  rw [Act.after_bind_of_ok (run_current left)]
  by_cases hreason : (!left.channel.readPending && !left.channel.config.autoRead) = true
  · -- Without a reason the interest is withdrawn, and the registration is told.
    rcases setReadInterest_cases left hregistration hlive false with
      ⟨native, hrun, htold⟩ | ⟨hrefused, -⟩
    · have hboard := congrArg Stance.board
        (hreport (left.withNative (left.endpoint, native)))
      rw [if_pos hreason, Act.after_bind_of_ok hrun]
      refine (congrArg (Board.waits · registration left.channel.name .reading) hboard).trans ?_
      refine ((htold.waits .reading).trans (if_pos rfl)).trans ?_
      simp only [Bool.and_eq_true, Bool.not_eq_true'] at hreason
      simp [hreason]
    · exact absurd hobliging hrefused
  · have hboard := congrArg Stance.board (hreport left)
    rw [if_neg hreason]
    refine (congrArg (Board.waits · registration left.channel.name .reading) hboard).trans ?_
    have hsome : (left.channel.readPending || left.channel.config.autoRead) = true := by
      cases hpending : left.channel.readPending <;> simp_all
    rw [hsome, Bool.and_true]
    rfl

/-! ## What the record shows -/

section Record

variable [Endpoint ε]

/-- What is promised of the record of a burst, by what its loop ended with. -/
structure Heard (outcome : Option Fault) (seen : List (Sighting ε ω)) : Prop where
  /-- The handler is told of packets, then once that the burst is over, then of at most one failure.
  If it did not fail on hearing that the burst is over, it is told of what ended the loop. -/
  callbacks : ∃ (packets : List Packet) (faults : List Fault),
    seen.filterMap Sighting.callback? =
        packets.map .packet ++ .readComplete :: faults.map .failure ∧
      faults.length ≤ 1 ∧
      ∀ before after, .told .readComplete before none after ∈ seen → faults = outcome.toList
  /-- After a callback that fails or leaves the endpoint closed, the endpoint is not asked for a
  datagram and no packet is handed on. -/
  stops : seen.Pairwise fun earlier later =>
    earlier.note.raised? ≠ none ∨ earlier.note.closes = true → later.note.inLoop = false

/-- The record of a burst whose notes are in order is in order. -/
theorem Orderly.heard {connected : Bool} {notes : List BurstEvent} (h : Orderly connected notes)
    {outcome : Option Fault} (hended : endingsIn notes = [outcome]) {seen : List (Sighting ε ω)}
    (hseen : Recounts seen notes) : Heard outcome seen where
  callbacks := by
    obtain ⟨packets, faults, hcallbacks, hone⟩ := h.callbacks
    obtain ⟨fault?, hending, -, hheard⟩ := h.failures
    cases hended.symm.trans hending
    refine ⟨packets, faults, hseen.callbacks.trans hcallbacks, hone, fun before after hmem => ?_⟩
    have hnoted := hseen.sublist.mem (List.mem_map_of_mem hmem)
    rw [← failuresIn_of_callbacks hcallbacks]
    exact hheard _ hnoted
  stops := List.pairwise_map.mp (h.stops.sublist hseen.sublist)

end Record

/-! ## Every burst -/

/-- Only a refusal is said in other words, and keeps its code, its wording and itself as the
cause. -/
theorem ofConnectedRead_cases (fault : Fault) :
    (∃ call, fault = .native call ErrorCode.refused ∧
        fault.ofConnectedRead =
          .because (.portUnreachable ErrorCode.refused fault.message) fault ∧
        fault.ofConnectedRead.message = fault.message) ∨
      (∀ call, fault ≠ .native call ErrorCode.refused) ∧ fault.ofConnectedRead = fault := by
  have hmessage := (Fault.message_ofConnectedRead fault).1
  by_cases hrefused : ∃ call, fault = .native call ErrorCode.refused
  · obtain ⟨call, rfl⟩ := hrefused
    exact .inl ⟨call, rfl, by simp [Fault.ofConnectedRead], hmessage⟩
  · refine .inr ⟨fun call heq => hrefused ⟨call, heq⟩, ?_⟩
    unfold Fault.ofConnectedRead
    split
    · rename_i call code
      refine if_neg fun hcode => hrefused ⟨call, ?_⟩
      rw [hcode]
    · rfl

/-- A burst goes as it is noted, and the notes are borne out by what can be looked at. `act` is the
burst, `opening` what it does before its loop, and `act'` the same burst over an endpoint that keeps
a record. -/
structure Conducted [Endpoint ε] (handler : Handler ε ω) (source : HandleSource ω)
    (opening : SiteAct ε ω Unit) (watched : BurstAct ε ω Unit) (act : SiteAct ε ω Unit)
    (act' : SiteAct (Recorded ε ω) ω Unit) (site : Site ε ω) : Prop where
  follows : Watched.Follows watched act site (Watched.notes watched site)
  orderly : Orderly site.channel.connected (Watched.notes watched site)
  /-- The record of the burst tells what is noted. What the notes call the end of the loop is what
  the loop came to, and the burst settles once, after everything else. -/
  borneOut : ∃ begun bound seen, opening.run site = .ok () begun ∧
    let allocator := site.channel.config.allocator
    let outcome := faultOf?
      ((readAll handler source allocator site.channel.connected bound).result begun)
    let left := (burst handler source allocator).after begun
    endingsIn (Watched.notes watched site) = [outcome] ∧
    Seen act' act site seen ∧ Recounts seen (Watched.notes watched site) ∧ Heard outcome seen ∧
    act.after site = settleInterest.after left ∧ Settles left (act.after site)

theorem conducted_readReadyWith [Endpoint ε] (handler : Handler ε ω) (source : HandleSource ω)
    {site : Site ε ω} (hready : ReadyToRead site) :
    Conducted handler source (beginBurst source) (watchReadyWith handler source)
      (readReadyWith handler source) (readReadyWith (recording handler) source) site := by
  obtain ⟨begun, bound, loop, tail, hbegin, -, hfollows, htrace, hconcludes⟩ :=
    readReadyWith_parts handler source hready
  have horderly := htrace.orderly
  obtain ⟨seen, hseen, hrecounts⟩ :=
    seen_of_follows hfollows (recollects_readReadyWith handler source)
  -- The loop ends once, so it ends with what comes right after it.
  obtain ⟨fault?, hended, -⟩ := horderly.failures
  have houtcome : endingsIn (loop ++ tail ++ [.settled]) =
      [faultOf? ((readAll handler source site.channel.config.allocator site.channel.connected
        bound).result begun)] := by
    have hsettled : endingsIn [BurstEvent.settled] = [] := rfl
    rw [endingsIn_append, endingsIn_append, hconcludes.ended, hsettled, List.append_nil]
      at hended ⊢
    obtain ⟨hloop, -⟩ := List.append_inj' (hended.trans (List.nil_append [fault?]).symm) rfl
    rw [hloop, List.nil_append]
  have hafter := after_readReadyWith handler hready hbegin
  have hnotes := hfollows.notes_eq
  rw [← hnotes] at hfollows horderly houtcome hrecounts
  exact ⟨hfollows, horderly, begun, bound, seen, hbegin, houtcome, hseen, hrecounts,
    horderly.heard houtcome hrecounts, hafter, hafter ▸ settles_settleInterest _⟩

/-- **Every burst is orderly**, with the channel's own handle or one that is lent to it, whatever
the endpoint answers and whatever the handler does. -/
theorem readReady_orderly [Endpoint ε] (handler : Handler ε ω) {site : Site ε ω}
    (hready : ReadyToRead site) :
    Conducted handler .own (do prepareHandle; beginBurst .own) (watchReady handler)
      (readReady handler) (readReady (recording handler)) site ∧
    (∀ source, Conducted handler source (beginBurst source) (watchReadyWith handler source)
      (readReadyWith handler source) (readReadyWith (recording handler) source) site) ∧
    ∀ fault : Fault,
      (∃ call, fault = .native call ErrorCode.refused ∧
          fault.ofConnectedRead =
            .because (.portUnreachable ErrorCode.refused fault.message) fault ∧
          fault.ofConnectedRead.message = fault.message) ∨
        (∀ call, fault ≠ .native call ErrorCode.refused) ∧ fault.ofConnectedRead = fault := by
  refine ⟨?_, fun source => conducted_readReadyWith handler source hready, ofConnectedRead_cases⟩
  let made := site.withChannel { site.channel with handle := some (ownHandle site) }
  have hmade : ReadyToRead made := hready
  have hprepare : (prepareHandle : SiteAct ε ω Unit).run site = .ok () made :=
    run_prepareHandle site
  have hconducted := conducted_readReadyWith handler .own hmade
  obtain ⟨begun, bound, _, hbegin, hended, -, -, -, hafter, hsettles⟩ := hconducted.borneOut
  -- Preparing the handle makes no sound, so the notes are those of the burst with it.
  have hfollows : Watched.Follows (watchReady handler) (readReady handler) site
      (Watched.notes (watchReadyWith handler .own) made) := .quiet hprepare hconducted.follows
  obtain ⟨seen, hseen, hrecounts⟩ := seen_of_follows hfollows (recollects_readReady handler)
  have hleft : (readReady handler).after site = (readReadyWith handler .own).after made :=
    Act.after_bind_of_ok hprepare
  rw [← hleft] at hafter hsettles
  have hnotes := hfollows.notes_eq
  have horderly := hconducted.orderly
  rw [← hnotes] at hfollows hended hrecounts horderly
  exact ⟨hfollows, horderly, begun, bound, seen, (Act.bind_of_ok hprepare).trans hbegin, hended,
    hseen, hrecounts, horderly.heard hended hrecounts, hafter, hsettles⟩

/-- A connected burst that delivers one datagram and then learns that the peer refused another. -/
theorem readReady_orderly_refused :
    let site : Site MemoryEndpoint Unit :=
      { channel :=
          { name := "a", config := { allocator := 0, policy := 0 }, connected := true }
        endpoint :=
          { channel := "a"
            inbound := [.datagram [1] .unspecified none none,
              .failed (.native "recv" ErrorCode.refused)] }
        host := { ledger := ⟨[{ kind := .heap }]⟩ }
        outside := () }
    let handler : Handler MemoryEndpoint Unit := fun _ => pure ()
    ReadyToRead site ∧
      Conducted handler .own (do prepareHandle; beginBurst .own) (watchReady handler)
        (readReady handler) (readReady (recording handler)) site := by
  intro site handler
  have hready : ReadyToRead site := ⟨rfl, rfl⟩
  exact ⟨hready, (readReady_orderly handler hready).1⟩

end UdpTransport.Channel
