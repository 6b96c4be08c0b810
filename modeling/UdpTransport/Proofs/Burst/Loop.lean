import UdpTransport.Proofs.Burst.Handle
import UdpTransport.Proofs.Burst.Watch

/-!
# The loop over the datagrams of a burst

What is noted in the loop, and what it ends with. A failure is noted where it is raised and ends the
loop (`Fetches` for one datagram, `Loops` for all of them), and it is the one that the loop fails
with, but for the wording of connected receives (`delivered`). The main result is `loops_all`.
-/

namespace UdpTransport.Channel

variable {ε ω α β : Type}

theorem succeeds_discard (buffer : Buffer) :
    (liftM (Ledger.discard buffer) : SiteAct ε ω Unit).Succeeds := fun site =>
  ⟨(), _, run_discard buffer site⟩

/-! ## Fetching a datagram -/

/-- The failure that a caller gets to see. Only what a connected receive fails with is said in other
words. -/
def delivered (connected : Bool) : BurstPlace × Fault → Fault
  | (.receive, fault) => if connected then fault.ofConnectedRead else fault
  | (_, fault) => fault

namespace BurstEvent

/-- The failure that an event brings the loop to its end with. -/
def raised? : BurstEvent → Option (BurstPlace × Fault)
  | failed place fault => some (place, fault)
  | told (.packet _) (some fault) _ => some (.callback, fault)
  | _ => none

/-- Whether an event is part of the loop over the datagrams. -/
def inLoop : BurstEvent → Bool
  | received | failed .. | told (.packet _) .. => true
  | _ => false

/-- Whether the endpoint is closed after a callback. -/
def closes : BurstEvent → Bool
  | told _ _ stillOpen => !stillOpen
  | _ => false

/-- Whether an event belongs to fetching a datagram. -/
def fetching : BurstEvent → Bool
  | received | failed .. => true
  | _ => false

end BurstEvent

/-- The failures in a trace that end a loop. -/
def raisedIn (trace : List BurstEvent) : List (BurstPlace × Fault) :=
  trace.filterMap BurstEvent.raised?

/-- Faults are raised one after the other. -/
theorem raisedIn_append (first second : List BurstEvent) :
    raisedIn (first ++ second) = raisedIn first ++ raisedIn second :=
  List.filterMap_append

/-- What is noted while a datagram is fetched: it fails iff something was raised. -/
structure Fetches (connected : Bool) (trace : List BurstEvent) (fault? : Option Fault) : Prop where
  fetching : ∀ event ∈ trace, event.fetching
  raised : (raisedIn trace).map (delivered connected) = fault?.toList
  last : trace.Pairwise fun earlier _ => earlier.raised? = none

/-- From a site, a watched step does what the original does and fetches. -/
def FetchesAt (connected : Bool) (watched : BurstAct ε ω α) (act : SiteAct ε ω α)
    (site : Site ε ω) : Prop :=
  ∃ trace, Watched.Follows watched act site trace ∧
    Fetches connected trace (faultOf? (act.result site))

namespace Fetches

variable {connected : Bool} {first second : List BurstEvent} {fault? : Option Fault}

theorem nil (connected : Bool) : Fetches connected [] none where
  fetching := by simp
  raised := rfl
  last := .nil

/-- Where fetching went well nothing was raised. -/
theorem raised?_eq_none (h : Fetches connected first none) :
    ∀ event ∈ first, event.raised? = none := by
  have hnone : raisedIn first = [] := List.map_eq_nil_iff.mp h.raised
  exact List.filterMap_eq_nil_iff.mp hnone

/-- To fetch a datagram is to call nobody. -/
theorem closes (h : Fetches connected first fault?) : ∀ event ∈ first, event.closes = false := by
  intro event hmem
  have hfetching := h.fetching event hmem
  cases event <;> simp_all [BurstEvent.fetching, BurstEvent.closes]

theorem append (hfirst : Fetches connected first none)
    (hsecond : Fetches connected second fault?) : Fetches connected (first ++ second) fault? where
  fetching event hmem :=
    (List.mem_append.mp hmem).elim (hfirst.fetching event) (hsecond.fetching event)
  raised := by
    rw [raisedIn_append, List.map_append, hfirst.raised, hsecond.raised]
    rfl
  last := List.pairwise_append.mpr
    ⟨hfirst.last, hsecond.last, fun event hmem _ _ => hfirst.raised?_eq_none event hmem⟩

end Fetches

namespace FetchesAt

variable {connected : Bool} {watched : BurstAct ε ω α} {act : SiteAct ε ω α}
  {later : α → BurstAct ε ω β} {next : α → SiteAct ε ω β} {site : Site ε ω}

theorem pure (connected : Bool) (a : α) (site : Site ε ω) :
    FetchesAt connected (pure a : BurstAct ε ω α) (pure a) site :=
  ⟨[], Watched.follows_pure a site, .nil connected⟩

/-- What follows a successful stretch. -/
theorem bind (h : FetchesAt connected watched act site)
    (hnext : ∀ a middle, act.run site = .ok a middle →
      FetchesAt connected (later a) (next a) middle) :
    FetchesAt connected (watched >>= later) (act >>= next) site := by
  obtain ⟨first, hfollows, hfetches⟩ := h
  cases hrun : act.run site with
  | ok a middle =>
    obtain ⟨second, hfollows₂, hfetches₂⟩ := hnext a middle hrun
    refine ⟨first ++ second, hfollows.bind_ok hrun hfollows₂, ?_⟩
    rw [Act.result_of_ok hrun] at hfetches
    rw [Act.result_congr (Act.bind_of_ok hrun)]
    exact hfetches.append hfetches₂
  | error fault middle =>
    refine ⟨first, hfollows.bind_error hrun, ?_⟩
    rw [Act.result_of_error hrun] at hfetches
    rw [Act.result_of_error (Act.bind_of_error hrun)]
    exact hfetches

/-- What never fails and notes nothing. -/
theorem quiet (h : act.Succeeds) (site : Site ε ω) :
    FetchesAt connected (Watched.quietly act) act site := by
  obtain ⟨a, site', hrun⟩ := h site
  refine ⟨[], Watched.follows_quietly act site, ?_⟩
  rw [Act.result_of_ok hrun]
  exact .nil connected

/-- A failure that is caught, and raised again after a step of no interest. -/
theorem captured {later : Except Fault α → BurstAct ε ω β} {next : Except Fault α → SiteAct ε ω β}
    (h : FetchesAt connected watched act site)
    (hok : ∀ a middle, act.run site = .ok a middle →
      FetchesAt connected (later (.ok a)) (next (.ok a)) middle)
    (herror : ∀ fault middle, act.run site = .error fault middle →
      Watched.Follows (later (.error fault)) (next (.error fault)) middle [] ∧
        (next (.error fault)).result middle = .error fault) :
    FetchesAt connected (watched.capture >>= later) (act.capture >>= next) site := by
  obtain ⟨first, hfollows, hfetches⟩ := h
  cases hrun : act.run site with
  | ok a middle =>
    have hcapture := Act.run_capture_ok hrun
    obtain ⟨second, hfollows₂, hfetches₂⟩ := hok a middle hrun
    refine ⟨first ++ second, hfollows.capture.bind_ok hcapture hfollows₂, ?_⟩
    rw [Act.result_of_ok hrun] at hfetches
    rw [Act.result_congr (Act.bind_of_ok hcapture)]
    exact hfetches.append hfetches₂
  | error fault middle =>
    have hcapture := Act.run_capture_error hrun
    obtain ⟨hfollows₂, hresult⟩ := herror fault middle hrun
    refine ⟨first ++ [], hfollows.capture.bind_ok hcapture hfollows₂, ?_⟩
    rw [Act.result_of_error hrun] at hfetches
    rw [Act.result_congr (Act.bind_of_ok hcapture), hresult, List.append_nil]
    exact hfetches

/-- A failure outside of the receive is passed on as it is. -/
theorem failing {place : BurstPlace} (hplace : place ≠ .receive) (act : SiteAct ε ω α)
    (site : Site ε ω) :
    FetchesAt connected (Watched.noting act (failureAt place)) act site := by
  refine ⟨_, Watched.follows_noting act _ site, ?_⟩
  cases act.result site with
  | ok a => exact .nil connected
  | error fault =>
    refine ⟨by simp [failureAt, faultOf?, BurstEvent.fetching], ?_, by simp [failureAt, faultOf?]⟩
    cases place with
    | receive => exact absurd rfl hplace
    | allocation => rfl
    | address => rfl
    | cursor => rfl
    | callback => rfl

/-- Nor is a failure of an unconnected receive said in other words. -/
theorem receiving (act : SiteAct ε ω α) (site : Site ε ω) :
    FetchesAt false (Watched.noting act receipt) act site := by
  refine ⟨_, Watched.follows_noting act _ site, ?_⟩
  cases act.result site <;>
    exact ⟨by simp [receipt, failureAt, faultOf?, BurstEvent.fetching], rfl,
      by simp [receipt, failureAt, faultOf?, BurstEvent.raised?]⟩

/-- A failure of a connected receive is. -/
theorem receivingConnected (act : SiteAct ε ω α) (site : Site ε ω) :
    FetchesAt true (connectedRead (Watched.noting act receipt)) (connectedRead act) site := by
  have hfollows := (Watched.follows_noting act receipt site).capture
  cases hrun : act.run site with
  | ok a site' =>
    rw [Act.result_of_ok hrun] at hfollows
    refine ⟨_, hfollows.bind_ok (Act.run_capture_ok hrun) (Watched.follows_pure a site'), ?_⟩
    have hresult : (connectedRead act).result site = .ok a :=
      Act.result_of_ok (Act.bind_of_ok (Act.run_capture_ok hrun))
    rw [hresult]
    exact ⟨by simp [receipt, failureAt, faultOf?, BurstEvent.fetching], rfl,
      by simp [receipt, failureAt, faultOf?]⟩
  | error fault site' =>
    rw [Act.result_of_error hrun] at hfollows
    refine ⟨_, hfollows.bind_ok (Act.run_capture_error hrun)
      (Watched.follows_throw fault.ofConnectedRead site'), ?_⟩
    have hresult : (connectedRead act).result site = .error fault.ofConnectedRead :=
      Act.result_of_error (Act.bind_of_ok (Act.run_capture_error hrun))
    rw [hresult]
    exact ⟨by simp [receipt, failureAt, faultOf?, BurstEvent.fetching], rfl,
      by simp [receipt, failureAt, faultOf?, BurstEvent.raised?]⟩

end FetchesAt

section Fetching

variable [Endpoint ε]

/-- On a connected channel a receipt that fails may say that a port is unreachable. -/
theorem fetches_connected (source : HandleSource ω) (data : Buffer) (site : Site ε ω) :
    FetchesAt true (watchConnected source data) (nextConnected source data) site := by
  refine .bind (.receivingConnected _ site) fun (data, amount) middle _ => ?_
  refine .bind (.quiet (succeeds_changeHandle source _) middle) fun _ middle _ => ?_
  split
  · exact .pure true none middle
  · refine .bind (.failing (by decide) remoteAddress middle) fun sender middle _ => ?_
    refine .bind (.failing (by decide) localAddress middle) fun recipient middle _ => ?_
    exact .pure true _ middle

omit [Endpoint ε] in
/-- The cursor is moved whichever way the recipient was found. -/
theorem fetches_takeIn (source : HandleSource ω) (data : Buffer) (received : Received)
    (recipient : Option Address) (site : Site ε ω) :
    FetchesAt false (watchTakeIn source data received recipient)
      (takeIn source data received recipient) site := by
  refine .bind (.quiet (succeeds_changeHandle source _) site) fun _ middle _ => ?_
  refine .bind (.failing (by decide) _ middle) fun data middle _ => ?_
  exact .pure false _ middle

/-- On an unconnected one it is raised as it is. -/
theorem fetches_unconnected (source : HandleSource ω) (data : Buffer) (site : Site ε ω) :
    FetchesAt false (watchUnconnected source data) (nextUnconnected source data) site := by
  refine .bind (.receiving _ site) fun (data, received?) middle _ => ?_
  cases received? with
  | none =>
    refine .bind (.quiet (succeeds_changeHandle source _) middle) fun _ middle _ => ?_
    exact .pure false none middle
  | some received =>
    dsimp only
    cases received.local? with
    | some address =>
      exact .bind (.pure false (some address) middle) fun recipient middle _ =>
        fetches_takeIn source data received recipient middle
    | none =>
      exact .bind (.failing (by decide) localAddress middle) fun recipient middle _ =>
        fetches_takeIn source data received recipient middle

/-- With memory around it, which may fail before the endpoint is asked. -/
theorem fetches_fetch (source : HandleSource ω) (allocator : AllocatorId) (connected : Bool)
    (site : Site ε ω) :
    FetchesAt connected (watchFetch source allocator connected)
      (fetch source allocator connected) site := by
  refine .bind (.quiet (succeeds_handleNow source) site) fun handle middle _ => ?_
  refine .bind (.failing (by decide) _ middle) fun data middle _ => ?_
  refine .bind (.quiet (succeeds_changeHandle source _) middle) fun _ middle _ => ?_
  have hnext : FetchesAt connected
      (if connected then watchConnected source data else watchUnconnected source data)
      (if connected then nextConnected source data else nextUnconnected source data) middle := by
    cases connected with
    | true => exact fetches_connected source data middle
    | false => exact fetches_unconnected source data middle
  refine .captured hnext (fun packet? middle _ => ?_) fun fault middle _ => ?_
  · cases packet? with
    | none =>
      refine .bind (.quiet (succeeds_discard data) middle) fun _ middle _ => ?_
      exact .pure connected none middle
    | some packet => exact .pure connected (some packet) middle
  · exact ⟨.quiet (run_discard data middle) (Watched.follows_throw fault _),
      Act.result_of_error (Act.bind_of_ok (run_discard data middle))⟩

/-! ## The loop -/

/-- What is noted in the loop over the datagrams: nothing of it comes after a failure, or after a
callback that leaves the endpoint closed. -/
structure Loops (connected : Bool) (trace : List BurstEvent) (fault? : Option Fault) : Prop where
  inLoop : ∀ event ∈ trace, event.inLoop
  raised : (raisedIn trace).map (delivered connected) = fault?.toList
  last : trace.Pairwise fun earlier _ => earlier.raised? = none ∧ earlier.closes = false

namespace Loops

variable {connected : Bool} {first second : List BurstEvent} {fault? : Option Fault}

/-- A stretch of fetching is one of the loop. -/
theorem of_fetches (h : Fetches connected first fault?) : Loops connected first fault? where
  inLoop event hmem := by
    have hfetching := h.fetching event hmem
    cases event <;> simp_all [BurstEvent.fetching, BurstEvent.inLoop]
  raised := h.raised
  last := h.last.imp_of_mem fun {earlier _} hmem _ hnone => ⟨hnone, h.closes earlier hmem⟩

theorem append (hfirst : Loops connected first none)
    (hopen : ∀ event ∈ first, event.closes = false) (hsecond : Loops connected second fault?) :
    Loops connected (first ++ second) fault? where
  inLoop event hmem := (List.mem_append.mp hmem).elim (hfirst.inLoop event) (hsecond.inLoop event)
  raised := by
    rw [raisedIn_append, List.map_append, hfirst.raised, hsecond.raised]
    rfl
  last := by
    have hnone : raisedIn first = [] := List.map_eq_nil_iff.mp hfirst.raised
    refine List.pairwise_append.mpr ⟨hfirst.last, hsecond.last, fun event hmem _ _ => ?_⟩
    exact ⟨List.filterMap_eq_nil_iff.mp hnone event hmem, hopen event hmem⟩

end Loops

/-- A callback is noted with its outcome, and whether the channel is open after it. -/
theorem follows_watchTell (handler : Handler ε ω) (callback : Callback) (site : Site ε ω) :
    Watched.Follows (watchTell handler callback) (tell handler callback) site
      [.told callback (faultOf? ((tell handler callback).result site))
        (Endpoint.isOpen ((tell handler callback).after site).endpoint)] :=
  Watched.follows_noting _ _ site

/-- A burst goes on only while the endpoint is open. -/
theorem run_goesOn (source : HandleSource ω) (site : Site ε ω) :
    ∃ on, (goesOn source : SiteAct ε ω Bool).run site = .ok on site ∧
      (on = true → Endpoint.isOpen site.endpoint = true) := by
  unfold goesOn
  rw [Act.bind_of_ok (run_isOpen site)]
  cases hopen : Endpoint.isOpen site.endpoint with
  | false => exact ⟨false, rfl, fun h => by cases h⟩
  | true =>
    cases source with
    | own => exact ⟨_, rfl, fun _ => rfl⟩
    | lent handle => exact ⟨_, rfl, fun _ => rfl⟩

/-- From a site, a watched step does what the original does and is a part of the loop. If the burst
goes on after it, no callback has left the endpoint closed. -/
def LoopsAt (connected : Bool) (watched : BurstAct ε ω Bool) (act : SiteAct ε ω Bool)
    (site : Site ε ω) : Prop :=
  ∃ trace, Watched.Follows watched act site trace ∧
    Loops connected trace (faultOf? (act.result site)) ∧
    (act.result site = .ok true → ∀ event ∈ trace, event.closes = false)

omit [Endpoint ε] in
theorem LoopsAt.of_fetches {connected : Bool} {watched : BurstAct ε ω Bool}
    {act : SiteAct ε ω Bool} {site : Site ε ω} (h : FetchesAt connected watched act site) :
    LoopsAt connected watched act site := by
  obtain ⟨trace, hfollows, hfetches⟩ := h
  exact ⟨trace, hfollows, .of_fetches hfetches, fun _ => hfetches.closes⟩

omit [Endpoint ε] in
/-- What was fetched is handed on. -/
theorem LoopsAt.bind {connected : Bool} {watched : BurstAct ε ω α} {act : SiteAct ε ω α}
    {later : α → BurstAct ε ω Bool} {next : α → SiteAct ε ω Bool} {site : Site ε ω}
    (h : FetchesAt connected watched act site)
    (hnext : ∀ a middle, act.run site = .ok a middle →
      LoopsAt connected (later a) (next a) middle) :
    LoopsAt connected (watched >>= later) (act >>= next) site := by
  obtain ⟨first, hfollows, hfetches⟩ := h
  -- A fetch closes nothing, so whether the loop closed is told by what comes after.
  cases hrun : act.run site with
  | ok a middle =>
    obtain ⟨second, hfollows₂, hloops, hopen⟩ := hnext a middle hrun
    rw [Act.result_of_ok hrun] at hfetches
    refine ⟨first ++ second, hfollows.bind_ok hrun hfollows₂, ?_, fun hgoes event hmem => ?_⟩
    · rw [Act.result_congr (Act.bind_of_ok hrun)]
      exact (Loops.of_fetches hfetches).append hfetches.closes hloops
    · rw [Act.result_congr (Act.bind_of_ok hrun)] at hgoes
      exact (List.mem_append.mp hmem).elim (hfetches.closes event) (hopen hgoes event)
  | error fault middle =>
    have hresult : (act >>= next).result site = .error fault :=
      Act.result_of_error (Act.bind_of_error hrun)
    rw [Act.result_of_error hrun] at hfetches
    refine ⟨first, hfollows.bind_error hrun, ?_, fun hgoes => ?_⟩
    · rw [hresult]
      exact .of_fetches hfetches
    · rw [hresult] at hgoes
      cases hgoes

/-- A packet that is handed on is told once, and its handler may fail or close. -/
theorem loops_handOn (handler : Handler ε ω) (source : HandleSource ω) (packet : Packet)
    (connected : Bool) (site : Site ε ω) :
    LoopsAt connected (watchHandOn handler source packet) (handOn handler source packet) site := by
  refine .bind (.quiet (succeeds_changeHandle source _) site) fun _ middle _ => ?_
  refine .bind (.quiet (Act.succeeds_modify _) middle) fun _ middle _ => ?_
  have hfollows := follows_watchTell handler (.packet packet) middle
  cases htell : (tell handler (.packet packet)).run middle with
  | ok _ told =>
    -- The burst goes on only if the handler left the endpoint open.
    obtain ⟨on, hrun, hopen⟩ := run_goesOn source told
    rw [Act.result_of_ok htell, Act.after_of_ok htell] at hfollows
    refine ⟨_, hfollows.bind_ok htell (Watched.follows_quietly _ told), ?_, fun hgoes => ?_⟩
    · rw [Act.result_congr (Act.bind_of_ok htell), Act.result_of_ok hrun]
      exact ⟨by simp [BurstEvent.inLoop], rfl, by simp⟩
    · rw [Act.result_congr (Act.bind_of_ok htell), Act.result_of_ok hrun] at hgoes
      cases hgoes
      simp [BurstEvent.closes, hopen rfl]
  | error fault told =>
    have hresult : (tell handler (.packet packet) >>= fun _ => goesOn source).result middle =
        .error fault := Act.result_of_error (Act.bind_of_error htell)
    rw [Act.result_of_error htell, Act.after_of_error htell] at hfollows
    refine ⟨_, hfollows.bind_error htell, ?_, fun hgoes => ?_⟩
    · rw [hresult]
      exact ⟨by simp [BurstEvent.inLoop], rfl, by simp⟩
    · rw [hresult] at hgoes
      cases hgoes

/-- One round of the loop. -/
theorem loops_one (handler : Handler ε ω) (source : HandleSource ω) (allocator : AllocatorId)
    (connected : Bool) (site : Site ε ω) :
    LoopsAt connected (watchOne handler source allocator connected)
      (readOne handler source allocator connected) site := by
  refine .bind (fetches_fetch source allocator connected site) fun packet? middle _ => ?_
  cases packet? with
  | none => exact .of_fetches (.pure connected false middle)
  | some packet => exact loops_handOn handler source packet connected middle

/-- **The loop over the datagrams**, by induction on the number of datagrams that it may read. -/
theorem loops_all (handler : Handler ε ω) (source : HandleSource ω) (allocator : AllocatorId)
    (connected : Bool) (bound : Nat) (site : Site ε ω) :
    ∃ trace, Watched.Follows (watchAll handler source allocator connected bound)
        (readAll handler source allocator connected bound) site trace ∧
      Loops connected trace
        (faultOf? ((readAll handler source allocator connected bound).result site)) := by
  induction bound generalizing site with
  | zero => exact ⟨[], Watched.follows_pure () site, .of_fetches (.nil connected)⟩
  | succ bound ih =>
    obtain ⟨first, hfollows, hloops, hopen⟩ :=
      loops_one handler source allocator connected site
    cases hrun : (readOne handler source allocator connected).run site with
    | ok on middle =>
      rw [Act.result_of_ok hrun] at hloops hopen
      cases on with
      | true =>
        -- Nothing was raised and the endpoint is open, so more may come after it.
        obtain ⟨second, hfollows₂, hloops₂⟩ := ih middle
        refine ⟨first ++ second, hfollows.bind_ok hrun hfollows₂, ?_⟩
        have hresult : (readAll handler source allocator connected (bound + 1)).result site =
            (readAll handler source allocator connected bound).result middle :=
          Act.result_congr (Act.bind_of_ok hrun)
        rw [hresult]
        exact hloops.append (hopen rfl) hloops₂
      | false =>
        refine ⟨first ++ [], hfollows.bind_ok hrun (Watched.follows_pure () middle), ?_⟩
        have hresult : (readAll handler source allocator connected (bound + 1)).result site =
            .ok () := Act.result_of_ok (Act.bind_of_ok hrun)
        rw [hresult, List.append_nil]
        exact hloops
    | error fault middle =>
      rw [Act.result_of_error hrun] at hloops
      refine ⟨first, hfollows.bind_error hrun, ?_⟩
      have hresult : (readAll handler source allocator connected (bound + 1)).result site =
          .error fault := Act.result_of_error (Act.bind_of_error hrun)
      rw [hresult]
      exact hloops

end Fetching

end UdpTransport.Channel
