import UdpTransport.Proofs.Burst.Watch
import UdpTransport.Proofs.Mirrors

/-!
# Recording a burst

What a watched burst notes is a fact about the burst as far as something outside of it can tell the
same. Here the burst itself is run over an endpoint that keeps a record (`Recorded`), with a handler
that enters into the same record where it was called and how it left (`recording`). Nobody can tell
the difference: the recorded burst gives what the burst gives and leaves what the burst leaves, its
record apart (`Seen`).

**The main result is `recollects_readReadyWith`**: the record is what the watched burst notes, as
far as a record can be kept of it. Each callback that is noted was made once, with the outcome that
is noted, each time that the endpoint is asked is noted, and all of that in the order of the notes
(`Recounts`).
-/

namespace UdpTransport

/-! ## Records -/

/-- Something that is seen of a burst from outside. -/
inductive Sighting (ε ω : Type) where
  /-- The endpoint was asked for a datagram. -/
  | asked
  /-- The handler was told something: the site that it found, what it failed with, and the site that
  it left. -/
  | told (callback : Callback) (before : Site ε ω) (fault? : Option Fault) (after : Site ε ω)

/-- An endpoint that keeps a record. -/
structure Recorded (ε ω : Type) where
  endpoint : ε
  seen : List (Sighting ε ω)

namespace Recorded

variable {ε ω α : Type}

/-- An operation of the endpoint below. -/
def through (act : NativeAct ε α) : NativeAct (Recorded ε ω) α :=
  Act.focus (fun s => (s.1.endpoint, s.2))
    (fun part s => ({ s.1 with endpoint := part.1 }, part.2)) act

/-- Asks the endpoint below for a datagram, which is kept. -/
def ask (act : NativeAct ε α) : NativeAct (Recorded ε ω) α := do
  modify fun s => ({ s.1 with seen := s.1.seen ++ [.asked] }, s.2)
  through act

instance [Endpoint ε] : Endpoint (Recorded ε ω) where
  isOpen recorded := Endpoint.isOpen recorded.endpoint
  descriptor recorded := Endpoint.descriptor recorded.endpoint
  localAddress := through Endpoint.localAddress
  remoteAddress := through Endpoint.remoteAddress
  bind address := through (Endpoint.bind address)
  connect address := through (Endpoint.connect address)
  disconnect := through Endpoint.disconnect
  close := through Endpoint.close
  send request := through (Endpoint.send request)
  read access room := ask (Endpoint.read access room)
  receive access room := ask (Endpoint.receive access room)
  drop := through Endpoint.drop

/-- An operation that goes through to the endpoint below does there what it would do without a
record. -/
theorem mirrors_through (act : NativeAct ε α) (seen : List (Sighting ε ω)) :
    Act.Mirrors (Prod.map (Recorded.mk · seen) id) act (through act) := by
  intro s
  rw [through, Act.result_focus, Act.after_focus]
  exact ⟨rfl, rfl⟩

end Recorded

namespace Site

variable {ε ω : Type}

/-- A site with a record of what was seen. -/
def recorded (site : Site ε ω) (seen : List (Sighting ε ω)) : Site (Recorded ε ω) ω :=
  site.mapEndpoint (Recorded.mk · seen)

/-- The site beneath its record. -/
def below (site : Site (Recorded ε ω) ω) : Site ε ω := site.mapEndpoint Recorded.endpoint

end Site

/-- What a list of sightings tells of the handler's callbacks. -/
def Sighting.callback? {ε ω : Type} : Sighting ε ω → Option Callback
  | told callback _ _ _ => some callback
  | asked => none

/-- What is noted of something that is seen. -/
def Sighting.note {ε ω : Type} [Endpoint ε] : Sighting ε ω → Channel.BurstEvent
  | asked => .received
  | told callback _ fault? after => .told callback fault? (Endpoint.isOpen after.endpoint)

/-- Whether the endpoint was asked. -/
def Sighting.isAsked {ε ω : Type} : Sighting ε ω → Bool
  | asked => true
  | told .. => false

namespace Channel

variable {ε ω α β : Type}

/-- Works on the site beneath the record. -/
def beneath (act : SiteAct ε ω α) : SiteAct (Recorded ε ω) ω α :=
  Act.focus Site.below (fun part site => part.recorded site.endpoint.seen) act

/-- Enters something into the record. -/
def enter (sighting : Site ε ω → Sighting ε ω) : SiteAct (Recorded ε ω) ω Unit :=
  modify fun site => site.below.recorded (site.endpoint.seen ++ [sighting site.below])

/-- A handler that works on the site beneath the record, and enters into it what it was told. -/
def recording (handler : Handler ε ω) : Handler (Recorded ε ω) ω := fun callback => do
  let before := (← get).below
  let result ← (beneath (handler callback)).capture
  enter (.told callback before (faultOf? result))
  Act.ofExcept result

section Recording

variable (handler : Handler ε ω) (callback : Callback) (site : Site ε ω)
  (seen : List (Sighting ε ω))

/-- A handler that is recorded returns, or fails with, what it would without a record. -/
theorem result_recording :
    (recording handler callback).result (site.recorded seen) = (handler callback).result site := by
  refine (Act.result_congr (Act.bind_of_ok (EStateM.run_get _))).trans ?_
  refine (Act.result_congr (Act.bind_of_ok (Act.run_capture ..))).trans ?_
  refine (Act.result_congr (Act.bind_of_ok rfl)).trans ?_
  rw [Act.result_ofExcept]
  exact Act.result_focus ..

/-- One call is one entry. -/
theorem after_recording :
    let site' := (handler callback).after site
    (recording handler callback).after (site.recorded seen) = site'.recorded
      (seen ++ [.told callback site (faultOf? ((handler callback).result site)) site']) := by
  refine (Act.after_bind_of_ok (EStateM.run_get _)).trans ?_
  refine (Act.after_bind_of_ok (Act.run_capture ..)).trans ?_
  refine (Act.after_bind_of_ok rfl).trans ?_
  rw [Act.after_ofExcept, beneath, Act.after_focus, Act.result_focus]
  rfl

end Recording

/-! ## What is added to a record -/

/-- From a site, something gives over a recorded endpoint what it gives over the endpoint itself,
and leaves the same with more in the record. -/
def Adds (more : List (Sighting ε ω)) (act : SiteAct ε ω α) (act' : SiteAct (Recorded ε ω) ω α)
    (site : Site ε ω) : Prop :=
  ∀ seen, act'.result (site.recorded seen) = act.result site ∧
    act'.after (site.recorded seen) = (act.after site).recorded (seen ++ more)

namespace Adds

variable {first second : List (Sighting ε ω)} {act : SiteAct ε ω α}
  {act' : SiteAct (Recorded ε ω) ω α} {next : α → SiteAct ε ω β}
  {next' : α → SiteAct (Recorded ε ω) ω β} {site middle : Site ε ω} {a : α} {fault : Fault}

/-- What goes alike over all endpoints adds nothing. -/
theorem of_mirrored (h : ∀ seen : List (Sighting ε ω), Mirrored (Recorded.mk · seen) act act') :
    Adds [] act act' site := by
  intro seen
  rw [List.append_nil]
  exact h seen site

/-- After a first step that succeeds, the rest adds to what the first step added. -/
theorem bind_ok (h : Adds first act act' site) (hrun : act.run site = .ok a middle)
    (hnext : Adds second (next a) (next' a) middle) :
    Adds (first ++ second) (act >>= next) (act' >>= next') site := by
  intro seen
  obtain ⟨hresult, hafter⟩ := h seen
  rw [Act.result_of_ok hrun] at hresult
  rw [Act.after_of_ok hrun] at hafter
  have hrun' := Act.run_of_result hresult
  rw [hafter] at hrun'
  rw [Act.result_congr (Act.bind_of_ok hrun), Act.result_congr (Act.bind_of_ok hrun'),
    Act.after_bind_of_ok hrun, Act.after_bind_of_ok hrun', ← List.append_assoc]
  exact hnext (seen ++ first)

/-- After one that fails nothing is added any more. -/
theorem bind_error (h : Adds first act act' site) (hrun : act.run site = .error fault middle) :
    Adds first (act >>= next) (act' >>= next') site := by
  intro seen
  obtain ⟨hresult, hafter⟩ := h seen
  rw [Act.result_of_error hrun] at hresult
  rw [Act.after_of_error hrun] at hafter
  have hrun' := Act.error_of_result hresult
  rw [hafter] at hrun'
  rw [Act.result_of_error (Act.bind_of_error hrun), Act.result_of_error (Act.bind_of_error hrun'),
    Act.after_of_error (Act.bind_of_error hrun), Act.after_of_error (Act.bind_of_error hrun')]
  exact ⟨rfl, rfl⟩

/-- Nothing is added after a step that succeeds. -/
theorem before_mirrored (h : Adds first act act' site) (hrun : act.run site = .ok a middle)
    (hnext : ∀ seen : List (Sighting ε ω), Mirrored (Recorded.mk · seen) (next a) (next' a)) :
    Adds first (act >>= next) (act' >>= next') site := by
  rw [← List.append_nil first]
  exact h.bind_ok hrun (of_mirrored hnext)

/-- Nothing is added after a step. -/
theorem followed (h : Adds first act act' site)
    (hnext : ∀ a (seen : List (Sighting ε ω)), Mirrored (Recorded.mk · seen) (next a) (next' a)) :
    Adds first (act >>= next) (act' >>= next') site := by
  cases hrun : act.run site with
  | ok a middle => exact h.before_mirrored hrun (hnext a)
  | error fault middle => exact h.bind_error hrun

/-- Nothing is added by a step that goes alike over all endpoints. -/
theorem after_mirrored
    (h : ∀ seen : List (Sighting ε ω), Mirrored (Recorded.mk · seen) act act')
    (hrun : act.run site = .ok a middle) (hnext : Adds second (next a) (next' a) middle) :
    Adds second (act >>= next) (act' >>= next') site :=
  (of_mirrored h).bind_ok hrun hnext

/-- A fault that is caught leaves the record as it is. -/
theorem capture (h : Adds first act act' site) : Adds first act.capture act'.capture site := by
  intro seen
  obtain ⟨hresult, hafter⟩ := h seen
  rw [Act.result_of_ok (Act.run_capture act _), Act.result_of_ok (Act.run_capture act' _),
    Act.after_of_ok (Act.run_capture act _), Act.after_of_ok (Act.run_capture act' _), hresult]
  exact ⟨rfl, hafter⟩

end Adds

/-- What the handler is told is one entry. -/
theorem adds_tell (handler : Handler ε ω) (callback : Callback) (site : Site ε ω) :
    Adds [.told callback (telling callback site) (faultOf? ((tell handler callback).result site))
        ((tell handler callback).after site)]
      (tell handler callback) (tell (recording handler) callback) site := by
  intro seen
  have hrecording := run_tell (recording handler) callback (site.recorded seen)
  have hplain := run_tell handler callback site
  rw [Act.result_congr hrecording, Act.after_congr hrecording, Act.result_congr hplain,
    Act.after_congr hplain]
  exact ⟨result_recording handler callback (telling callback site) seen,
    after_recording handler callback (telling callback site) seen⟩

/-! ## Records and notes -/

/-- Whether nobody outside of a burst can tell that something happened. -/
def BurstEvent.isInner : BurstEvent → Bool
  | failed .. | ended _ | settled => true
  | received | told .. => false

/-- A record tells what is noted, in the same order. Each callback that is noted is an entry, and
each entry is noted. The endpoint may not have been asked where a receive is noted, for want of
room. -/
inductive Recounts [Endpoint ε] : List (Sighting ε ω) → List BurstEvent → Prop where
  | nil : Recounts [] []
  | told {callback : Callback} {before after : Site ε ω} {fault? : Option Fault}
      {seen : List (Sighting ε ω)} {notes : List BurstEvent} (later : Recounts seen notes) :
      Recounts (.told callback before fault? after :: seen)
        (.told callback fault? (Endpoint.isOpen after.endpoint) :: notes)
  | asked {seen : List (Sighting ε ω)} {notes : List BurstEvent} (later : Recounts seen notes) :
      Recounts (.asked :: seen) (.received :: notes)
  | unasked {seen : List (Sighting ε ω)} {notes : List BurstEvent} (later : Recounts seen notes) :
      Recounts seen (.received :: notes)
  | inner {event : BurstEvent} (h : event.isInner = true) {seen : List (Sighting ε ω)}
      {notes : List BurstEvent} (later : Recounts seen notes) : Recounts seen (event :: notes)

/-- What is noted on the way to a site is what the record of the site tells. -/
def Recollects [Endpoint ε] (noted : Site ε ω × List BurstEvent) (site : Site (Recorded ε ω) ω) :
    Prop :=
  ∃ seen, site = noted.1.recorded seen ∧ Recounts seen noted.2

section Recounts

variable [Endpoint ε] {seen more : List (Sighting ε ω)} {notes later : List BurstEvent}

/-- Records that recount their notes do so one after the other. -/
theorem Recounts.append (hfirst : Recounts seen notes) (hsecond : Recounts more later) :
    Recounts (seen ++ more) (notes ++ later) := by
  induction hfirst with
  | nil => exact hsecond
  | told _ ih => exact .told ih
  | asked _ ih => exact .asked ih
  | unasked _ ih => exact .unasked ih
  | inner h _ ih => exact .inner h ih

/-- What nobody can tell is in no record. -/
theorem Recounts.of_inner (h : ∀ event ∈ notes, event.isInner = true) :
    Recounts ([] : List (Sighting ε ω)) notes := by
  induction notes with
  | nil => exact .nil
  | cons event rest ih =>
    obtain ⟨hevent, hrest⟩ := List.forall_mem_cons.mp h
    exact .inner hevent (ih hrest)

/-- The callbacks of a record are those that are noted. -/
theorem Recounts.callbacks (h : Recounts seen notes) :
    seen.filterMap Sighting.callback? = callbacksIn notes := by
  induction h with
  | nil => rfl
  | told _ ih => exact congrArg (List.cons _) ih
  | asked _ ih => exact ih
  | unasked _ ih => exact ih
  | @inner event h _ _ _ ih =>
    cases event with
    | told callback fault? stillOpen => cases h
    | _ => exact ih

/-- Everything that is seen is noted. -/
theorem Recounts.sublist (h : Recounts seen notes) : (seen.map Sighting.note).Sublist notes := by
  induction h with
  | nil => exact .slnil
  | told _ ih => exact ih.cons_cons _
  | asked _ ih => exact ih.cons_cons _
  | unasked _ ih => exact ih.cons _
  | inner _ _ ih => exact ih.cons _

/-- Whenever the endpoint was asked, a receive is noted. -/
theorem Recounts.asked_le (h : Recounts seen notes) :
    seen.countP Sighting.isAsked ≤ receivesIn notes := by
  have hcount : seen.countP Sighting.isAsked = receivesIn (seen.map Sighting.note) := by
    unfold receivesIn
    rw [List.countP_map]
    refine List.countP_congr fun sighting _ => ?_
    cases sighting <;> rfl
  rw [hcount]
  exact h.sublist.countP_le

end Recounts

/-! ## Steps -/

section Steps

variable [Endpoint ε] {watched : BurstAct ε ω α} {act : SiteAct ε ω α}
  {act' : SiteAct (Recorded ε ω) ω α}

/-- A step that is noted, and what it adds to a record. -/
theorem recollects_noting {what : Except Fault α → Site ε ω → List BurstEvent}
    (h : ∀ site, ∃ more, Adds more act act' site ∧
      Recounts more (what (act.result site) (act.after site))) :
    Act.Matches Recollects (Watched.noting act what) act' := by
  rintro ⟨site, notes⟩ _ ⟨seen, rfl, hseen⟩
  obtain ⟨more, hadds, hmore⟩ := h site
  obtain ⟨hresult, hafter⟩ := hadds seen
  have hfollows := Watched.follows_noting act what site
  refine ⟨hresult.trans (hfollows.result notes).symm, seen ++ more, ?_⟩
  rw [hfollows.after]
  exact ⟨hafter, hseen.append hmore⟩

/-- Nothing is entered into a record where there is nothing to tell. -/
theorem recollects_inner {what : Except Fault α → Site ε ω → List BurstEvent}
    (h : ∀ seen : List (Sighting ε ω), Mirrored (Recorded.mk · seen) act act')
    (hwhat : ∀ result site, ∀ event ∈ what result site, event.isInner = true) :
    Act.Matches Recollects (Watched.noting act what) act' :=
  recollects_noting fun _ => ⟨[], .of_mirrored h, .of_inner (hwhat _ _)⟩

/-- What is done without a note leaves no entry. -/
theorem recollects_quietly
    (h : ∀ seen : List (Sighting ε ω), Mirrored (Recorded.mk · seen) act act') :
    Act.Matches Recollects (Watched.quietly act) act' :=
  recollects_inner h fun _ _ _ hmem => absurd hmem List.not_mem_nil

/-- A note of a failure has no entry of its own: what was seen shows in the callback that tells of
it. -/
theorem recollects_failing (place : BurstPlace)
    (h : ∀ seen : List (Sighting ε ω), Mirrored (Recorded.mk · seen) act act') :
    Act.Matches Recollects (Watched.noting act (failureAt place)) act' := by
  refine recollects_inner h fun result site event hmem => ?_
  obtain ⟨fault, -, rfl⟩ := List.mem_map.mp hmem
  rfl

/-- A mark that nobody can tell of is no step of the original. -/
theorem recollects_marked {trace : List BurstEvent} (h : ∀ event ∈ trace, event.isInner = true)
    (hwatched : Act.Matches Recollects watched act') :
    Act.Matches Recollects (Watched.mark trace >>= fun _ => watched) act' := by
  rintro ⟨site, notes⟩ _ ⟨seen, rfl, hseen⟩
  have hmark : (Watched.mark trace : BurstAct ε ω Unit).run (site, notes) =
      .ok () (site, notes ++ trace) := rfl
  rw [Act.result_congr (Act.bind_of_ok hmark), Act.after_bind_of_ok hmark]
  refine hwatched _ _ ⟨seen, rfl, ?_⟩
  rw [← List.append_nil seen]
  exact hseen.append (.of_inner h)

end Steps

/-! ## What leaves no trace in a record -/

section Parts

variable {ε' : Type} {φ : ε → ε'} (source : HandleSource ω)

/-- The handle of a burst is made without the endpoint. -/
theorem mirrored_prepareHandle :
    Mirrored φ (prepareHandle : SiteAct ε ω Unit) prepareHandle := by
  refine Act.mirrors_get fun site => ?_
  exact Act.mirrors_ite (Act.mirrors_pure _) (mirrored_change _)

/-- It is found where the source says. -/
theorem mirrored_handleNow :
    Mirrored φ (handleNow source : SiteAct ε ω ReceiveHandle) (handleNow source) := by
  refine Act.mirrors_get fun site => ?_
  cases source with
  | own => exact Act.mirrors_pure _
  | lent lent => exact Act.mirrors_pure _

/-- And changed there. -/
theorem mirrored_changeHandle (f : ReceiveHandle → ReceiveHandle) :
    Mirrored φ (changeHandle source f : SiteAct ε ω Unit) (changeHandle source f) := by
  refine Act.mirrors_bind (mirrored_handleNow source) fun handle => ?_
  cases source with
  | own => exact mirrored_change _
  | lent lent => exact Act.mirrors_modify fun _ => rfl

/-- So a receive ends alike over all endpoints. -/
theorem mirrored_takeIn (data : Buffer) (received : Received) (recipient : Option Address) :
    Mirrored φ (takeIn source data received recipient : SiteAct ε ω (Option Packet))
      (takeIn source data received recipient) := by
  refine Act.mirrors_bind (mirrored_changeHandle source _) fun _ => ?_
  exact Act.mirrors_bind (Act.mirrors_ofExcept _) fun data => Act.mirrors_pure _

/-- And a burst begins alike. -/
theorem mirrored_beginBurst :
    Mirrored φ (beginBurst source : SiteAct ε ω Unit) (beginBurst source) := by
  refine Act.mirrors_get fun site => ?_
  refine Act.mirrors_bind (mirrored_handleNow source) fun handle => ?_
  refine Act.mirrors_bind (mirrored_changeHandle source _) fun _ => ?_
  cases source with
  | own => exact mirrored_change _
  | lent lent =>
    exact Act.mirrors_bind (Act.mirrors_modify fun _ => rfl) fun _ => mirrored_change _

/-- What the channel waits for in the end is between it and its loop. -/
theorem mirrored_settleInterest :
    Mirrored φ (settleInterest : SiteAct ε ω Unit) settleInterest := by
  have hreport : Mirrored φ (do
      Native.writeLog .debug logTag
        s!"read burst delivered {(← current).burstPackets} packet(s)" : SiteAct ε ω Unit) _ :=
    Act.mirrors_bind mirrored_current fun _ => mirrored_plain _
  refine Act.mirrors_bind mirrored_current fun channel => ?_
  exact Act.mirrors_ite (Act.mirrors_bind (mirrored_setReadInterest false) fun _ => hreport) hreport

variable [Endpoint ε] [Endpoint ε'] (hopen : ∀ e, Endpoint.isOpen (φ e) = Endpoint.isOpen e)

include hopen

/-- Whether the channel holds back depends on the endpoint only through being open. -/
theorem mirrored_holdsBack : Mirrored φ (holdsBack : SiteAct ε ω Bool) holdsBack := by
  refine Act.mirrors_bind (mirrored_isOpen hopen) fun _ => Act.mirrors_ite ?_ (Act.mirrors_pure _)
  exact Act.mirrors_bind mirrored_current fun _ => Act.mirrors_pure _

/-- The same of whether the loop goes on. -/
theorem mirrored_goesOn : Mirrored φ (goesOn source : SiteAct ε ω Bool) (goesOn source) := by
  refine Act.mirrors_bind (mirrored_isOpen hopen) fun _ => Act.mirrors_ite ?_ (Act.mirrors_pure _)
  refine Act.mirrors_get fun site => Act.mirrors_bind (mirrored_handleNow source) fun handle => ?_
  refine Act.mirrors_bind (Act.mirrors_get fun site => ?_) fun _ => Act.mirrors_pure _
  cases source with
  | own => exact Act.mirrors_pure _
  | lent lent => exact Act.mirrors_pure _

end Parts

/-! ## One datagram -/

section Fetching

variable [Endpoint ε] (handler : Handler ε ω) (source : HandleSource ω)

/-- An endpoint that keeps a record is open as the one below. -/
theorem isOpen_mk (seen : List (Sighting ε ω)) (endpoint : ε) :
    Endpoint.isOpen (Recorded.mk endpoint seen) = Endpoint.isOpen endpoint := rfl

/-- An operation gives over a recorded endpoint what it gives over the endpoint below, and enters
something into the record. -/
def Enters (more : List (Sighting ε ω)) (act : NativeAct ε α) (act' : NativeAct (Recorded ε ω) α) :
    Prop :=
  ∀ endpoint native seen,
    act'.result (⟨endpoint, seen⟩, native) = act.result (endpoint, native) ∧
      act'.after (⟨endpoint, seen⟩, native) =
        (⟨(act.after (endpoint, native)).1, seen ++ more⟩, (act.after (endpoint, native)).2)

omit [Endpoint ε] in
/-- A value that is there already enters nothing. -/
theorem enters_pure (a : α) :
    Enters ([] : List (Sighting ε ω)) (pure a : NativeAct ε α) (pure a) := by
  intro endpoint native seen
  rw [List.append_nil]
  exact ⟨rfl, rfl⟩

omit [Endpoint ε] in
/-- To ask the endpoint enters just that, if what follows enters nothing. -/
theorem enters_ask {act : NativeAct ε α} {next : α → NativeAct ε β}
    {next' : α → NativeAct (Recorded ε ω) β}
    (hnext : ∀ a (seen : List (Sighting ε ω)),
      Act.Mirrors (Prod.map (Recorded.mk · seen) id) (next a) (next' a)) :
    Enters [.asked] (act >>= next) (Recorded.ask act >>= next') := by
  intro endpoint native seen
  have hask : (Recorded.ask act >>= next').run (⟨endpoint, seen⟩, native) =
      (Recorded.through act >>= next').run (⟨endpoint, seen ++ [.asked]⟩, native) := by
    unfold Recorded.ask
    rw [bind_assoc]
    exact Act.bind_of_ok rfl
  rw [Act.result_congr hask, Act.after_congr hask]
  exact Act.mirrors_bind (Recorded.mirrors_through act _) (hnext · _) (endpoint, native)

/-- What a receive into a buffer enters into a record: nothing if the buffer has no room. -/
def askings (data : Buffer) : List (Sighting ε ω) :=
  if (firstWritable? data).isSome then [.asked] else []

/-- A read into a buffer asks once, unless the buffer has no room for an answer. -/
theorem enters_readInto (data : Buffer) :
    Enters (askings data) (readInto data : NativeAct ε (Buffer × Int))
      (readInto data : NativeAct (Recorded ε ω) (Buffer × Int)) := by
  unfold readInto askings
  cases firstWritable? data with
  | none => exact enters_pure _
  | some c =>
    refine enters_ask fun incoming seen => ?_
    refine Act.mirrors_ite (Act.mirrors_pure _) ?_
    exact Act.mirrors_ite (Act.mirrors_pure _) (Act.mirrors_throw _)

/-- So does a receive that names its sender. -/
theorem enters_receiveInto (data : Buffer) :
    Enters (askings data) (receiveInto data : NativeAct ε (Buffer × Option Received))
      (receiveInto data : NativeAct (Recorded ε ω) (Buffer × Option Received)) := by
  unfold receiveInto askings
  cases firstWritable? data with
  | none => exact enters_pure _
  | some c =>
    refine enters_ask fun received? seen => ?_
    cases received? with
    | none => exact Act.mirrors_pure _
    | some received => exact Act.mirrors_pure _

/-- A receive is noted whether or not the buffer has room. -/
theorem recounts_receipt (data : Buffer) (result : Except Fault α) (site : Site ε ω) :
    Recounts (askings data : List (Sighting ε ω)) (receipt result site) := by
  have hinner : ∀ event ∈ failureAt .receive result site, event.isInner = true := by
    intro event hmem
    obtain ⟨fault, -, rfl⟩ := List.mem_map.mp hmem
    rfl
  unfold askings receipt
  split
  · exact .asked (.of_inner hinner)
  · exact .unasked (.of_inner hinner)

omit [Endpoint ε] in
/-- What is entered at the endpoint is added at the site. -/
theorem Enters.adds {more : List (Sighting ε ω)} {act : NativeAct ε α}
    {act' : NativeAct (Recorded ε ω) α} (h : Enters more act act') (site : Site ε ω) :
    Adds more (liftM act : SiteAct ε ω α) (liftM act') site := by
  intro seen
  obtain ⟨hresult, hafter⟩ := h site.endpoint site.host.native seen
  rw [result_lift_native, result_lift_native, after_lift_native, after_lift_native]
  exact ⟨hresult, congrArg (site.recorded seen).withNative hafter⟩

/-- A receipt is noted exactly where the endpoint was asked. -/
theorem recollects_receipt {data : Buffer} {act : NativeAct ε α}
    {act' : NativeAct (Recorded ε ω) α} (h : Enters (askings data) act act') :
    Act.Matches Recollects (Watched.noting (liftM act : SiteAct ε ω α) receipt)
      (liftM act' : SiteAct (Recorded ε ω) ω α) :=
  recollects_noting fun site => ⟨askings data, h.adds site, recounts_receipt data _ _⟩

/-- The next packet of a connected channel. -/
theorem recollects_connected (data : Buffer) :
    Act.Matches Recollects (watchConnected source data : BurstAct ε ω (Option Packet))
      (nextConnected source data) := by
  have hread : Act.Matches Recollects
      (connectedRead (Watched.noting
        (liftM (readInto data : NativeAct ε (Buffer × Int)) : SiteAct ε ω _) receipt))
      (connectedRead (liftM (readInto data : NativeAct (Recorded ε ω) (Buffer × Int)))) := by
    refine Act.matches_bind (Act.matches_capture (recollects_receipt (enters_readInto data)))
      fun result => ?_
    cases result with
    | ok a => exact Act.matches_pure a
    | error fault => exact Act.matches_throw _
  refine Act.matches_bind hread fun (filled, amount) => ?_
  refine Act.matches_bind (recollects_quietly fun _ => mirrored_changeHandle source _) fun _ => ?_
  refine Act.matches_ite (Act.matches_pure none) ?_
  refine Act.matches_bind (recollects_failing .address fun seen =>
    mirrored_remoteAddress (Recorded.mirrors_through _ seen)) fun sender => ?_
  refine Act.matches_bind (recollects_failing .address fun seen =>
    mirrored_localAddress (isOpen_mk seen) (Recorded.mirrors_through _ seen)) fun recipient => ?_
  exact Act.matches_pure _

/-- The end of an unconnected receive. -/
theorem recollects_takeIn (data : Buffer) (received : Received) (recipient : Option Address) :
    Act.Matches Recollects (watchTakeIn source data received recipient : BurstAct ε ω _)
      (takeIn source data received recipient) := by
  refine Act.matches_bind (recollects_quietly fun _ => mirrored_changeHandle source _) fun _ => ?_
  exact Act.matches_bind (recollects_failing .cursor fun _ => Act.mirrors_ofExcept _)
    fun data => Act.matches_pure _

/-- The next packet of an unconnected one. -/
theorem recollects_unconnected (data : Buffer) :
    Act.Matches Recollects (watchUnconnected source data : BurstAct ε ω (Option Packet))
      (nextUnconnected source data) := by
  refine Act.matches_bind (recollects_receipt (enters_receiveInto data))
    fun (filled, received?) => ?_
  cases received? with
  | none =>
    exact Act.matches_bind (recollects_quietly fun _ => mirrored_changeHandle source _) fun _ =>
      Act.matches_pure none
  | some received =>
    dsimp only
    -- The channel's own address is asked for only where the packet brought none.
    cases received.local? with
    | some address =>
      exact Act.matches_bind (Act.matches_pure _) (recollects_takeIn source filled received)
    | none =>
      refine Act.matches_bind (recollects_failing .address fun seen => ?_)
        (recollects_takeIn source filled received)
      exact mirrored_localAddress (isOpen_mk seen) (Recorded.mirrors_through _ seen)

/-- Memory that is allocated or given back on the way is noted, and no entry. -/
theorem recollects_fetch (allocator : AllocatorId) (connected : Bool) :
    Act.Matches Recollects (watchFetch source allocator connected : BurstAct ε ω (Option Packet))
      (fetch source allocator connected) := by
  refine Act.matches_bind (recollects_quietly fun _ => mirrored_handleNow source) fun handle => ?_
  refine Act.matches_bind (recollects_failing .allocation fun _ => mirrored_ledger _)
    fun data => ?_
  refine Act.matches_bind (recollects_quietly fun _ => mirrored_changeHandle source _) fun _ => ?_
  have hnext : Act.Matches Recollects
      (if connected then watchConnected source data else watchUnconnected source data :
        BurstAct ε ω (Option Packet))
      (if connected then nextConnected source data else nextUnconnected source data) :=
    Act.matches_ite (recollects_connected source data) (recollects_unconnected source data)
  have hdiscard : Act.Matches Recollects
      (Watched.quietly (liftM (Ledger.discard data)) : BurstAct ε ω Unit)
      (liftM (Ledger.discard data)) := recollects_quietly fun _ => mirrored_ledger _
  refine Act.matches_bind (Act.matches_capture hnext) fun result => ?_
  cases result with
  | error fault => exact Act.matches_bind hdiscard fun _ => Act.matches_throw fault
  | ok packet? =>
    cases packet? with
    | none => exact Act.matches_bind hdiscard fun _ => Act.matches_pure none
    | some packet => exact Act.matches_pure _

/-! ## Callbacks -/

/-- A callback that is noted is one call of the handler, with the outcome that is noted. -/
theorem recollects_tell (callback : Callback) :
    Act.Matches Recollects (watchTell handler callback) (tell (recording handler) callback) :=
  recollects_noting fun site => ⟨_, adds_tell handler callback site, .told .nil⟩

/-- The handler is told of a packet once, after the wish that led to it was cleared. -/
theorem recollects_handOn (packet : Packet) :
    Act.Matches Recollects (watchHandOn handler source packet)
      (handOn (recording handler) source packet) := by
  refine Act.matches_bind (recollects_quietly fun _ => mirrored_changeHandle source _) fun _ => ?_
  refine Act.matches_bind (recollects_quietly fun _ => mirrored_change _) fun _ => ?_
  refine Act.matches_bind (recollects_tell handler (.packet packet)) fun _ => ?_
  exact recollects_quietly fun seen => mirrored_goesOn source (isOpen_mk seen)

/-! ## The burst -/

section Burst

variable (allocator : AllocatorId) (connected : Bool)

/-- One round fetches and hands on. -/
theorem recollects_one :
    Act.Matches Recollects (watchOne handler source allocator connected)
      (readOne (recording handler) source allocator connected) := by
  refine Act.matches_bind (recollects_fetch source allocator connected) fun packet? => ?_
  cases packet? with
  | none => exact Act.matches_pure false
  | some packet => exact recollects_handOn handler source packet

/-- **The loop over the datagrams**, by induction on the number of datagrams that it may read. -/
theorem recollects_all (bound : Nat) :
    Act.Matches Recollects (watchAll handler source allocator connected bound)
      (readAll (recording handler) source allocator connected bound) := by
  induction bound with
  | zero => exact Act.matches_pure ()
  | succ bound ih =>
    exact Act.matches_bind (recollects_one handler source allocator connected) fun on =>
      Act.matches_ite ih (Act.matches_pure ())

/-- The loop, and what is told after it. -/
theorem recollects_burst :
    Act.Matches Recollects (watchBurst handler source allocator)
      (burst (recording handler) source allocator) := by
  refine Act.matches_bind (recollects_quietly fun _ => mirrored_current) fun channel => ?_
  refine Act.matches_bind (recollects_quietly fun _ => mirrored_handleNow source) fun handle => ?_
  refine Act.matches_bind (Act.matches_capture (recollects_all handler source allocator _ _))
    fun result => ?_
  -- What the loop ended with is noted, but nobody is told of it yet.
  refine recollects_marked (by simp [BurstEvent.isInner]) ?_
  have hcomplete : Act.Matches Recollects
      (Watched.quietly (changeHandle source ReceiveHandle.complete) : BurstAct ε ω Unit)
      (changeHandle source ReceiveHandle.complete) :=
    recollects_quietly fun _ => mirrored_changeHandle source _
  have htold := recollects_tell handler .readComplete
  cases result with
  | ok _ =>
    refine Act.matches_bind hcomplete fun _ => Act.matches_bind htold fun _ => ?_
    refine Act.matches_bind (recollects_quietly fun _ => mirrored_current) fun channel => ?_
    refine Act.matches_ite ?_ (Act.matches_pure ())
    exact recollects_quietly fun seen => mirrored_read (isOpen_mk seen)
  | error fault =>
    refine Act.matches_bind (recollects_quietly fun _ => mirrored_current) fun _ => ?_
    refine Act.matches_bind (recollects_quietly fun _ => mirrored_plain _) fun _ => ?_
    refine Act.matches_bind hcomplete fun _ => Act.matches_bind htold fun _ => ?_
    exact recollects_tell handler (.failure fault)

end Burst

/-- **A burst can be told from what it notes**, and the notes from the record of the burst. -/
theorem recollects_readReadyWith :
    Act.Matches Recollects (watchReadyWith handler source)
      (readReadyWith (recording handler) source) := by
  refine Act.matches_bind (recollects_quietly fun seen => mirrored_holdsBack (isOpen_mk seen))
    fun held => ?_
  refine Act.matches_ite (recollects_quietly fun _ => mirrored_setReadInterest false) ?_
  refine Act.matches_bind (recollects_quietly fun _ => mirrored_current) fun channel => ?_
  refine Act.matches_bind (recollects_quietly fun _ => mirrored_beginBurst source) fun _ => ?_
  refine Act.matches_ensuring (recollects_burst handler source _) ?_
  refine recollects_inner (fun _ => mirrored_settleInterest) fun _ _ event hmem => ?_
  cases List.mem_singleton.mp hmem
  rfl

/-- The burst of a channel that is readable, with the handle of its own. -/
theorem recollects_readReady :
    Act.Matches Recollects (watchReady handler) (readReady (recording handler)) :=
  Act.matches_bind (recollects_quietly fun _ => mirrored_prepareHandle) fun _ =>
    recollects_readReadyWith handler .own

end Fetching

/-- Over a recorded endpoint something gives what it gives over the endpoint itself, and leaves the
same; meanwhile the record was made. -/
structure Seen (act' : SiteAct (Recorded ε ω) ω α) (act : SiteAct ε ω α) (site : Site ε ω)
    (seen : List (Sighting ε ω)) : Prop where
  result : act'.result (site.recorded []) = act.result site
  after : act'.after (site.recorded []) = (act.after site).recorded seen

/-- What is added from any record is seen from the empty one. -/
theorem Adds.seen {act : SiteAct ε ω α} {act' : SiteAct (Recorded ε ω) ω α} {site : Site ε ω}
    {seen : List (Sighting ε ω)} (h : Adds seen act act' site) : Seen act' act site seen :=
  ⟨(h []).1, (h []).2⟩

/-- What is noted about something is in the record of it. -/
theorem seen_of_follows [Endpoint ε] {watched : BurstAct ε ω α} {act : SiteAct ε ω α}
    {act' : SiteAct (Recorded ε ω) ω α} {site : Site ε ω} {trace : List BurstEvent}
    (hfollows : Watched.Follows watched act site trace)
    (hmatches : Act.Matches Recollects watched act') :
    ∃ seen, Seen act' act site seen ∧ Recounts seen trace := by
  obtain ⟨hresult, seen, hafter, hseen⟩ := hmatches (site, []) (site.recorded []) ⟨[], rfl, .nil⟩
  rw [hfollows.result] at hresult
  rw [hfollows.after] at hafter hseen
  exact ⟨seen, ⟨hresult, hafter⟩, hseen⟩

end Channel

end UdpTransport
