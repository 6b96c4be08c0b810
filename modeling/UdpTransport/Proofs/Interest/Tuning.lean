import UdpTransport.Proofs.Along
import UdpTransport.Proofs.Interest.Endpoints

/-!
# Interest in tune with the channel

A channel that is attached to a registration is *in tune* if it waits to read just when it has a
reason to, and waits to write only if messages are queued. `InTune` says so with two knobs, since
part of it is suspended at times: `asked` says whether a request to read counts as a reason that has
been acted on, and `settled` whether there is no interest in reading without a reason. Both hold
outside of bursts; while a burst is going on, a packet that was handed on uses the reason up before
the interest is withdrawn.

This module shows what single operations do: `read`, `setAutoRead`, `write` and `flush` keep a
channel in tune, whatever the knobs say (`tuned_read` and its relatives), and a flush makes the
interest in writing say exactly whether messages are left (`tuned_flush`).
-/

namespace UdpTransport

/-- What the interest of a channel is judged by. -/
structure Stance where
  name : String
  registration : Option Registration
  autoRead : Bool
  readPending : Bool
  suspended : Bool
  pending : List PendingWrite
  isOpen : Bool
  board : Board

/-- Whether the channel waits for a readiness with a registration. -/
def Stance.waits (stance : Stance) (registration : Registration) (readiness : Readiness) : Bool :=
  stance.board.waits registration stance.name readiness

/-- An open channel that is attached for good, and does not hold back reading. -/
structure Attached (registration : Registration) (stance : Stance) : Prop where
  attached : stance.registration = some registration
  isOpen : stance.isOpen = true
  awake : stance.suspended = false
  live : stance.board.Live registration
  obliging : stance.board.Obliging

/-- A channel whose interest is in tune with it. -/
structure InTune (registration : Registration) (asked settled : Prop) (stance : Stance) : Prop
    extends Attached registration stance where
  autoRead : stance.autoRead = true → stance.waits registration .reading = true
  asked : asked → stance.readPending = true → stance.waits registration .reading = true
  settled : settled → stance.waits registration .reading = true →
    stance.autoRead = true ∨ stance.readPending = true
  writing : stance.waits registration .writing = true → stance.pending ≠ []

variable {registration : Registration} {asked settled : Prop}

theorem InTune.mono {asked' settled' : Prop} {stance : Stance}
    (h : InTune registration asked settled stance) (hasked : asked' → asked)
    (hsettled : settled' → settled) : InTune registration asked' settled' stance where
  toAttached := h.toAttached
  autoRead := h.autoRead
  asked hcounts := h.asked (hasked hcounts)
  settled hcounts := h.settled (hsettled hcounts)
  writing := h.writing

/-- Outside of bursts, reading is waited for exactly if there is a reason. -/
theorem InTune.reading_iff {stance : Stance} (h : InTune registration True True stance) :
    stance.waits registration .reading = true ↔
      stance.autoRead = true ∨ stance.readPending = true := by
  constructor
  · exact h.settled trivial
  · rintro (hauto | hpending)
    · exact h.autoRead hauto
    · exact h.asked trivial hpending

namespace Channel

variable {ε ω α β : Type} [Endpoint ε]

/-- What the interest of a channel is judged by, in its place. -/
def stance (site : Site ε ω) : Stance where
  name := site.channel.name
  registration := site.channel.registration
  autoRead := site.channel.config.autoRead
  readPending := site.channel.readPending
  suspended := site.channel.config.suspended
  pending := site.channel.pending
  isOpen := Endpoint.isOpen site.endpoint
  board := site.host.native.board

/-- The channel is in tune. -/
def Tuned (registration : Registration) (asked settled : Prop) (site : Site ε ω) : Prop :=
  InTune registration asked settled (stance site)

/-! ## What leaves the stance alone -/

theorem within_stance_of_memory {act : SiteAct ε ω α} (h : Act.Within Site.MemoryOnly act) :
    Act.Within (Act.Fixing stance) act := by
  refine h.mono ?_
  rintro site _ ⟨ledger, fallback, rfl⟩
  rfl

theorem within_stance_of_handle {act : SiteAct ε ω α} (h : Act.Within Site.HandleOnly act) :
    Act.Within (Act.Fixing stance) act := by
  refine h.mono ?_
  rintro site _ ⟨handle, packets, outside, rfl⟩
  rfl

theorem within_stance_native {act : NativeAct ε α}
    (h : Act.Within (Act.Fixing Endpoint.footing) act) :
    Act.Within (Act.Fixing stance) (liftM act : SiteAct ε ω α) := by
  intro site
  have hfooting := h (site.endpoint, site.host.native)
  have hopen := congrArg Prod.fst hfooting
  have hboard := congrArg Prod.snd hfooting
  rw [Act.Fixing, after_lift_native]
  simp only [Endpoint.footing] at hopen hboard
  simp only [stance, Site.withNative_channel, Site.withNative_endpoint,
    Site.withNative_host_native, hopen, hboard]

theorem within_stance_plain {act : Act Native α} (h : Act.Within (Act.Fixing Native.board) act) :
    Act.Within (Act.Fixing stance) (liftM act : SiteAct ε ω α) :=
  within_stance_native (Endpoint.within_lift_footing h)

theorem within_stance_log (level : Log.Level) (tag text : String) :
    Act.Within (Act.Fixing stance) (liftM (Native.writeLog level tag text) : SiteAct ε ω Unit) :=
  within_stance_plain (Native.within_writeLog level tag text)

theorem within_stance_ledger (act : Act Ledger α) :
    Act.Within (Act.Fixing stance) (liftM act : SiteAct ε ω α) :=
  within_stance_of_memory (within_lift_ledger act)

theorem within_stance_futures (act : Act Futures α) :
    Act.Within (Act.Fixing stance) (liftM act : SiteAct ε ω α) := by
  intro site
  rw [Act.Fixing, after_lift_futures]
  rfl

/-! ## Telling the registration -/

omit [Endpoint ε] in
/-- A registration that is there is told, unless the system refuses. -/
theorem lift_setInterest_cases {site : Site ε ω}
    (hlive : site.host.native.board.Live registration) (readiness : Readiness) (wanted : Bool) :
    (∃ native, (liftM (registration.setInterest site.channel.name readiness wanted) :
        SiteAct ε ω Unit).run site = .ok () (site.withNative (site.endpoint, native)) ∧
      Registration.Told registration site.channel.name readiness wanted site.host.native.board
        native.board) ∨
      ¬ site.host.native.board.Obliging ∧ ∃ fault site',
        (liftM (registration.setInterest site.channel.name readiness wanted) :
          SiteAct ε ω Unit).run site = .error fault site' := by
  rcases Registration.setInterest_spec hlive site.channel.name readiness wanted with
    ⟨native, hrun, htold⟩ | ⟨hrefused, fault, native, hrun⟩
  · have hlift : (liftM (registration.setInterest site.channel.name readiness wanted) :
        NativeAct ε Unit).run (site.endpoint, site.host.native) = .ok () (site.endpoint, native) :=
      Act.focus_ok hrun
    exact .inl ⟨native, lift_native_ok hlift, htold⟩
  · have hlift : (liftM (registration.setInterest site.channel.name readiness wanted) :
        NativeAct ε Unit).run (site.endpoint, site.host.native) =
          .error fault (site.endpoint, native) := Act.focus_error hrun
    exact .inr ⟨hrefused, fault, _, Act.focus_error hlift⟩

omit [Endpoint ε] in
theorem setReadInterest_cases (site : Site ε ω)
    (hregistration : site.channel.registration = some registration)
    (hlive : site.host.native.board.Live registration) (wanted : Bool) :
    (∃ native, (setReadInterest wanted : SiteAct ε ω Unit).run site =
        .ok () (site.withNative (site.endpoint, native)) ∧
      Registration.Told registration site.channel.name .reading wanted site.host.native.board
        native.board) ∨
      ¬ site.host.native.board.Obliging ∧ ∃ fault site',
        (setReadInterest wanted : SiteAct ε ω Unit).run site = .error fault site' := by
  unfold setReadInterest
  rw [Act.bind_of_ok (run_current site), hregistration]
  exact lift_setInterest_cases hlive .reading wanted

/-- What an attached channel says of its interest gets through. -/
theorem run_setReadInterest {site : Site ε ω} (h : Attached registration (stance site))
    (wanted : Bool) :
    ∃ native, (setReadInterest wanted : SiteAct ε ω Unit).run site =
        .ok () (site.withNative (site.endpoint, native)) ∧
      Registration.Told registration site.channel.name .reading wanted site.host.native.board
        native.board := by
  rcases setReadInterest_cases site h.attached h.live wanted with hgiven | ⟨hrefused, _⟩
  · exact hgiven
  · exact absurd h.obliging hrefused

theorem run_setWriteInterest {site : Site ε ω} (h : Attached registration (stance site))
    (wanted : Bool) :
    ∃ native, (setWriteInterest wanted : SiteAct ε ω Unit).run site =
        .ok () (site.withNative (site.endpoint, native)) ∧
      Registration.Told registration site.channel.name .writing wanted site.host.native.board
        native.board := by
  unfold setWriteInterest
  rw [Act.bind_of_ok (run_current site),
    show site.channel.registration = some registration from h.attached]
  rcases lift_setInterest_cases h.live .writing wanted with hgiven | ⟨hrefused, _⟩
  · exact hgiven
  · exact absurd h.obliging hrefused

/-! ## Reading -/

/-- Asking for a burst is a reason to wait, and the registration is told. -/
theorem read_cases (site : Site ε ω)
    (hregistration : site.channel.registration = some registration)
    (hopen : Endpoint.isOpen site.endpoint = true)
    (hlive : site.host.native.board.Live registration) :
    (∃ native, (read : SiteAct ε ω Unit).run site =
        .ok () ((site.withChannel { site.channel with readPending := true }).withNative
          (site.endpoint, native)) ∧
      Registration.Told registration site.channel.name .reading true site.host.native.board
        native.board) ∨
      ¬ site.host.native.board.Obliging ∧ ∃ fault site',
        (read : SiteAct ε ω Unit).run site = .error fault site' := by
  unfold read
  rw [Act.bind_of_ok (run_isOpen site), hopen, if_pos rfl, Act.bind_of_ok (run_change ..)]
  exact setReadInterest_cases (site.withChannel { site.channel with readPending := true })
    hregistration hlive true

/-- A read leaves a channel in tune, whatever its interest in reading was like before. -/
theorem tuned_of_read {site : Site ε ω} (h : Attached registration (stance site))
    (hwriting : (stance site).waits registration .writing = true → site.channel.pending ≠ []) :
    Tuned registration asked settled ((read : SiteAct ε ω Unit).after site) := by
  rcases read_cases site h.attached h.isOpen h.live with ⟨native, hrun, htold⟩ | ⟨hrefused, _⟩
  case inr => exact absurd h.obliging hrefused
  rw [Act.after_of_ok hrun]
  have hreading := htold.waits .reading
  have hother := htold.waits .writing
  rw [if_pos rfl] at hreading
  rw [if_neg (by decide)] at hother
  exact
    { attached := h.attached
      isOpen := h.isOpen
      awake := h.awake
      live := htold.live
      obliging := htold.obliging h.obliging
      autoRead := fun _ => hreading
      asked := fun _ _ => hreading
      settled := fun _ _ => .inr rfl
      writing := fun hwaits => hwriting (hother.symm.trans hwaits) }

theorem tuned_read :
    Act.Within (Act.Keeping (Tuned registration asked settled)) (read : SiteAct ε ω Unit) := by
  intro site h
  exact tuned_of_read h.toAttached h.writing

/-- Withdrawing the interest leaves a channel in tune if there is no reason to read. -/
theorem tuned_of_withdraw {site : Site ε ω} (h : Attached registration (stance site))
    (hauto : site.channel.config.autoRead = false) (hpending : site.channel.readPending = false)
    (hwriting : (stance site).waits registration .writing = true → site.channel.pending ≠ []) :
    Tuned registration asked settled ((setReadInterest false : SiteAct ε ω Unit).after site) := by
  obtain ⟨native, hrun, htold⟩ := run_setReadInterest h false
  rw [Act.after_of_ok hrun]
  have hreading := htold.waits .reading
  have hother := htold.waits .writing
  rw [if_pos rfl] at hreading
  rw [if_neg (by decide)] at hother
  exact
    { attached := h.attached
      isOpen := h.isOpen
      awake := h.awake
      live := htold.live
      obliging := htold.obliging h.obliging
      autoRead := fun hon => absurd (hauto.symm.trans hon) Bool.false_ne_true
      asked := fun _ hon => absurd (hpending.symm.trans hon) Bool.false_ne_true
      settled := fun _ hwaits => absurd (hreading.symm.trans hwaits) Bool.false_ne_true
      writing := fun hwaits => hwriting (hother.symm.trans hwaits) }

theorem tuned_setAutoRead (on : Bool) :
    Act.Within (Act.Keeping (Tuned registration asked settled))
      (setAutoRead on : SiteAct ε ω Unit) := by
  intro site h
  have hstill : Attached registration (stance (site.withChannel
      { site.channel with config := { site.channel.config with autoRead := on } })) :=
    ⟨h.attached, h.isOpen, h.awake, h.live, h.obliging⟩
  unfold setAutoRead
  rw [Act.after_bind_of_ok (run_current site), Act.after_bind_of_ok (run_change ..)]
  by_cases hsame : site.channel.config.autoRead = on
  · -- The setting is as it was, so nothing else happens.
    have hsite : site.withChannel
        { site.channel with config := { site.channel.config with autoRead := on } } = site := by
      rw [← hsame]
      rfl
    rw [hsame, hsite]
    cases on with
    | true => exact h
    | false => exact h
  · cases on with
    | true =>
      rw [Bool.not_eq_true] at hsame
      rw [hsame]
      exact tuned_of_read hstill h.writing
    | false =>
      rw [Bool.not_eq_false] at hsame
      rw [hsame]
      show Tuned registration asked settled ((change _ >>= fun _ => setReadInterest false :
        SiteAct ε ω Unit).after _)
      rw [Act.after_bind_of_ok (run_change ..)]
      exact tuned_of_withdraw ⟨h.attached, h.isOpen, h.awake, h.live, h.obliging⟩ rfl rfl h.writing

/-! ## Writing -/

/-- Nothing of the stance changes, but messages may join the queue. -/
def Queueing (site site' : Site ε ω) : Prop :=
  ∃ more, stance site' = { stance site with pending := site.channel.pending ++ more }

instance : IsPreorder (Site ε ω) Queueing where
  refl site := ⟨[], by rw [List.append_nil]; rfl⟩
  trans := by
    rintro first second third ⟨more, hsecond⟩ ⟨others, hthird⟩
    refine ⟨more ++ others, ?_⟩
    have hpending : second.channel.pending = first.channel.pending ++ more :=
      congrArg Stance.pending hsecond
    rw [hthird, hsecond, hpending, List.append_assoc]

theorem queueing_of_stance {act : SiteAct ε ω α} (h : Act.Within (Act.Fixing stance) act) :
    Act.Within Queueing act := by
  refine h.mono ?_
  intro site site' hsame
  refine ⟨[], ?_⟩
  rw [List.append_nil]
  exact hsame

/-- A write concerns nothing but the end of the queue. -/
theorem within_write (message : Message) :
    Act.Within Queueing (write message : SiteAct ε ω Ticket) := by
  refine within_write_of ?_ ?_ ?_ ?_ message
  · exact fun message => queueing_of_stance (within_stance_of_memory (within_prepare message))
  · exact fun _ => queueing_of_stance (within_stance_ledger _)
  · exact fun act => queueing_of_stance (within_stance_futures act)
  · exact fun site write => ⟨[write], rfl⟩

theorem tuned_write (message : Message) :
    Act.Within (Act.Keeping (Tuned registration asked settled))
      (write message : SiteAct ε ω Ticket) := by
  intro site h
  obtain ⟨more, hstance⟩ := within_write message site
  unfold Tuned
  rw [hstance]
  refine ⟨⟨h.attached, h.isOpen, h.awake, h.live, h.obliging⟩, h.autoRead, h.asked, h.settled, ?_⟩
  intro hwaits hnil
  exact h.writing hwaits (List.append_eq_nil_iff.mp hnil).1

/-! ## Flushing -/

variable [Endpoint.Aloof ε]

theorem served_stance : Served (Act.Fixing stance : Site ε ω → Site ε ω → Prop) where
  attempt attempts message :=
    within_stance_native (within_attempt Endpoint.Aloof.within_send attempts message)
  futures := within_stance_futures
  discard _ := within_stance_ledger _
  log := within_stance_log

/-- **A flush tells how the queue stands.** It keeps a channel in tune, and afterwards the channel
waits to write exactly if messages are left. -/
theorem tuned_flush {site : Site ε ω} (h : Tuned registration asked settled site) :
    let site' := (flush : SiteAct ε ω Unit).after site
    Tuned registration asked settled site' ∧
      ((stance site').waits registration .writing = true ↔ site'.channel.pending ≠ []) := by
  obtain ⟨left, served, hdrain, _⟩ := run_drain site
  have hserved : stance served = stance site := by
    have hwithin := within_drain served_stance site.channel.config.spinCount.toNat
      site.channel.config.maxWrites.toNat site.channel.pending site
    rw [Act.after_of_ok hdrain] at hwithin
    exact hwithin
  have hattached : Attached registration
      (stance (served.withChannel { served.channel with pending := left })) := by
    have hstill : Attached registration (stance served) := hserved ▸ h.toAttached
    exact ⟨hstill.attached, hstill.isOpen, hstill.awake, hstill.live, hstill.obliging⟩
  obtain ⟨native, hrun, htold⟩ := run_setWriteInterest hattached (!left.isEmpty)
  have hflush : (flush : SiteAct ε ω Unit).after site =
      (served.withChannel { served.channel with pending := left }).withNative
        (served.endpoint, native) := by
    unfold flush
    rw [Act.after_bind_of_ok (run_current site), Act.after_bind_of_ok hdrain,
      Act.after_bind_of_ok (run_change ..)]
    exact Act.after_of_ok hrun
  have hwriting : native.board.waits registration served.channel.name .writing = !left.isEmpty :=
    (htold.waits .writing).trans (if_pos rfl)
  have hreading : native.board.waits registration served.channel.name .reading =
      (stance served).waits registration .reading :=
    (htold.waits .reading).trans (if_neg (by decide))
  have hwrites : native.board.waits registration served.channel.name .writing = true ↔
      left ≠ [] := by
    rw [hwriting]
    cases left <;> simp
  -- The flush left the interest in reading as it was, and the reasons for it.
  have hreads : native.board.waits registration served.channel.name .reading =
      (stance site).waits registration .reading :=
    hreading.trans (congrArg (Stance.waits · registration .reading) hserved)
  have hauto : served.channel.config.autoRead = site.channel.config.autoRead :=
    congrArg Stance.autoRead hserved
  have hpending : served.channel.readPending = site.channel.readPending :=
    congrArg Stance.readPending hserved
  intro site'
  have hsite' : site' = _ := hflush
  rw [hsite']
  refine ⟨?_, hwrites⟩
  exact
    { attached := hattached.attached
      isOpen := hattached.isOpen
      awake := hattached.awake
      live := htold.live
      obliging := htold.obliging hattached.obliging
      autoRead := fun hon => hreads.trans (h.autoRead (hauto.symm.trans hon))
      asked := fun hcounts hon => hreads.trans (h.asked hcounts (hpending.symm.trans hon))
      settled := fun hcounts hwaits =>
        (h.settled hcounts (hreads.symm.trans hwaits)).imp hauto.trans hpending.trans
      writing := hwrites.mp }

end Channel

end UdpTransport
