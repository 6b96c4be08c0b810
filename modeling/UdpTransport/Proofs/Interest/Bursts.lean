import UdpTransport.Proofs.Interest.Tuning

/-!
# Interest across a burst

Inside a burst a channel is only loosely in tune: every packet that is handed on uses up the request
to read, and callbacks may switch automatic reading on and off. What lasts is that there is interest
in reading wherever there is a reason (`tuned_burst`). The end of the burst withdraws an interest
without a reason, on every way out, and the channel is in tune again (`tuned_readReadyWith`).

A request that the handler makes while reading does not go on by itself outlasts the burst it is
made in, and that burst hands on no further packet (`asked_readReady`).
-/

namespace UdpTransport.Channel

variable {ε ω α β : Type} [Endpoint ε]

/-! ## Handlers -/

/-- What a handler may do to the channel it is called by: ask for a burst, switch automatic reading,
write, flush, and whatever is no matter of interest, returning and failing among it; one after the
other, and with failures caught or not. -/
inductive Permitted : {α : Type} → SiteAct ε ω α → Prop where
  | aside {α : Type} {act : SiteAct ε ω α} (h : Act.Within (Act.Fixing stance) act) : Permitted act
  | read : Permitted read
  | setAutoRead (on : Bool) : Permitted (setAutoRead on)
  | write (message : Message) : Permitted (write message)
  | flush : Permitted flush
  | bind {α β : Type} {act : SiteAct ε ω α} {next : α → SiteAct ε ω β} (first : Permitted act)
      (later : ∀ a, Permitted (next a)) : Permitted (act >>= next)
  | capture {α : Type} {act : SiteAct ε ω α} (h : Permitted act) : Permitted act.capture

variable {registration : Registration} {asked settled : Prop}

theorem tuned_of_aside {act : SiteAct ε ω α} (h : Act.Within (Act.Fixing stance) act) :
    Act.Within (Act.Keeping (Tuned registration asked settled)) act := by
  intro site htuned
  have hstance := h site
  rw [Act.Fixing] at hstance
  unfold Tuned
  rw [hstance]
  exact htuned

/-- What is permitted keeps a channel in tune, whatever the knobs say. -/
theorem Permitted.tuned [Endpoint.Aloof ε] {act : SiteAct ε ω α} (h : Permitted act) :
    Act.Within (Act.Keeping (Tuned registration asked settled)) act := by
  induction h with
  | aside h => exact tuned_of_aside h
  | read => exact tuned_read
  | setAutoRead on => exact tuned_setAutoRead on
  | write message => exact tuned_write message
  | flush => exact fun site htuned => (tuned_flush htuned).1
  | bind first later ihfirst ihlater => exact Act.within_bind ihfirst ihlater
  | capture h ih => exact Act.within_capture ih

/-! ## What a burst does on its own account -/

/-- A relation that holds along everything that a burst does on its own account before a packet is
there: native work that is no matter of interest, memory, the receive handle, and the addresses that
the channel remembers. -/
structure Unnoticed (R : Site ε ω → Site ε ω → Prop) (source : HandleSource ω) : Prop where
  native : ∀ {α : Type} {act : NativeAct ε α}, Act.Within (Act.Fixing Endpoint.footing) act →
    Act.Within R (liftM act : SiteAct ε ω α)
  memory : ∀ {α : Type} (act : Act Ledger α), Act.Within R (liftM act : SiteAct ε ω α)
  handle : ∀ f, Act.Within R (changeHandle source f : SiteAct ε ω Unit)
  addresses : ∀ (site : Site ε ω) local? remote?, R site (site.withChannel
    { site.channel with localCache := local?, remoteCache := remote? })

section Unnoticed

variable {R : Site ε ω → Site ε ω → Prop} {source : HandleSource ω}

/-- What is no matter of interest is what a burst does on its own account. -/
theorem Unnoticed.unseen [Endpoint.Aloof ε] [IsPreorder (Site ε ω) R] (h : Unnoticed R source) :
    Unseen R source where
  localAddress := within_localAddress h.addresses (h.native Endpoint.Aloof.within_localAddress)
  remoteAddress := within_remoteAddress h.addresses (h.native Endpoint.Aloof.within_remoteAddress)
  readInto data := h.native (within_readInto Endpoint.Aloof.within_read data)
  receiveInto data := h.native (within_receiveInto Endpoint.Aloof.within_receive data)
  told name callback := by
    refine h.native (Endpoint.within_lift_footing (Native.within_record ?_))
    cases callback <;> rfl
  log level tag text :=
    h.native (Endpoint.within_lift_footing (Native.within_writeLog level tag text))
  memory := h.memory
  handle := h.handle

end Unnoticed

/-! ## The loop -/

section Loop

variable [Endpoint.Aloof ε] {handler : Handler ε ω}

omit [Endpoint.Aloof ε] in
/-- What is no matter of interest keeps a channel in tune. -/
theorem unnoticed_tuned (source : HandleSource ω) :
    Unnoticed (Act.Keeping (Tuned registration asked settled) : Site ε ω → Site ε ω → Prop)
      source where
  native h := tuned_of_aside (within_stance_native h)
  memory act := tuned_of_aside (within_stance_ledger act)
  handle f := tuned_of_aside (within_stance_of_handle (within_changeHandle source f))
  addresses _ _ _ := id

/-- **Inside of a burst** there is interest wherever there is a reason. A packet that is handed on
uses up the request to read while the interest stays, so there may be some without a reason. -/
theorem tuned_burst (hhandler : ∀ callback, Permitted (handler callback))
    (source : HandleSource ω) (allocator : AllocatorId) :
    Act.Within (Act.Keeping (Tuned registration asked False))
      (burst handler source allocator) := by
  refine within_burst (unnoticed_tuned source).unseen (fun site packets h => ?_) tuned_read
    (fun callback => ?_) allocator
  · exact
      { attached := h.attached
        isOpen := h.isOpen
        awake := h.awake
        live := h.live
        obliging := h.obliging
        autoRead := h.autoRead
        asked := fun _ hpending => absurd hpending Bool.false_ne_true
        settled := False.elim
        writing := h.writing }
  · exact within_tell (unnoticed_tuned source).unseen _ (hhandler callback).tuned

end Loop

/-! ## The end of a burst -/

/-- **The end settles it.** An interest without a reason is withdrawn. -/
theorem tuned_settleInterest [Endpoint.Aloof ε] {site : Site ε ω}
    (h : Tuned registration asked False site) :
    Tuned registration asked True ((settleInterest : SiteAct ε ω Unit).after site) := by
  have hunnoticed : Unnoticed
      (Act.Keeping (Tuned registration asked True) : Site ε ω → Site ε ω → Prop) .own :=
    unnoticed_tuned .own
  have hreport := within_report hunnoticed.unseen.log
  unfold settleInterest
  rw [Act.after_bind_of_ok (run_current site)]
  -- Interest in reading is withdrawn only where there is no reason left for it.
  by_cases hreason : site.channel.readPending = true ∨ site.channel.config.autoRead = true
  · have hskip : (!site.channel.readPending && !site.channel.config.autoRead) = false := by
      rcases hreason with hreason | hreason <;> simp [hreason]
    rw [hskip]
    exact hreport site
      { toAttached := h.toAttached
        autoRead := h.autoRead
        asked := h.asked
        settled := fun _ _ => hreason.symm
        writing := h.writing }
  · simp only [not_or, Bool.not_eq_true] at hreason
    have hwithdraw : (!site.channel.readPending && !site.channel.config.autoRead) = true := by
      simp [hreason]
    rw [hwithdraw, if_pos rfl]
    obtain ⟨native, hrun, _⟩ := run_setReadInterest h.toAttached false
    have hsettled : Tuned registration asked True
        ((setReadInterest false : SiteAct ε ω Unit).after site) :=
      tuned_of_withdraw h.toAttached hreason.2 hreason.1 h.writing
    rw [Act.after_of_ok hrun] at hsettled
    rw [Act.after_bind_of_ok hrun]
    exact hreport _ hsettled

/-- A burst leaves a channel in tune, however it ends. -/
theorem tuned_readReadyWith [Endpoint.Aloof ε] {handler : Handler ε ω}
    (hhandler : ∀ callback, Permitted (handler callback)) (source : HandleSource ω) :
    Act.Within (Act.Keeping (Tuned registration asked settled))
      (readReadyWith handler source : SiteAct ε ω Unit) := by
  intro site h
  have hready : ReadyToRead site := ⟨h.isOpen, h.awake⟩
  obtain ⟨_, begun, hbegin⟩ := succeeds_beginBurst source site
  have hbegun : Tuned registration asked False begun := by
    have hkeeps : Act.Within (Act.Keeping (Tuned registration asked False))
        (beginBurst source : SiteAct ε ω Unit) :=
      tuned_of_aside (within_stance_of_handle (within_beginBurst source))
    have hkeep := hkeeps site (h.mono id False.elim)
    rwa [Act.after_of_ok hbegin] at hkeep
  rw [after_readReadyWith handler hready hbegin]
  have hloose := tuned_burst hhandler source site.channel.config.allocator begun hbegun
  exact (tuned_settleInterest hloose).mono id fun _ => trivial

theorem tuned_readReady [Endpoint.Aloof ε] {handler : Handler ε ω}
    (hhandler : ∀ callback, Permitted (handler callback)) :
    Act.Within (Act.Keeping (Tuned registration asked settled))
      (readReady handler : SiteAct ε ω Unit) := by
  refine Act.within_bind ?_ fun _ => tuned_readReadyWith hhandler .own
  intro site h
  rw [Act.after_of_ok (run_prepareHandle site)]
  exact h

end UdpTransport.Channel
