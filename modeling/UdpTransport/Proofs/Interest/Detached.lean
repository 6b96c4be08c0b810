import UdpTransport.Proofs.Interest.Runs

/-!
# Interest of a detached channel

Nobody listens to a channel that is attached to nothing. What it is asked for then shows in its own
flags and in its queue, and nowhere else: `InterestOp.adrift` says that all operations leave a
detached channel detached, the endpoint open or closed as it was, and the board alone.
-/

namespace UdpTransport.Channel

variable {ε ω α : Type} [Endpoint ε]

/-- What a detached channel keeps. -/
def bare (site : Site ε ω) : Option Registration × Bool × Bool × Board :=
  (site.channel.registration, site.channel.config.suspended, Endpoint.isOpen site.endpoint,
    site.host.native.board)

/-- A detached channel stays detached and disturbs nobody. -/
def Adrift (site site' : Site ε ω) : Prop :=
  site.channel.registration = none → bare site' = bare site

instance : IsPreorder (Site ε ω) Adrift where
  refl _ _ := rfl
  trans := by
    intro first second third hsecond hthird hnone
    have hbare := hsecond hnone
    have hstill : second.channel.registration = none := (congrArg Prod.fst hbare).trans hnone
    exact (hthird hstill).trans hbare

/-- What keeps the stance of a channel disturbs nobody. -/
theorem Adrift.of_stance {site site' : Site ε ω} (h : Act.Fixing stance site site') :
    Adrift site site' := fun _ =>
  congrArg (fun stance : Stance =>
    (stance.registration, stance.suspended, stance.isOpen, stance.board)) h

theorem adrift_of_stance {act : SiteAct ε ω α} (h : Act.Within (Act.Fixing stance) act) :
    Act.Within Adrift act := h.mono fun _ _ => .of_stance

/-- What is queued is seen by nobody until it is sent. -/
theorem adrift_of_queueing {act : SiteAct ε ω α} (h : Act.Within Queueing act) :
    Act.Within Adrift act := by
  refine h.mono ?_
  rintro site site' ⟨more, hstance⟩ _
  exact congrArg (fun stance : Stance =>
    (stance.registration, stance.suspended, stance.isOpen, stance.board)) hstance

/-- A burst goes unnoticed between its callbacks. -/
theorem unnoticed_adrift (source : HandleSource ω) :
    Unnoticed (Adrift : Site ε ω → Site ε ω → Prop) source where
  native h := adrift_of_stance (within_stance_native h)
  memory act := adrift_of_stance (within_stance_ledger act)
  handle f := adrift_of_stance (within_stance_of_handle (within_changeHandle source f))
  addresses _ _ _ _ := rfl

/-- Where nobody listens, interest in reads is asked of nobody. -/
theorem adrift_setReadInterest (wanted : Bool) :
    Act.Within Adrift (setReadInterest wanted : SiteAct ε ω Unit) := by
  intro site hnone
  unfold setReadInterest
  rw [Act.after_bind_of_ok (run_current site), hnone]
  rfl

theorem adrift_setWriteInterest (wanted : Bool) :
    Act.Within Adrift (setWriteInterest wanted : SiteAct ε ω Unit) := by
  intro site hnone
  unfold setWriteInterest
  rw [Act.after_bind_of_ok (run_current site), hnone]
  rfl

/-- So wishes of a detached channel remain its own. -/
theorem wishing_adrift : Wishing (Adrift : Site ε ω → Site ε ω → Prop) where
  reading _ _ _ := rfl
  autoRead _ _ _ := rfl
  queue _ _ _ := rfl
  readInterest := adrift_setReadInterest
  writeInterest := adrift_setWriteInterest

variable [Endpoint.Aloof ε]

theorem adrift_flush : Act.Within Adrift (flush : SiteAct ε ω Unit) :=
  within_flush wishing_adrift (served_stance.mono fun _ _ => .of_stance)

/-- A handler that may only ask for what channels offer disturbs nobody. -/
theorem Permitted.adrift {act : SiteAct ε ω α} (h : Permitted act) : Act.Within Adrift act := by
  induction h with
  | aside h => exact adrift_of_stance h
  | read => exact within_read_of_wishing wishing_adrift
  | setAutoRead on => exact within_setAutoRead wishing_adrift on
  | write message => exact adrift_of_queueing (within_write message)
  | flush => exact adrift_flush
  | bind first later ihfirst ihlater => exact Act.within_bind ihfirst ihlater
  | capture h ih => exact Act.within_capture ih

/-- Nor does a burst with such a handler. -/
theorem adrift_readReadyWith {handler : Handler ε ω}
    (hhandler : ∀ callback, Permitted (handler callback)) (source : HandleSource ω) :
    Act.Within Adrift (readReadyWith handler source : SiteAct ε ω Unit) := by
  have hunseen : Unseen (Adrift : Site ε ω → Site ε ω → Prop) source :=
    (unnoticed_adrift source).unseen
  refine within_readReadyWith hunseen ?_ (fun _ _ _ => rfl) (within_read_of_wishing wishing_adrift)
    (adrift_setReadInterest false) fun callback => ?_
  · exact adrift_of_stance (within_stance_of_handle (within_beginBurst source))
  · exact within_tell hunseen _ (hhandler callback).adrift

/-- **A detached channel only takes note.** -/
theorem InterestOp.adrift {op : InterestOp ε ω} (hmannered : op.Mannered) :
    Act.Within Adrift op.run := by
  cases op with
  | read => exact within_read_of_wishing wishing_adrift
  | setAutoRead on => exact within_setAutoRead wishing_adrift on
  | write message =>
    exact Act.within_bind (adrift_of_queueing (within_write message)) fun _ => Act.within_pure ()
  | flush => exact adrift_flush
  | writeAndFlush message =>
    refine Act.within_bind ?_ fun _ => Act.within_pure ()
    refine Act.within_bind (adrift_of_queueing (within_write message)) fun ticket => ?_
    exact Act.within_bind adrift_flush fun _ => Act.within_pure ticket
  | readReady handler =>
    refine Act.within_bind ?_ fun _ => adrift_readReadyWith hmannered .own
    intro site
    rw [Act.after_of_ok (run_prepareHandle site)]
    exact fun _ => rfl
  | readReadyWith handler handle => exact adrift_readReadyWith hmannered (.lent handle)

end UdpTransport.Channel
