import UdpTransport.Channel.Inbound
import UdpTransport.Proofs.Effects

/-!
# The receive handle in a burst

The steps of a burst that only concern its receive handle never fail, whether the handle is the
channel's own or lent to it, and change nothing but the handle and the count of packets
(`Site.HandleOnly`). What holds along the changes of the handle where it is kept holds along all of
these steps (`AlongHandle`). A channel keeps its own handle from one burst to the next, until its
policy is exchanged (`ownHandle`).
-/

namespace UdpTransport

/-- Nothing changes but the receive handle, where it is kept, and the count of packets. -/
def Site.HandleOnly {ε ω : Type} (site site' : Site ε ω) : Prop :=
  ∃ handle packets outside, site' =
    { site.withChannel { site.channel with handle := handle, burstPackets := packets } with
      outside := outside }

instance {ε ω : Type} : IsPreorder (Site ε ω) Site.HandleOnly where
  refl site := ⟨site.channel.handle, site.channel.burstPackets, site.outside, rfl⟩
  trans := by
    rintro site _ _ ⟨_, _, _, rfl⟩ ⟨handle, packets, outside, rfl⟩
    exact ⟨handle, packets, outside, rfl⟩

namespace Channel

variable {ε ω : Type}

/-- There is a handle at any time of a burst. -/
theorem run_handleNow (source : HandleSource ω) (site : Site ε ω) :
    ∃ handle, (handleNow source : SiteAct ε ω ReceiveHandle).run site = .ok handle site := by
  cases source with
  | own => exact ⟨_, rfl⟩
  | lent handle => exact ⟨_, rfl⟩

theorem succeeds_handleNow (source : HandleSource ω) :
    (handleNow source : SiteAct ε ω ReceiveHandle).Succeeds := fun site =>
  ⟨_, site, (run_handleNow source site).choose_spec⟩

/-- To change it cannot fail. -/
theorem succeeds_changeHandle (source : HandleSource ω) (f : ReceiveHandle → ReceiveHandle) :
    (changeHandle source f : SiteAct ε ω Unit).Succeeds := by
  refine Act.succeeds_bind (succeeds_handleNow source) fun handle => ?_
  cases source with
  | own => exact Act.succeeds_modify _
  | lent lent => exact Act.succeeds_modify _

theorem succeeds_beginBurst (source : HandleSource ω) :
    (beginBurst source : SiteAct ε ω Unit).Succeeds := by
  refine Act.succeeds_bind (fun site => ⟨site, site, rfl⟩) fun site => ?_
  refine Act.succeeds_bind (succeeds_handleNow source) fun handle => ?_
  refine Act.succeeds_bind (succeeds_changeHandle source _) fun _ => ?_
  cases source with
  | own => exact Act.succeeds_modify _
  | lent lent => exact Act.succeeds_bind (Act.succeeds_modify _) fun _ => Act.succeeds_modify _

/-- To look up the receive handle changes nothing. -/
theorem within_handleNow {R : Site ε ω → Site ε ω → Prop} [IsPreorder (Site ε ω) R]
    (source : HandleSource ω) : Act.Within R (handleNow source : SiteAct ε ω ReceiveHandle) :=
  Act.within_of_after fun site => by
    obtain ⟨handle, hrun⟩ := run_handleNow source site
    exact Act.after_of_ok hrun

/-- A relation that holds along the changes of a receive handle, where it is kept. -/
def AlongHandle (R : Site ε ω → Site ε ω → Prop) : HandleSource ω → Prop
  | .own => ∀ (site : Site ε ω) handle,
      R site (site.withChannel { site.channel with handle := some handle })
  | .lent lent =>
      (∀ (site : Site ε ω) handle, R site { site with outside := lent.set handle site.outside }) ∧
        ∀ site : Site ε ω, R site { site with outside := lent.follow site.outside }

section AlongHandle

variable {R : Site ε ω → Site ε ω → Prop} [IsPreorder (Site ε ω) R] {source : HandleSource ω}

/-- Changes of the handle go along with what the source allows. -/
theorem AlongHandle.changeHandle (h : AlongHandle R source) (f : ReceiveHandle → ReceiveHandle) :
    Act.Within R (changeHandle source f : SiteAct ε ω Unit) := by
  refine Act.within_bind (within_handleNow source) fun handle => ?_
  cases source with
  | own => exact Act.within_modify fun site => h site _
  | lent lent => exact Act.within_modify fun site => h.1 site _

/-- So does the beginning of a burst. -/
theorem AlongHandle.beginBurst (h : AlongHandle R source)
    (hcount : ∀ site : Site ε ω,
      R site (site.withChannel { site.channel with burstPackets := 0 })) :
    Act.Within R (beginBurst source : SiteAct ε ω Unit) := by
  have hzero : Act.Within R
      (change fun channel => { channel with burstPackets := 0 } : SiteAct ε ω Unit) :=
    Act.within_modify hcount
  refine Act.within_bind Act.within_get fun site => ?_
  refine Act.within_bind (within_handleNow source) fun handle => ?_
  refine Act.within_bind (h.changeHandle _) fun _ => ?_
  cases source with
  | own => exact Act.within_bind (Act.within_pure ()) fun _ => hzero
  | lent lent => exact Act.within_bind (Act.within_modify h.2) fun _ => hzero

end AlongHandle

theorem alongHandle_handleOnly (source : HandleSource ω) :
    AlongHandle (Site.HandleOnly : Site ε ω → Site ε ω → Prop) source := by
  cases source with
  | own => exact fun site handle => ⟨some handle, _, site.outside, rfl⟩
  | lent lent =>
    exact ⟨fun site _ => ⟨site.channel.handle, _, _, rfl⟩,
      fun site => ⟨site.channel.handle, _, _, rfl⟩⟩

/-- Only the handle is changed, wherever it is kept. -/
theorem within_changeHandle (source : HandleSource ω) (f : ReceiveHandle → ReceiveHandle) :
    Act.Within Site.HandleOnly (changeHandle source f : SiteAct ε ω Unit) :=
  (alongHandle_handleOnly source).changeHandle f

theorem within_beginBurst (source : HandleSource ω) :
    Act.Within Site.HandleOnly (beginBurst source : SiteAct ε ω Unit) :=
  (alongHandle_handleOnly source).beginBurst fun site =>
    ⟨site.channel.handle, 0, site.outside, rfl⟩

/-- A receive handle whose changes do not show in what is looked at of the world around. -/
def Discreet {τ : Type} (look : ω → τ) : HandleSource ω → Prop
  | .own => True
  | .lent lent => (∀ handle outside, look (lent.set handle outside) = look outside) ∧
      ∀ outside, look (lent.follow outside) = look outside

/-- What does not show in all that is looked at does not show in a part of it. -/
theorem Discreet.part {τ τ' : Type} {look : ω → τ} {source : HandleSource ω}
    (h : Discreet look source) (f : τ → τ') : Discreet (f ∘ look) source := by
  cases source with
  | own => trivial
  | lent lent => exact ⟨fun _ _ => congrArg f (h.1 _ _), fun _ => congrArg f (h.2 _)⟩

/-- What a receive ends with when its recipient is known: the handle records the amount, and a
packet is made of the buffer with its cursor moved past the bytes. -/
def takeIn (source : HandleSource ω) (data : Buffer) (received : Received)
    (recipient : Option Address) : SiteAct ε ω (Option Packet) := do
  changeHandle source (·.noteRead received.amount)
  let data ← data.skipWritable (Socket.word64 received.amount)
  pure (some ⟨data, recipient, some received.sender⟩)

/-! ## The channel's own handle -/

/-- The policy that the channel's own handle follows. -/
def ownPolicy (site : Site ε ω) : ReceivePolicy := policy site.host site.channel.config.policy

/-- The channel's own handle when a burst is about to begin: the one of the burst before, unless the
policy was exchanged. -/
def ownHandle (site : Site ε ω) : ReceiveHandle :=
  (site.channel.handle.filter (·.policy = site.channel.config.policy)).getD
    (.ofPolicy site.channel.config.policy (ownPolicy site))

/-- The channel's own handle follows the policy of its settings. -/
theorem policy_ownHandle (site : Site ε ω) :
    (ownHandle site).policy = site.channel.config.policy := by
  unfold ownHandle
  cases hfilter : site.channel.handle.filter (·.policy = site.channel.config.policy) with
  | none => rfl
  | some handle => exact of_decide_eq_true (Option.filter_eq_some_iff.mp hfilter).2

/-- A handle is prepared by making one that fits the settings. -/
theorem run_prepareHandle (site : Site ε ω) :
    (prepareHandle : SiteAct ε ω Unit).run site =
      .ok () (site.withChannel { site.channel with handle := some (ownHandle site) }) := by
  unfold prepareHandle ownHandle
  rw [Act.bind_of_ok (EStateM.run_get site)]
  cases hhandle : site.channel.handle with
  | none => rfl
  | some handle =>
    by_cases hpolicy : handle.policy = site.channel.config.policy
    · have hsame : site.withChannel { site.channel with handle := some handle } = site := by
        rw [← hhandle]
        rfl
      simp [hpolicy, Option.filter_some, hsame]
    · simp [hpolicy, Option.filter_some]
      rfl

section Own

variable {handle : ReceiveHandle} {site : Site ε ω}

/-- The channel's own handle is found at the channel. -/
theorem run_handleNow_own (hhandle : site.channel.handle = some handle) :
    (handleNow .own : SiteAct ε ω ReceiveHandle).run site = .ok handle site := by
  show EStateM.Result.ok (site.channel.handle.getD _) site = _
  rw [hhandle]
  rfl

/-- It is changed there. -/
theorem run_changeHandle_own (hhandle : site.channel.handle = some handle)
    (f : ReceiveHandle → ReceiveHandle) :
    (changeHandle .own f : SiteAct ε ω Unit).run site =
      .ok () (site.withChannel { site.channel with handle := some (f handle) }) :=
  (Act.bind_of_ok (run_handleNow_own hhandle)).trans rfl

/-- A burst begins with a handle that was reset by the policy as it is now. -/
theorem run_beginBurst (hhandle : site.channel.handle = some handle) :
    (beginBurst .own : SiteAct ε ω Unit).run site =
      .ok () (site.withChannel
        { site.channel with
          handle := some (handle.reset (policy site.host handle.policy)), burstPackets := 0 }) := by
  unfold beginBurst
  rw [Act.bind_of_ok (EStateM.run_get site), Act.bind_of_ok (run_handleNow_own hhandle),
    Act.bind_of_ok (run_changeHandle_own hhandle _)]
  rfl

end Own

end Channel

end UdpTransport
