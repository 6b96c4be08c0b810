import UdpTransport.Proofs.Addresses.Steadfast
import UdpTransport.Proofs.Along
import UdpTransport.Proofs.Lifecycle.Halves

/-!
# The addresses that a channel remembers

A channel asks its endpoint for an address once and remembers the answer. What it remembers is
forgotten where the endpoint agrees to bind, to connect or to disconnect, and where the channel is
closed. It is coherent (`Coherent`) as long as the endpoint would still report the same.

Most of what a channel does has nothing to do with addresses (`Unmoved`). To ask for an address, to
read and to receive leaves a coherent channel coherent, and gives the address that the endpoint
reports at that moment (`triple_localAddress`).
-/

namespace UdpTransport

/-- An address, unless it says nothing. -/
def Address.known? (address : Address) : Option Address :=
  if address.isUnspecified then none else some address

namespace Registration

variable (registration : Registration) (channel : String)

/-- To tell the system what a channel waits for is nothing to addresses. -/
theorem naming_updateEntry (loop : LoopId) (id flag : Nat) (wanted : Bool) :
    Act.Within (Act.Fixing Native.naming) (updateEntry loop id flag wanted) := by
  refine Act.within_bind Act.within_get fun native => ?_
  cases native.loop? loop with
  | none => exact Act.within_pure ()
  | some table =>
    dsimp only
    cases table.find? id with
    | none => exact Act.within_pure ()
    | some watched =>
      dsimp only
      generalize (if wanted then _ else _ : Nat) = interest
      split
      · exact Act.within_pure ()
      · refine Act.within_bind (Native.naming_attempt Kernel.naming_changeInterest) fun answer => ?_
        refine Act.within_bind (Native.within_orFail _ answer) fun _ => ?_
        exact Act.within_modify fun _ => rfl

/-- An entry that is removed from a loop takes no address with it. -/
theorem naming_removeEntry (loop : LoopId) (id : Nat) :
    Act.Within (Act.Fixing Native.naming) (removeEntry loop id) := by
  refine Act.within_bind Act.within_get fun native => ?_
  cases native.loop? loop with
  | none => exact Act.within_pure ()
  | some table =>
    dsimp only
    cases table.find? id with
    | none => exact Act.within_pure ()
    | some watched =>
      have herase : Act.Within (Act.Fixing Native.naming)
          (modify fun native : Native => native.setLoop loop (table.erase id) : Act Native Unit) :=
        Act.within_modify fun _ => rfl
      refine Act.within_bind (Native.naming_attempt Kernel.naming_changeInterest) fun answer => ?_
      cases answer with
      | value _ => exact herase
      | failure code =>
        dsimp only
        split
        · exact herase
        · exact Act.within_bind (Native.naming_writeLog _ _ _) fun _ => herase

/-- Interest in reads is told to the system without an address. -/
theorem naming_setReadInterest (wanted : Bool) :
    Act.Within (Act.Fixing Native.naming) (registration.setReadInterest channel wanted) := by
  cases registration with
  | observer => exact Act.within_modify fun _ => rfl
  | entry loop id => exact naming_updateEntry loop id _ wanted

/-- Interest in writes likewise. -/
theorem naming_setWriteInterest (wanted : Bool) :
    Act.Within (Act.Fixing Native.naming) (registration.setWriteInterest channel wanted) := by
  cases registration with
  | observer => exact Act.within_modify fun _ => rfl
  | entry loop id => exact naming_updateEntry loop id _ wanted

/-- A registration ends without a word about addresses. -/
theorem naming_cancel : Act.Within (Act.Fixing Native.naming) (registration.cancel channel) := by
  cases registration with
  | observer => exact Act.within_modify fun _ => rfl
  | entry loop id => exact naming_removeEntry loop id

end Registration

namespace Channel

variable {ε ω α : Type}

/-! ## What leaves addresses alone -/

/-- What is below a channel. -/
abbrev below (site : Site ε ω) : ε × Native := (site.endpoint, site.host.native)

/-- What a channel remembers, and whether it is connected. -/
def remembered (site : Site ε ω) : Option Address × Option Address × Bool :=
  (site.channel.localCache, site.channel.remoteCache, site.channel.connected)

/-- Nothing happens to the addresses of a channel, and the world around stays `fine`. -/
structure Unmoved (fine : ω → Prop) (site site' : Site ε ω) : Prop where
  endpoint : site'.endpoint = site.endpoint
  naming : site'.host.native.naming = site.host.native.naming
  remembered : remembered site' = remembered site
  fine : fine site.outside → fine site'.outside

instance (fine : ω → Prop) : IsPreorder (Site ε ω) (Unmoved fine) where
  refl _ := ⟨rfl, rfl, rfl, id⟩
  trans _ _ _ first later :=
    ⟨later.endpoint.trans first.endpoint, later.naming.trans first.naming,
      later.remembered.trans first.remembered, later.fine ∘ first.fine⟩

/-- A receive handle whose changes leave the world around fine. -/
def Respects (fine : ω → Prop) : HandleSource ω → Prop
  | .own => True
  | .lent lent => (∀ handle outside, fine outside → fine (lent.set handle outside)) ∧
      ∀ outside, fine outside → fine (lent.follow outside)

section Unmoved

variable {fine : ω → Prop}

/-- What keeps the addresses of all files keeps those of the channel. -/
theorem unmoved_plain {act : Act Native α} (h : Act.Within (Act.Fixing Native.naming) act) :
    Act.Within (Unmoved fine) (liftM act : SiteAct ε ω α) := by
  intro site
  have hafter : (liftM act : SiteAct ε ω α).after site =
      site.withNative (site.endpoint, act.after site.host.native) :=
    (after_lift_native (liftM act : NativeAct ε α) site).trans (by rw [after_lift_plain])
  rw [hafter]
  exact ⟨rfl, h site.host.native, rfl, id⟩

/-- A line in the log moves no address. -/
theorem unmoved_log (level : Log.Level) (tag text : String) :
    Act.Within (Unmoved fine) (liftM (Native.writeLog level tag text) : SiteAct ε ω Unit) :=
  unmoved_plain (Native.naming_writeLog level tag text)

/-- Neither do memory and promises. -/
theorem unmoved_memory {act : SiteAct ε ω α} (h : Act.Within Site.MemoryOnly act) :
    Act.Within (Unmoved fine) act := by
  refine h.mono ?_
  rintro site _ ⟨ledger, fallback, rfl⟩
  exact ⟨rfl, rfl, rfl, id⟩

theorem unmoved_discard (buffer : Buffer) :
    Act.Within (Unmoved fine) (liftM (Ledger.discard buffer) : SiteAct ε ω Unit) :=
  unmoved_memory (within_lift_ledger _)

theorem unmoved_futures (act : Act Futures α) :
    Act.Within (Unmoved fine) (liftM act : SiteAct ε ω α) := by
  intro site
  rw [after_lift_futures]
  exact ⟨rfl, rfl, rfl, id⟩

/-- A change of the channel moves none if it spares what the channel remembers. -/
theorem unmoved_change {f : Channel → Channel}
    (h : ∀ channel, ((f channel).localCache, (f channel).remoteCache, (f channel).connected) =
      (channel.localCache, channel.remoteCache, channel.connected)) :
    Act.Within (Unmoved fine) (change f : SiteAct ε ω Unit) :=
  Act.within_modify fun site => ⟨rfl, rfl, h site.channel, id⟩

/-- The receive handle of a burst is no part of what is remembered. -/
theorem alongHandle_unmoved {source : HandleSource ω} (hrespects : Respects fine source) :
    AlongHandle (Unmoved fine : Site ε ω → Site ε ω → Prop) source := by
  cases source with
  | own => exact fun _ _ => ⟨rfl, rfl, rfl, id⟩
  | lent lent =>
    exact ⟨fun _ _ => ⟨rfl, rfl, rfl, hrespects.1 _ _⟩, fun _ => ⟨rfl, rfl, rfl, hrespects.2 _⟩⟩

theorem unmoved_changeHandle {source : HandleSource ω} (hrespects : Respects fine source)
    (f : ReceiveHandle → ReceiveHandle) :
    Act.Within (Unmoved fine) (changeHandle source f : SiteAct ε ω Unit) :=
  (alongHandle_unmoved hrespects).changeHandle f

/-- A burst begins without a look at addresses. -/
theorem unmoved_beginBurst {source : HandleSource ω} (hrespects : Respects fine source) :
    Act.Within (Unmoved fine) (beginBurst source : SiteAct ε ω Unit) :=
  (alongHandle_unmoved hrespects).beginBurst fun _ => ⟨rfl, rfl, rfl, id⟩

theorem unmoved_setReadInterest (wanted : Bool) :
    Act.Within (Unmoved fine) (setReadInterest wanted : SiteAct ε ω Unit) :=
  within_setReadInterest_of fun registration name =>
    unmoved_plain (registration.naming_setReadInterest name wanted)

theorem unmoved_setWriteInterest (wanted : Bool) :
    Act.Within (Unmoved fine) (setWriteInterest wanted : SiteAct ε ω Unit) :=
  within_setWriteInterest_of fun registration name =>
    unmoved_plain (registration.naming_setWriteInterest name wanted)

theorem unmoved_detach : Act.Within (Unmoved fine) (detach : SiteAct ε ω Unit) :=
  within_detach_of (unmoved_change fun _ => rfl) fun registration name =>
    unmoved_plain (registration.naming_cancel name)

/-- To wait for events moves no address. -/
theorem wishing_unmoved : Wishing (Unmoved fine : Site ε ω → Site ε ω → Prop) where
  reading _ _ := ⟨rfl, rfl, rfl, id⟩
  autoRead _ _ := ⟨rfl, rfl, rfl, id⟩
  queue _ _ := ⟨rfl, rfl, rfl, id⟩
  readInterest := unmoved_setReadInterest
  writeInterest := unmoved_setWriteInterest

/-- A message that is queued may carry an address, and moves none. -/
theorem unmoved_write [Endpoint ε] (message : Message) :
    Act.Within (Unmoved fine) (write message : SiteAct ε ω Ticket) :=
  within_write_of (fun message => unmoved_memory (within_prepare message)) unmoved_discard
    unmoved_futures (fun _ _ => ⟨rfl, rfl, rfl, id⟩) message

theorem unmoved_prepareHandle : Act.Within (Unmoved fine) (prepareHandle : SiteAct ε ω Unit) := by
  intro site
  rw [Act.after_of_ok (run_prepareHandle site)]
  exact ⟨rfl, rfl, rfl, id⟩

/-- What a channel waits for after a burst is none of its addresses. -/
theorem unmoved_settleInterest : Act.Within (Unmoved fine) (settleInterest : SiteAct ε ω Unit) :=
  within_settling unmoved_log (unmoved_setReadInterest false)

end Unmoved

/-! ## Coherence -/

section Coherence

variable [Endpoint ε]

/-- What a channel remembers is what its endpoint would report. -/
structure Coherent (site : Site ε ω) : Prop where
  localCache : ∀ address, site.channel.localCache = some address →
    address.isUnspecified = false ∧ (Endpoint.reported (below site)).1 = .ok address
  remoteCache : site.channel.connected = true → ∀ address,
    site.channel.remoteCache = some address →
      (Endpoint.reported (below site)).2 = .ok (some address)

/-- A channel that remembers nothing is coherent. -/
theorem coherent_of_forgotten {site : Site ε ω} (hlocal : site.channel.localCache = none)
    (hremote : site.channel.remoteCache = none) : Coherent site where
  localCache _ h := nomatch hlocal.symm.trans h
  remoteCache _ _ h := nomatch hremote.symm.trans h

/-- An address that the channel remembers is no longer the one that the endpoint reports. -/
def Outdates (site site' : Site ε ω) : Prop :=
  (site.channel.localCache.isSome = true ∧
    (Endpoint.reported (below site')).1 ≠ (Endpoint.reported (below site)).1) ∨
  (site.channel.connected = true ∧ site.channel.remoteCache.isSome = true ∧
    (Endpoint.reported (below site')).2 ≠ (Endpoint.reported (below site)).2)

/-- As long as the endpoint reports the same, nothing is outdated. -/
theorem not_outdates_of_reported {site site' : Site ε ω}
    (h : Endpoint.reported (below site') = Endpoint.reported (below site)) :
    ¬ Outdates site site' := by
  rintro (⟨-, hchanged⟩ | ⟨-, -, hchanged⟩)
  · exact hchanged (congrArg Prod.fst h)
  · exact hchanged (congrArg Prod.snd h)

/-- A channel stays coherent until an address that it remembers is outdated. -/
theorem Coherent.kept {site site' : Site ε ω} (h : Coherent site)
    (hsame : remembered site' = remembered site) (hkept : ¬ Outdates site site') :
    Coherent site' := by
  obtain ⟨hlocal, hsame⟩ := Prod.mk.inj hsame
  obtain ⟨hremote, hconnected⟩ := Prod.mk.inj hsame
  constructor
  case localCache =>
    intro address hcache
    rw [hlocal] at hcache
    obtain ⟨hspecified, hreported⟩ := h.localCache address hcache
    refine ⟨hspecified, ?_⟩
    by_contra hchanged
    exact hkept (.inl ⟨by rw [hcache]; rfl, fun hstill => hchanged (hstill.trans hreported)⟩)
  case remoteCache =>
    intro hjoined address hcache
    rw [hremote] at hcache
    rw [hconnected] at hjoined
    have hreported := h.remoteCache hjoined address hcache
    by_contra hchanged
    exact hkept (.inr ⟨hjoined, by rw [hcache]; rfl,
      fun hstill => hchanged (hstill.trans hreported)⟩)

/-- The channel is coherent over an endpoint whose word can be relied on, and the world around is
fine. -/
structure Current (steady : ε × Native → Prop) (fine : ω → Prop) (site : Site ε ω) : Prop where
  steady : steady (below site)
  coherent : Coherent site
  fine : fine site.outside

/-- What is told as a recipient is the address that the endpoint reports while it is open, or one
that came with the datagram. -/
def Addressed (given : Address → ε × Native → Prop) (recipient? : Option Address)
    (site : Site ε ω) : Prop :=
  (Endpoint.isOpen site.endpoint = true →
    (Endpoint.reported (below site)).1.map Address.known? = .ok recipient?) ∨
  ∃ address, given address (below site) ∧ recipient? = some address

variable {steady : ε × Native → Prop} {given : Address → ε × Native → Prop} {fine : ω → Prop}
  {site site' : Site ε ω}

section Steadfast

variable (hsteadfast : Endpoint.Steadfast steady given)

include hsteadfast

/-- A site whose addresses are unmoved has an idle endpoint. -/
theorem Unmoved.idle (h : Unmoved fine site site') :
    Endpoint.Idle steady given (below site) (below site') := by
  rw [below, below, h.endpoint]
  exact hsteadfast.aside h.naming

/-- What moves no address keeps a channel current. -/
theorem Current.unmoved (hcurrent : Current steady fine site) (h : Unmoved fine site site') :
    Current steady fine site' := by
  obtain ⟨hsteady, hreported⟩ := (h.idle hsteadfast).1 hcurrent.steady
  exact ⟨hsteady, hcurrent.coherent.kept h.remembered (not_outdates_of_reported hreported),
    h.fine hcurrent.fine⟩

/-- And what is told as a recipient stays right. -/
theorem Addressed.unmoved {recipient? : Option Address} (hcurrent : Current steady fine site)
    (haddressed : Addressed given recipient? site) (h : Unmoved fine site site') :
    Addressed given recipient? site' := by
  obtain ⟨hstill, hgiven⟩ := h.idle hsteadfast
  refine haddressed.imp (fun hreported hopen => ?_) ?_
  · rw [(hstill hcurrent.steady).2]
    exact hreported (h.endpoint ▸ hopen)
  · rintro ⟨address, hcame, hsome⟩
    exact ⟨address, hgiven address hcurrent.steady hcame, hsome⟩

end Steadfast

/-! ## Asking for an address -/

/-- A coherent channel that is open tells the local address that its endpoint reports. -/
theorem Coherent.result_localAddress (h : Coherent site)
    (hopen : Endpoint.isOpen site.endpoint = true) :
    (localAddress : SiteAct ε ω (Option Address)).result site =
      (Endpoint.reported (below site)).1.map Address.known? := by
  unfold localAddress
  rw [Act.result_congr (Act.bind_of_ok (run_current site))]
  cases hcache : site.channel.localCache with
  | some address =>
    obtain ⟨hspecified, hreported⟩ := h.localCache address hcache
    rw [hreported, Except.map, Address.known?, hspecified]
    rfl
  | none =>
    dsimp only
    rw [Act.result_congr (Act.bind_of_ok (run_isOpen site)), hopen, if_pos rfl]
    have hquery := result_lift_native (ω := ω) (Endpoint.localAddress : NativeAct ε Address) site
    cases hreported : (Endpoint.reported (below site)).1 with
    | error fault =>
      exact Act.result_of_error (Act.bind_of_error (Act.error_of_result (hquery.trans hreported)))
    | ok address =>
      rw [Act.result_congr (Act.bind_of_ok (Act.run_of_result (hquery.trans hreported)))]
      rw [Except.map, Address.known?]
      cases address.isUnspecified <;> rfl

/-- A coherent channel that is connected tells the peer that its endpoint reports. -/
theorem Coherent.result_remoteAddress (h : Coherent site)
    (hconnected : site.channel.connected = true) :
    (remoteAddress : SiteAct ε ω (Option Address)).result site =
      (Endpoint.reported (below site)).2 := by
  unfold remoteAddress
  rw [Act.result_congr (Act.bind_of_ok (run_current site))]
  cases hcache : site.channel.remoteCache with
  | some address => exact (h.remoteCache hconnected address hcache).symm
  | none =>
    dsimp only
    rw [hconnected, if_pos rfl]
    have hquery := result_lift_native (ω := ω)
      (Endpoint.remoteAddress : NativeAct ε (Option Address)) site
    cases hreported : (Endpoint.reported (below site)).2 with
    | error fault =>
      exact Act.result_of_error (Act.bind_of_error (Act.error_of_result (hquery.trans hreported)))
    | ok address? =>
      rw [Act.result_congr (Act.bind_of_ok (Act.run_of_result (hquery.trans hreported)))]
      rfl

/-- What is outdated is told nevertheless. -/
theorem Outdates.misleads (hout : Outdates site site') (h : Coherent site)
    (hsame : remembered site' = remembered site) :
    (localAddress : SiteAct ε ω (Option Address)).result site' ≠
        (Endpoint.reported (below site')).1.map Address.known? ∨
      site'.channel.connected = true ∧
        (remoteAddress : SiteAct ε ω (Option Address)).result site' ≠
          (Endpoint.reported (below site')).2 := by
  obtain ⟨hlocal, hsame⟩ := Prod.mk.inj hsame
  obtain ⟨hremote, hconnected⟩ := Prod.mk.inj hsame
  rcases hout with ⟨hsome, hchanged⟩ | ⟨hjoined, hsome, hchanged⟩
  · left
    obtain ⟨address, hcache⟩ := Option.isSome_iff_exists.mp hsome
    obtain ⟨-, hreported⟩ := h.localCache address hcache
    have htold : (localAddress : SiteAct ε ω (Option Address)).result site' =
        .ok (some address) := by
      unfold localAddress
      rw [Act.result_congr (Act.bind_of_ok (run_current site')), hlocal, hcache]
      rfl
    intro hsame
    rw [htold] at hsame
    cases hnow : (Endpoint.reported (below site')).1 with
    | error fault =>
      rw [hnow] at hsame
      cases hsame
    | ok now =>
      -- What is told can only be an address that is reported as it is.
      rw [hnow, Except.map, Address.known?] at hsame
      split at hsame
      · cases hsame
      · cases hsame
        exact hchanged (hnow.trans hreported.symm)
  · right
    obtain ⟨address, hcache⟩ := Option.isSome_iff_exists.mp hsome
    refine ⟨hconnected.trans hjoined, fun hsame => hchanged ?_⟩
    have htold : (remoteAddress : SiteAct ε ω (Option Address)).result site' =
        .ok (some address) := by
      unfold remoteAddress
      rw [Act.result_congr (Act.bind_of_ok (run_current site')), hremote, hcache]
      rfl
    exact (hsame.symm.trans htold).trans (h.remoteCache hjoined address hcache).symm

omit [Endpoint ε] in
/-- The site after its endpoint was asked. -/
def asked (act : NativeAct ε α) (site : Site ε ω) : Site ε ω :=
  site.withNative (act.after (below site))

/-- Only an answer that says something is remembered. -/
theorem after_localAddress (site : Site ε ω) :
    (localAddress : SiteAct ε ω (Option Address)).after site = site ∨
      Endpoint.isOpen site.endpoint = true ∧
        ((localAddress : SiteAct ε ω (Option Address)).after site =
            asked (Endpoint.localAddress : NativeAct ε Address) site ∨
          ∃ address, address.isUnspecified = false ∧
            (Endpoint.reported (below site)).1 = .ok address ∧
            (localAddress : SiteAct ε ω (Option Address)).after site =
              (asked (Endpoint.localAddress : NativeAct ε Address) site).withChannel
                { site.channel with localCache := some address }) := by
  unfold localAddress
  rw [Act.after_bind_of_ok (run_current site)]
  -- What is cached is returned unasked. Else the socket is asked, and an unspecified answer is not
  -- kept.
  cases site.channel.localCache with
  | some address => exact .inl rfl
  | none =>
    dsimp only
    rw [Act.after_bind_of_ok (run_isOpen site)]
    cases hopen : Endpoint.isOpen site.endpoint with
    | false => exact .inl rfl
    | true =>
      refine .inr ⟨rfl, ?_⟩
      rw [if_pos rfl]
      have hquery := result_lift_native (ω := ω) (Endpoint.localAddress : NativeAct ε Address) site
      have hafter := after_lift_native (ω := ω) (Endpoint.localAddress : NativeAct ε Address) site
      cases hreported : (Endpoint.reported (below site)).1 with
      | error fault =>
        have hrun := Act.error_of_result (hquery.trans hreported)
        exact .inl ((Act.after_of_error (Act.bind_of_error hrun)).trans hafter)
      | ok address =>
        rw [Act.after_bind_of_ok (Act.run_of_result (hquery.trans hreported)), hafter]
        cases hspecified : address.isUnspecified with
        | true => exact .inl rfl
        | false => exact .inr ⟨address, hspecified, rfl, rfl⟩

/-- Every answer is remembered. -/
theorem after_remoteAddress (site : Site ε ω) :
    (remoteAddress : SiteAct ε ω (Option Address)).after site = site ∨
      (remoteAddress : SiteAct ε ω (Option Address)).after site =
          asked (Endpoint.remoteAddress : NativeAct ε (Option Address)) site ∨
        ∃ address?, (Endpoint.reported (below site)).2 = .ok address? ∧
          (remoteAddress : SiteAct ε ω (Option Address)).after site =
            (asked (Endpoint.remoteAddress : NativeAct ε (Option Address)) site).withChannel
              { site.channel with remoteCache := address? } := by
  unfold remoteAddress
  rw [Act.after_bind_of_ok (run_current site)]
  cases site.channel.remoteCache with
  | some address => exact .inl rfl
  | none =>
    -- A channel that is not connected has no peer to ask for.
    cases site.channel.connected with
    | false => exact .inl rfl
    | true =>
      refine .inr ?_
      dsimp only
      rw [if_pos rfl]
      have hquery := result_lift_native (ω := ω)
        (Endpoint.remoteAddress : NativeAct ε (Option Address)) site
      have hafter := after_lift_native (ω := ω)
        (Endpoint.remoteAddress : NativeAct ε (Option Address)) site
      cases hreported : (Endpoint.reported (below site)).2 with
      | error fault =>
        have hrun := Act.error_of_result (hquery.trans hreported)
        exact .inl ((Act.after_of_error (Act.bind_of_error hrun)).trans hafter)
      | ok address? =>
        rw [Act.after_bind_of_ok (Act.run_of_result (hquery.trans hreported)), hafter]
        exact .inr ⟨address?, rfl, rfl⟩

/-- A channel that is current stays so, and its endpoint reports the same. -/
def Lasts (steady : ε × Native → Prop) (fine : ω → Prop) (site site' : Site ε ω) : Prop :=
  Current steady fine site → Current steady fine site' ∧
    Endpoint.reported (below site') = Endpoint.reported (below site)

instance (steady : ε × Native → Prop) (fine : ω → Prop) :
    IsPreorder (Site ε ω) (Lasts steady fine) where
  refl _ h := ⟨h, rfl⟩
  trans _ _ _ first later h :=
    let ⟨hmiddle, hfirst⟩ := first h
    let ⟨hlast, hlater⟩ := later hmiddle
    ⟨hlast, hlater.trans hfirst⟩

/-- To ask a still endpoint makes it report nothing new. -/
theorem lasts_asked {act : NativeAct ε α} (h : Act.Within (Endpoint.Still steady) act)
    (site : Site ε ω) : Lasts steady fine site (asked act site) := by
  intro hcurrent
  obtain ⟨hsteady, hreported⟩ := h (below site) hcurrent.steady
  exact ⟨⟨hsteady, hcurrent.coherent.kept rfl (not_outdates_of_reported hreported), hcurrent.fine⟩,
    hreported⟩

/-- So what is still at the endpoint lasts at the site. -/
theorem lasts_native {act : NativeAct ε α} (h : Act.Within (Endpoint.Still steady) act) :
    Act.Within (Lasts steady fine) (liftM act : SiteAct ε ω α) := by
  intro site
  rw [after_lift_native]
  exact lasts_asked h site

section Steadfast

variable (hsteadfast : Endpoint.Steadfast steady given)

include hsteadfast

/-- What moves no address lasts. -/
theorem lasts_of_unmoved {act : SiteAct ε ω α} (h : Act.Within (Unmoved fine) act) :
    Act.Within (Lasts steady fine) act := fun site hcurrent =>
  ⟨hcurrent.unmoved hsteadfast (h site), (((h site).idle hsteadfast).1 hcurrent.steady).2⟩

/-- To ask for the local address caches what the endpoint reports, and nothing else. -/
theorem lasts_localAddress :
    Act.Within (Lasts steady fine) (localAddress : SiteAct ε ω (Option Address)) := by
  intro site
  have hasked : Lasts steady fine site (asked (Endpoint.localAddress : NativeAct ε Address) site) :=
    lasts_asked (hsteadfast.localAddress.mono fun _ _ h => h.1) site
  rcases after_localAddress site with hsame | ⟨-, hsame | ⟨address, hspecified, hanswer, hsame⟩⟩
  · rw [hsame]
    exact refl_of (Lasts steady fine) site
  · rw [hsame]
    exact hasked
  · rw [hsame]
    intro hcurrent
    obtain ⟨hasked, hreported⟩ := hasked hcurrent
    refine ⟨⟨hasked.steady, ⟨?_, hasked.coherent.remoteCache⟩, hasked.fine⟩, hreported⟩
    rintro _ ⟨⟩
    exact ⟨hspecified, (congrArg Prod.fst hreported).trans hanswer⟩

/-- The same of the remote one, while the channel is connected. -/
theorem lasts_remoteAddress :
    Act.Within (Lasts steady fine) (remoteAddress : SiteAct ε ω (Option Address)) := by
  intro site
  have hasked : Lasts steady fine site
      (asked (Endpoint.remoteAddress : NativeAct ε (Option Address)) site) :=
    lasts_asked (hsteadfast.remoteAddress.mono fun _ _ h => h.1) site
  rcases after_remoteAddress site with hsame | hsame | ⟨address?, hanswer, hsame⟩
  · rw [hsame]
    exact refl_of (Lasts steady fine) site
  · rw [hsame]
    exact hasked
  · rw [hsame]
    intro hcurrent
    obtain ⟨hasked, hreported⟩ := hasked hcurrent
    refine ⟨⟨hasked.steady, ⟨hasked.coherent.localCache, ?_⟩, hasked.fine⟩, hreported⟩
    rintro - address ⟨⟩
    exact (congrArg Prod.snd hreported).trans hanswer

/-- What a channel tells as its local address is what its endpoint reports. -/
theorem addressed_localAddress {known? : Option Address} (hcurrent : Current steady fine site)
    (hrun : (localAddress : SiteAct ε ω (Option Address)).run site = .ok known? site') :
    Current steady fine site' ∧ Addressed given known? site' := by
  obtain ⟨hcurrent', hreported⟩ := lasts_localAddress hsteadfast site hcurrent
  rw [Act.after_of_ok hrun] at hcurrent' hreported
  refine ⟨hcurrent', .inl fun hopen => ?_⟩
  -- An endpoint that was closed is not asked, and then it is closed still.
  have hbefore : Endpoint.isOpen site.endpoint = true := by
    rcases after_localAddress site with hsame | ⟨hbefore, -⟩
    · rw [Act.after_of_ok hrun] at hsame
      exact hsame ▸ hopen
    · exact hbefore
  rw [hreported, ← hcurrent.coherent.result_localAddress hbefore, Act.result_of_ok hrun]

end Steadfast

end Coherence

end Channel

end UdpTransport
