import UdpTransport.Proofs.Addresses.Caches
import UdpTransport.Proofs.Triples

/-!
# Addresses of packets

The recipient of a packet is the local address that came with its datagram or, failing that, the one
that the channel tells. While the channel is coherent, that is the one that the endpoint reports at
the moment the packet is handed on (`Addressed`), whatever the handler did with the packets before
as long as it left the channel coherent (`Handler.Heeds`).
-/

namespace UdpTransport

open Channel in
/-- A handler that leaves a channel current, given that the packets that it is told of are addressed
as they should be. -/
structure Handler.Heeds {ε ω : Type} [Endpoint ε] (steady : ε × Native → Prop)
    (given : Address → ε × Native → Prop) (fine : ω → Prop) (handler : Handler ε ω) : Prop where
  keeps : ∀ callback, Act.Within (Act.Keeping fun site => steady (below site)) (handler callback)
  packet : ∀ packet site, Current steady fine site → Addressed given packet.recipient site →
    Current steady fine ((handler (.packet packet)).after site)
  readComplete : Act.Within (Act.Keeping (Current steady fine)) (handler .readComplete)
  failure : ∀ fault, Act.Within (Act.Keeping (Current steady fine)) (handler (.failure fault))

namespace Channel

variable {ε ω : Type} [Endpoint ε] {steady : ε × Native → Prop}
  {given : Address → ε × Native → Prop} {fine : ω → Prop} {source : HandleSource ω}
  {handler : Handler ε ω}

/-- The channel is current, and a packet that there is, is addressed as it should be. -/
def Offers (steady : ε × Native → Prop) (given : Address → ε × Native → Prop) (fine : ω → Prop)
    (packet? : Option Packet) (site : Site ε ω) : Prop :=
  Current steady fine site ∧ ∀ packet, packet? = some packet → Addressed given packet.recipient site

theorem offers_none {site : Site ε ω} (h : Current steady fine site) :
    Offers steady given fine none site := ⟨h, nofun⟩

theorem current_of_lasts {α : Type} {act : SiteAct ε ω α} (h : Act.Within (Lasts steady fine) act) :
    Act.Triple (Current steady fine) act (fun _ => Current steady fine)
      fun _ => Current steady fine :=
  .of_within (h.mono fun _ _ hlasts hcurrent => (hlasts hcurrent).1)

/-! ## One datagram -/

variable (hsteadfast : Endpoint.Steadfast steady given)

include hsteadfast

theorem current_of_unmoved {α : Type} {act : SiteAct ε ω α} (h : Act.Within (Unmoved fine) act) :
    Act.Triple (Current steady fine) act (fun _ => Current steady fine)
      fun _ => Current steady fine :=
  current_of_lasts (lasts_of_unmoved hsteadfast h)

theorem triple_fallback :
    Act.Triple (Current steady fine) (localAddress : SiteAct ε ω (Option Address))
      (fun recipient? site => Current steady fine site ∧ Addressed given recipient? site)
      fun _ => Current steady fine where
  ok hcurrent hrun := addressed_localAddress hsteadfast hcurrent hrun
  error hcurrent hrun := Act.after_of_error hrun ▸ (lasts_localAddress hsteadfast _ hcurrent).1

theorem triple_nextConnected (hrespects : Respects fine source) (data : Buffer) :
    Act.Triple (Current steady fine) (nextConnected source data : SiteAct ε ω (Option Packet))
      (Offers steady given fine) fun _ => Current steady fine := by
  have hread : Act.Within (Lasts steady fine)
      (connectedRead (liftM (readInto data : NativeAct ε (Buffer × Int))) :
        SiteAct ε ω (Buffer × Int)) :=
    within_connectedRead (lasts_native (within_readInto hsteadfast.read data))
  refine .bind (current_of_lasts hread) fun (data, amount) => ?_
  refine .bind (current_of_unmoved hsteadfast (unmoved_changeHandle hrespects _)) fun _ => ?_
  split
  · exact .pure fun _ => offers_none
  · refine .bind (current_of_lasts (lasts_remoteAddress hsteadfast)) fun sender => ?_
    refine .bind (triple_fallback hsteadfast) fun recipient => .pure fun site h => ?_
    exact ⟨h.1, fun packet hpacket => by cases hpacket; exact h.2⟩

/-- An address that came with a datagram is one that was given. -/
theorem given_receiveInto {data data' : Buffer} {s s' : ε × Native} {received : Received}
    {address : Address} (hsteady : steady s)
    (hrun : (receiveInto data : NativeAct ε (Buffer × Option Received)).run s =
      .ok (data', some received) s')
    (hlocal : received.local? = some address) : given address s' := by
  unfold receiveInto at hrun
  cases hroom : firstWritable? data with
  | none =>
    rw [hroom] at hrun
    cases hrun
  | some c =>
    rw [hroom] at hrun
    obtain ⟨received?, _, hreceive, hrest⟩ := Act.bind_ok_iff.mp hrun
    cases received? with
    | none => cases hrest
    | some _ =>
      cases hrest
      exact hsteadfast.received hsteady hreceive hlocal

theorem triple_receiveInto (data : Buffer) :
    Act.Triple (Current steady fine)
      (liftM (receiveInto data : NativeAct ε (Buffer × Option Received)) :
        SiteAct ε ω (Buffer × Option Received))
      (fun result site => Current steady fine site ∧ ∀ received address,
        result.2 = some received → received.local? = some address → given address (below site))
      fun _ => Current steady fine where
  ok {site result site'} hcurrent hrun := by
    have hlasts : Lasts steady fine site ((liftM (receiveInto data : NativeAct ε _) :
        SiteAct ε ω (Buffer × Option Received)).after site) :=
      lasts_native (within_receiveInto hsteadfast.receive data) site
    rw [Act.after_of_ok hrun] at hlasts
    refine ⟨(hlasts hcurrent).1, fun received address hsome hlocal => ?_⟩
    have hinner := Act.run_of_result ((result_lift_native (receiveInto data) site).symm.trans
      (Act.result_of_ok hrun))
    have hafter := (Act.after_of_ok hrun).symm.trans (after_lift_native (receiveInto data) site)
    obtain ⟨data', received?⟩ := result
    cases hsome
    rw [hafter]
    exact given_receiveInto hsteadfast hcurrent.steady hinner hlocal
  error hcurrent hrun := Act.after_of_error hrun ▸
    (lasts_native (within_receiveInto hsteadfast.receive data) _ hcurrent).1

/-- A packet that is addressed as it should be is still when the steps after it are nothing to
addresses. -/
theorem addressed_of_unmoved {α : Type} {recipient? : Option Address} {act : SiteAct ε ω α}
    (h : Act.Within (Unmoved fine) act) :
    Act.Triple (fun site => Current steady fine site ∧ Addressed given recipient? site) act
      (fun _ site => Current steady fine site ∧ Addressed given recipient? site)
      fun _ => Current steady fine where
  ok {site a site'} hsite hrun := by
    have hunmoved := h site
    rw [Act.after_of_ok hrun] at hunmoved
    exact ⟨hsite.1.unmoved hsteadfast hunmoved, hsite.2.unmoved hsteadfast hsite.1 hunmoved⟩
  error {site fault site'} hsite hrun :=
    Act.after_of_error hrun ▸ hsite.1.unmoved hsteadfast (h site)

/-- The end of a receive offers a packet that is addressed as it should be. -/
theorem triple_takeIn (hrespects : Respects fine source) (data : Buffer) (received : Received)
    (recipient? : Option Address) :
    Act.Triple (fun site => Current steady fine site ∧ Addressed given recipient? site)
      (takeIn source data received recipient? : SiteAct ε ω (Option Packet))
      (Offers steady given fine) fun _ => Current steady fine := by
  refine .bind (addressed_of_unmoved hsteadfast (unmoved_changeHandle hrespects _)) fun _ => ?_
  refine .bind (.ofExcept (fun _ _ _ => id) fun _ _ _ h => h.1) fun data => ?_
  exact .pure fun site h => ⟨h.1, fun packet hpacket => by cases hpacket; exact h.2⟩

theorem triple_nextUnconnected (hrespects : Respects fine source) (data : Buffer) :
    Act.Triple (Current steady fine) (nextUnconnected source data : SiteAct ε ω (Option Packet))
      (Offers steady given fine) fun _ => Current steady fine := by
  refine .bind (triple_receiveInto hsteadfast data) fun (data, received?) => ?_
  cases received? with
  | none =>
    refine .bind ((current_of_unmoved hsteadfast (unmoved_changeHandle hrespects _)).weaken
      (fun _ h => h.1) (fun _ _ => id) fun _ _ => id) fun _ => ?_
    exact .pure fun _ => offers_none
  | some received =>
    have hrest := triple_takeIn hsteadfast hrespects data received
    dsimp only
    -- The address is the packet's own, or else the channel's.
    cases hlocal : received.local? with
    | some address =>
      refine .bind (.pure fun site h => ⟨h.1, .inr ⟨address, h.2 received address rfl hlocal, ?_⟩⟩)
        hrest
      rfl
    | none =>
      exact .bind ((triple_fallback hsteadfast).weaken (fun _ h => h.1) (fun _ _ => id)
        fun _ _ => id) hrest

theorem triple_fetch (hrespects : Respects fine source) (allocator : AllocatorId)
    (connected : Bool) :
    Act.Triple (Current steady fine)
      (fetch source allocator connected : SiteAct ε ω (Option Packet))
      (Offers steady given fine) fun _ => Current steady fine := by
  have hmemory : ∀ {α : Type} (act : Act Ledger α),
      Act.Within (Unmoved fine) (liftM act : SiteAct ε ω α) :=
    fun act => unmoved_memory (within_lift_ledger act)
  have hdiscard : ∀ buffer, Act.Triple (Current steady fine)
      (liftM (Ledger.discard buffer) : SiteAct ε ω Unit) (fun _ => Current steady fine)
      fun _ => Current steady fine := fun _ => current_of_unmoved hsteadfast (hmemory _)
  refine .bind (current_of_unmoved hsteadfast (within_handleNow source)) fun handle => ?_
  refine .bind (current_of_unmoved hsteadfast (hmemory _)) fun data => ?_
  refine .bind (current_of_unmoved hsteadfast (unmoved_changeHandle hrespects _)) fun _ => ?_
  have hnext : Act.Triple (Current steady fine)
      (if connected then nextConnected source data else nextUnconnected source data :
        SiteAct ε ω (Option Packet)) (Offers steady given fine) fun _ => Current steady fine := by
    cases connected with
    | true => exact triple_nextConnected hsteadfast hrespects data
    | false => exact triple_nextUnconnected hsteadfast hrespects data
  -- Giving memory back leaves the addresses alone, whatever became of the packet.
  refine .capture_bind hnext (fun packet? => ?_) fun fault => ?_
  · cases packet? with
    | none =>
      refine .bind ((hdiscard data).weaken (fun _ h => h.1) (fun _ _ => id) fun _ _ => id)
        fun _ => ?_
      exact .pure fun _ => offers_none
    | some packet => exact .pure fun _ => id
  · exact .bind (hdiscard data) fun _ => .throw fun _ => id

/-! ## The burst -/

omit hsteadfast in
omit [Endpoint ε] in
theorem unmoved_record (event : Event) :
    Act.Within (Unmoved fine) (liftM (Native.record event) : SiteAct ε ω Unit) :=
  unmoved_plain (Act.within_modify fun _ => rfl)

section Handing

variable (hhandler : handler.Heeds steady given fine)

include hhandler

theorem triple_tell (packet : Packet) :
    Act.Triple (fun site => Current steady fine site ∧ Addressed given packet.recipient site)
      (tell handler (.packet packet)) (fun _ => Current steady fine)
      fun _ => Current steady fine := by
  refine .bind (addressed_of_unmoved hsteadfast (Act.within_of_after fun _ => rfl))
    fun channel => ?_
  refine .bind (addressed_of_unmoved hsteadfast (unmoved_record _)) fun _ => ?_
  exact
    { ok := fun {site _ _} h hrun => Act.after_of_ok hrun ▸ hhandler.packet packet site h.1 h.2
      error := fun {site _ _} h hrun =>
        Act.after_of_error hrun ▸ hhandler.packet packet site h.1 h.2 }

theorem triple_handOn (hrespects : Respects fine source) (packet : Packet) :
    Act.Triple (fun site => Current steady fine site ∧ Addressed given packet.recipient site)
      (handOn handler source packet) (fun _ => Current steady fine)
      fun _ => Current steady fine := by
  refine .bind (addressed_of_unmoved hsteadfast (unmoved_changeHandle hrespects _)) fun _ => ?_
  refine .bind (addressed_of_unmoved hsteadfast (unmoved_change fun _ => rfl)) fun _ => ?_
  refine .bind (triple_tell hsteadfast hhandler packet) fun _ => ?_
  refine current_of_unmoved hsteadfast (Act.within_of_after fun site => ?_)
  obtain ⟨on, hrun, _⟩ := run_goesOn source site
  exact Act.after_of_ok hrun

/-- What each round leaves current, the loop does. -/
theorem triple_readAll (hrespects : Respects fine source) (allocator : AllocatorId)
    (connected : Bool) (bound : Nat) :
    Act.Triple (Current steady fine) (readAll handler source allocator connected bound)
      (fun _ => Current steady fine) fun _ => Current steady fine := by
  induction bound with
  | zero => exact .pure fun _ => id
  | succ bound ih =>
    refine .via (fun _ => Current steady fine) ?_ fun goes => ?_
    · refine .bind (triple_fetch hsteadfast hrespects allocator connected) fun packet? => ?_
      cases packet? with
      | none => exact .pure fun _ h => h.1
      | some packet =>
        exact (triple_handOn hsteadfast hhandler hrespects packet).weaken
          (fun _ h => ⟨h.1, h.2 packet rfl⟩) (fun _ _ => id) fun _ _ => id
    · cases goes with
      | true => exact ih
      | false => exact .pure fun _ => id

/-- A handler is told that a burst is over, or what it failed with. -/
theorem current_tell {callback : Callback} (hnotes : ∀ packet, callback ≠ .packet packet) :
    Act.Within (Act.Keeping (Current steady fine)) (tell handler callback) := by
  have hrecord : ∀ event, Act.Within (Act.Keeping (Current steady fine))
      (liftM (Native.record event) : SiteAct ε ω Unit) := fun event =>
    (current_of_unmoved hsteadfast (unmoved_record event)).within
  refine Act.within_bind (Act.within_of_after fun _ => rfl) fun channel => ?_
  cases callback with
  | packet packet => exact absurd rfl (hnotes packet)
  | readComplete => exact Act.within_bind (hrecord _) fun _ => hhandler.readComplete
  | failure fault => exact Act.within_bind (hrecord _) fun _ => hhandler.failure fault

theorem current_concluding (hrespects : Respects fine source) (result : Except Fault Unit) :
    Act.Within (Act.Keeping (Current steady fine)) (concluding handler source result) := by
  have hunmoved : ∀ {act : SiteAct ε ω Unit}, Act.Within (Unmoved fine) act →
      Act.Within (Act.Keeping (Current steady fine)) act :=
    fun h => (current_of_unmoved hsteadfast h).within
  have htold : ∀ {next : SiteAct ε ω Unit}, Act.Within (Act.Keeping (Current steady fine)) next →
      Act.Within (Act.Keeping (Current steady fine)) (do
        changeHandle source ReceiveHandle.complete
        tell handler .readComplete
        next) := fun hnext =>
    Act.within_bind (hunmoved (unmoved_changeHandle hrespects _)) fun _ =>
      Act.within_bind (current_tell hsteadfast hhandler nofun) fun _ => hnext
  cases result with
  | ok _ =>
    refine htold (Act.within_bind (Act.within_of_after fun _ => rfl) fun channel => ?_)
    split
    · exact hunmoved (within_read_of_wishing wishing_unmoved)
    · exact Act.within_pure ()
  | error fault =>
    refine Act.within_bind (Act.within_of_after fun _ => rfl) fun channel => ?_
    refine Act.within_bind (hunmoved (unmoved_log _ _ _)) fun _ => ?_
    exact htold (current_tell hsteadfast hhandler nofun)

/-- A burst leaves a current channel current, however it ends. -/
theorem current_readReadyWith (hrespects : Respects fine source) :
    Act.Within (Act.Keeping (Current steady fine))
      (readReadyWith handler source : SiteAct ε ω Unit) := by
  have hunmoved : ∀ {act : SiteAct ε ω Unit}, Act.Within (Unmoved fine) act →
      Act.Within (Act.Keeping (Current steady fine)) act :=
    fun h => (current_of_unmoved hsteadfast h).within
  refine Act.within_bind (Act.within_of_after fun site => ?_) fun held => ?_
  · obtain ⟨held, hheld⟩ := run_holdsBack_self site
    exact Act.after_of_ok hheld
  split
  · exact hunmoved (unmoved_setReadInterest false)
  refine Act.within_bind (Act.within_of_after fun _ => rfl) fun channel => ?_
  refine Act.within_bind (hunmoved (unmoved_beginBurst hrespects)) fun _ site hcurrent => ?_
  obtain ⟨bound, hburst⟩ := after_burst handler source channel.config.allocator site
  rw [Act.after_ensuring, hburst]
  have hread := (triple_readAll hsteadfast hhandler hrespects channel.config.allocator
    site.channel.connected bound).within site hcurrent
  exact hunmoved unmoved_settleInterest _
    (current_concluding hsteadfast hhandler hrespects _ _ hread)

theorem current_readReady :
    Act.Within (Act.Keeping (Current steady fine)) (readReady handler : SiteAct ε ω Unit) :=
  Act.within_bind (current_of_unmoved hsteadfast unmoved_prepareHandle).within fun _ =>
    current_readReadyWith hsteadfast hhandler trivial

end Handing

end Channel

end UdpTransport
