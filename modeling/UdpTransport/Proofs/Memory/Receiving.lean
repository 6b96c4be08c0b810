import UdpTransport.Proofs.Along
import UdpTransport.Proofs.Burst.Filling
import UdpTransport.Proofs.Burst.Handle
import UdpTransport.Proofs.Memory.Sending

/-!
# The memory of a channel that receives

Each datagram of a burst is read into a fresh buffer, which either becomes a packet or is given back
(`balances_fetch`). A packet is handed on to the handler, and belongs to it from then on. If the
handler keeps the books, the burst does (`conserves_burst`), whatever ends it.
-/

namespace UdpTransport

/-- The allocators of the components that come with a callback. -/
def Callback.uses : Callback → Multiset AllocatorId
  | packet handed => handed.content.uses
  | _ => 0

namespace Channel

variable {ε ω α : Type} {holding : List PendingWrite → ω → Holding}
  {owned : ω → Holding} {source : HandleSource ω}

/-- A handler takes over what comes with its callbacks, and keeps the books. -/
def Bookkeeping (owned : ω → Holding) (handler : Handler ε ω) : Prop :=
  ∀ callback, Act.Balances (Site.custody owned) callback.uses (handler callback) (fun _ => 0) 0

/-- A receive handle that is kept elsewhere is not memory. -/
def Apart (owned : ω → Holding) : HandleSource ω → Prop
  | .own => True
  | .lent lent => (∀ handle outside, owned (lent.set handle outside) = owned outside) ∧
      ∀ outside, owned (lent.follow outside) = owned outside

/-! ## The receive handle -/

theorem alongHandle_custody (hsource : Apart owned source) :
    AlongHandle (Act.Fixing (Site.custody owned) : Site ε ω → Site ε ω → Prop) source := by
  cases source with
  | own => exact fun _ _ => rfl
  | lent lent =>
    refine ⟨fun site handle => ?_, fun site => ?_⟩
    · show Custody.mk _ ((owned (lent.set handle site.outside)).add _) = _
      rw [hsource.1]
      rfl
    · show Custody.mk _ ((owned (lent.follow site.outside)).add _) = _
      rw [hsource.2]
      rfl

theorem within_custody_changeHandle (hsource : Apart owned source)
    (f : ReceiveHandle → ReceiveHandle) :
    Act.Within (Act.Fixing (Site.custody owned)) (changeHandle source f : SiteAct ε ω Unit) :=
  (alongHandle_custody hsource).changeHandle f

theorem within_custody_beginBurst (hsource : Apart owned source) :
    Act.Within (Act.Fixing (Site.custody owned)) (beginBurst source : SiteAct ε ω Unit) :=
  (alongHandle_custody hsource).beginBurst fun _ => rfl

theorem within_custody_prepareHandle :
    Act.Within (Act.Fixing (Site.custodyBy holding)) (prepareHandle : SiteAct ε ω Unit) := by
  intro site
  rw [Act.after_of_ok (run_prepareHandle site)]
  rfl

/-! ## One datagram -/

/-- A packet uses what its buffer did. -/
theorem Fills.uses {data : Buffer} {packet : Packet} (h : Fills data packet) :
    packet.content.uses = data.uses := Buffer.uses_of_evolves h.content

section Fetching

variable [Endpoint ε]

/-- To fill a receive buffer takes no memory and gives none back. -/
theorem filling_custody (hsource : Apart owned source) :
    Filling (Act.Fixing (Site.custody owned) : Site ε ω → Site ε ω → Prop) source where
  localAddress := within_custody_localAddress
  remoteAddress := within_custody_remoteAddress
  readInto _ := within_custody_native _
  receiveInto _ := within_custody_native _
  handle := within_custody_changeHandle hsource

/-- What a read leaves in hand: a packet, or nothing. -/
def fetched (packet? : Option Packet) : Multiset AllocatorId := packet?.elim 0 (·.content.uses)

/-- **A receive buffer makes a packet or is given back.** -/
theorem balances_fetch (hsource : Apart owned source) (allocator : AllocatorId)
    (connected : Bool) :
    Act.Balances (Site.custody owned) 0
      (fetch source allocator connected : SiteAct ε ω (Option Packet)) fetched 0 := by
  unfold fetch
  refine Act.Balances.bind (.fixing (within_handleNow source) (fun _ _ => rfl) rfl)
    fun handle _ => ?_
  refine Act.Balances.bind (balances_ledger (Ledger.balances_allocate _ _)) fun data _ => ?_
  refine Act.Balances.bind (.aside (within_custody_changeHandle hsource _)
    (succeeds_changeHandle source _)) fun _ _ => ?_
  -- Until the outcome is known the buffer is held, and only a packet takes it along.
  have hnext : Act.Balances (Site.custody owned) data.uses
      (if connected then nextConnected source data else nextUnconnected source data :
        SiteAct ε ω (Option Packet)) (fun packet? => packet?.elim data.uses (·.content.uses))
      data.uses := by
    cases connected with
    | true =>
      refine .fixing (within_nextConnected (filling_custody hsource) data) (fun packet? h => ?_) rfl
      cases packet? with
      | none => rfl
      | some packet => exact (fills_nextConnected h).uses
    | false =>
      refine .fixing (within_nextUnconnected (filling_custody hsource) data)
        (fun packet? h => ?_) rfl
      cases packet? with
      | none => rfl
      | some packet => exact (fills_nextUnconnected h).uses
  refine Act.Balances.bind (.capture hnext) fun result _ => ?_
  cases result with
  | error fault =>
    exact Act.Balances.bind (balances_discard (add_zero _).symm) fun _ _ => .throw rfl
  | ok packet? =>
    cases packet? with
    | none => exact Act.Balances.bind (balances_discard (add_zero _).symm) fun _ _ => .pure rfl
    | some packet => exact .pure rfl

end Fetching

/-! ## The burst -/

section Burst

variable [Endpoint ε] {handler : Handler ε ω}

omit [Endpoint ε] in
theorem balances_tell (hhandler : Bookkeeping owned handler) (callback : Callback) :
    Act.Balances (Site.custody owned) callback.uses (tell handler callback) (fun _ => 0) 0 := by
  have hrecord : ∀ event : Event, (liftM (Native.record event) : SiteAct ε ω Unit).Succeeds :=
    fun event => succeeds_lift_native fun s => ⟨(), _, rfl⟩
  refine Act.Balances.bind (.aside within_custody_current fun site => ⟨_, _, run_current site⟩)
    fun channel _ => ?_
  cases callback with
  | packet packet =>
    refine Act.Balances.bind (.aside (within_custody_plain _) (hrecord _)) fun _ _ => ?_
    exact hhandler _
  | readComplete =>
    refine Act.Balances.bind (.aside (within_custody_plain _) (hrecord _)) fun _ _ => ?_
    exact hhandler _
  | failure fault =>
    refine Act.Balances.bind (.aside (within_custody_plain _) (hrecord _)) fun _ _ => ?_
    exact hhandler _

/-- A packet that is handed on belongs to the handler. -/
theorem balances_handOn (hsource : Apart owned source) (hhandler : Bookkeeping owned handler)
    (packet : Packet) :
    Act.Balances (Site.custody owned) packet.content.uses (handOn handler source packet)
      (fun _ => 0) 0 := by
  refine Act.Balances.bind (.aside (within_custody_changeHandle hsource _)
    (succeeds_changeHandle source _)) fun _ _ => ?_
  refine Act.Balances.bind (.aside (within_custody_change fun _ => rfl) (succeeds_change _))
    fun _ _ => ?_
  have hgoes : Act.Within (Act.Fixing (Site.custody owned)) (goesOn source : SiteAct ε ω Bool) := by
    refine Act.within_of_after fun site => ?_
    obtain ⟨on, hrun, -⟩ := run_goesOn source site
    exact Act.after_of_ok hrun
  exact Act.Balances.bind (balances_tell hhandler (.packet packet)) fun _ _ =>
    .fixing hgoes (fun _ _ => rfl) rfl

theorem conserves_readAll (hsource : Apart owned source) (hhandler : Bookkeeping owned handler)
    (allocator : AllocatorId) (connected : Bool) (bound : Nat) :
    Act.Conserves (Site.custody owned) (readAll handler source allocator connected bound) := by
  induction bound with
  | zero => exact .pure ()
  | succ bound ih =>
    have hone : Act.Conserves (Site.custody owned)
        (readOne handler source allocator connected) := by
      refine Act.Balances.bind (balances_fetch hsource allocator connected) fun packet? _ => ?_
      cases packet? with
      | none => exact .pure rfl
      | some packet => exact balances_handOn hsource hhandler packet
    refine Act.Conserves.bind hone fun goes => ?_
    split
    · exact ih
    · exact .pure ()

/-- **A burst keeps the books** if its handler does, whatever ends it. -/
theorem conserves_burst (hsource : Apart owned source) (hhandler : Bookkeeping owned handler)
    (allocator : AllocatorId) :
    Act.Conserves (Site.custody owned) (burst handler source allocator) := by
  have htell : ∀ callback, callback.uses = 0 →
      Act.Conserves (Site.custody owned) (tell handler callback) := fun callback hnone =>
    (balances_tell hhandler callback).congr hnone.symm (fun _ _ => rfl) rfl
  -- However the datagrams ended, the handler is told, and then something is done about the end.
  have hrest : ∀ {conclude : SiteAct ε ω Unit}, Act.Conserves (Site.custody owned) conclude →
      Act.Conserves (Site.custody owned) (do
        changeHandle source ReceiveHandle.complete
        tell handler .readComplete
        conclude) := by
    intro conclude hconclude
    refine Act.Conserves.bind (.fixing (within_custody_changeHandle hsource _)) fun _ => ?_
    exact Act.Conserves.bind (htell _ rfl) fun _ => hconclude
  unfold burst
  refine Act.Conserves.bind (.fixing within_custody_current) fun channel => ?_
  refine Act.Conserves.bind (.fixing (within_handleNow source)) fun handle => ?_
  refine Act.Conserves.bind (.capture (conserves_readAll hsource hhandler _ _ _)) fun result => ?_
  cases result with
  | ok _ =>
    refine hrest (Act.Conserves.bind (.fixing within_custody_current) fun channel => ?_)
    split
    · exact .fixing within_custody_read
    · exact .pure ()
  | error fault =>
    refine Act.Conserves.bind (.fixing within_custody_current) fun channel => ?_
    refine Act.Conserves.bind (.fixing (within_custody_plain _)) fun _ => ?_
    exact hrest (htell _ rfl)

theorem conserves_readReadyWith (hsource : Apart owned source)
    (hhandler : Bookkeeping owned handler) :
    Act.Conserves (Site.custody owned) (readReadyWith handler source) := by
  have hholds : Act.Within (Act.Fixing (Site.custody owned)) (holdsBack : SiteAct ε ω Bool) := by
    refine Act.within_of_after fun site => ?_
    obtain ⟨held, hrun⟩ := run_holdsBack_self site
    exact Act.after_of_ok hrun
  have hsettling : Act.Within (Act.Fixing (Site.custody owned))
      (settleInterest : SiteAct ε ω Unit) :=
    within_settling (fun _ _ _ => within_custody_plain _) (within_custody_setReadInterest false)
  refine Act.Conserves.bind (.fixing hholds) fun back => ?_
  split
  · exact .fixing (within_custody_setReadInterest false)
  · refine Act.Conserves.bind (.fixing within_custody_current) fun channel => ?_
    refine Act.Conserves.bind (.fixing (within_custody_beginBurst hsource)) fun _ => ?_
    exact Act.Conserves.ensuring (conserves_burst hsource hhandler _)
      (.fixing hsettling)

theorem conserves_readReady (hhandler : Bookkeeping owned handler) :
    Act.Conserves (Site.custody owned) (readReady handler) :=
  Act.Conserves.bind (.fixing within_custody_prepareHandle) fun _ =>
    conserves_readReadyWith trivial hhandler

end Burst

end Channel

end UdpTransport
