import UdpTransport.Proofs.Memory.Bench
import UdpTransport.Proofs.Outbound.Prepare
import UdpTransport.Scenario.Channels

/-!
# Admitting all of a message or nothing

A message is turned down if it is of a form that channels do not send (`Message.Unsendable`), or if
its payload has to be copied and no memory is to be had for the copy (`Channel.CopyRefused`). Then
the message stays what it was, and no memory that was asked for meanwhile stays in use. Otherwise it
is admitted as it is, or with a copy of its payload in direct memory; the payload is given back only
once the copy is there, each component once (`Channel.run_prepare_copied`).

**The main result is `World.admission_performPrepare`**, on a stored message that is handed to a
channel.
-/

namespace UdpTransport

namespace Message

/-- The messages that no channel sends. -/
inductive Unsendable : Message → Prop where
  | empty : Unsendable .empty
  | packet {p : Packet} (h : ∀ a, p.recipient = some a → a.isInternet = false) :
    Unsendable (.packet p)
  | segmented {p : Packet} {size : SegmentSize}
    (h : ∀ a, p.recipient = some a → a.isInternet = false) : Unsendable (.segmented p size)
  | envelope {content : Buffer} {a : Address} (h : a.isInternet = false) :
    Unsendable (.envelope content (some a))

theorem unsendable_iff {message : Message} : message.isSendable = false ↔ Unsendable message := by
  have hany : ∀ recipient : Option Address, recipient.any Address.isInternet = false ↔
      ∀ a, recipient = some a → a.isInternet = false := by
    intro recipient
    cases recipient <;> simp
  constructor
  · intro h
    cases message with
    | empty => exact .empty
    | buffer content => cases h
    | packet p => exact .packet ((hany p.recipient).mp h)
    | segmented p size => exact .segmented ((hany p.recipient).mp h)
    | envelope content recipient =>
      cases recipient with
      | none => cases h
      | some a => exact .envelope h
  · rintro (_ | ⟨h⟩ | ⟨h⟩ | h)
    · rfl
    · exact (hany _).mpr h
    · exact (hany _).mpr h
    · exact h

theorem isSendable_of_not {message : Message} (h : ¬ Unsendable message) :
    message.isSendable = true :=
  Bool.eq_true_of_not_eq_false fun hnot => h (unsendable_iff.mp hnot)

end Message

namespace Ledger

/-- An allocator has no account, may allocate no more, or is asked for too large a block. -/
def Refuses (ledger : Ledger) (id : AllocatorId) (size : Nat) : Prop :=
  (ledger.account? id).bind Account.spend? = none ∨ largestBlock < size

/-- The same was allocated on each account, and the same given back. -/
def SameCounts (ledger ledger' : Ledger) : Prop :=
  ∀ id, ledger'.allocated id = ledger.allocated id ∧ ledger'.released id = ledger.released id

variable {ledger : Ledger} {id : AllocatorId} {size : Nat}

theorem SameCounts.refl (ledger : Ledger) : SameCounts ledger ledger := fun _ => ⟨rfl, rfl⟩

/-- What is refused is not counted. -/
theorem allocate_of_refuses (h : ledger.Refuses id size) :
    ∃ ledger', (allocate id size).run ledger = .error .outOfMemory ledger' ∧
      SameCounts ledger ledger' := by
  cases hspend : (ledger.account? id).bind Account.spend? with
  | none => exact ⟨ledger, allocate_of_none hspend, .refl ledger⟩
  | some spent =>
    have hlarge : largestBlock < size :=
      h.resolve_left (by rw [hspend]; exact Option.some_ne_none _)
    obtain ⟨account, haccount, hspent⟩ := Option.bind_eq_some_iff.mp hspend
    obtain ⟨hallocated, hreleased⟩ := spend?_counts hspent
    exact ⟨_, allocate_of_large hspend hlarge, fun other =>
      ⟨tally_replace haccount hallocated other, tally_replace haccount hreleased other⟩⟩

/-- What is not refused is made and counted. -/
theorem allocate_of_not_refuses (h : ¬ ledger.Refuses id size) {kind : MemoryKind}
    (hkind : ledger.kind? id = some kind) :
    ∃ ledger', (allocate id size).run ledger =
        .ok (.ofComponents [.zeroed id kind size]) ledger' ∧
      ∀ other, ledger'.allocated other = ledger.allocated other + (if id = other then 1 else 0) ∧
        ledger'.released other = ledger.released other := by
  rw [Refuses, not_or, Nat.not_lt] at h
  obtain ⟨hspend, hsize⟩ := h
  obtain ⟨spent, hspent⟩ := Option.ne_none_iff_exists'.mp hspend
  obtain ⟨account, haccount, hspends⟩ := Option.bind_eq_some_iff.mp hspent
  obtain ⟨hallocated, hreleased⟩ := spend?_counts hspends
  have hrun := allocate_of_fits hspent hsize
  obtain ⟨hbuffer, -⟩ := allocate_ok hkind hrun
  have hcharged : spent.charge.released = account.released := hreleased
  exact ⟨_, hbuffer ▸ hrun, fun other =>
    ⟨allocated_charge haccount hallocated other, tally_replace haccount hcharged other⟩⟩

end Ledger

namespace Channel

variable {ε ω : Type} {message : Message} {payload : Buffer} {site site' : Site ε ω}

/-! ## Copies -/

/-- To find the allocator of copies counts nothing and forgets no account. -/
theorem quiet_directAllocator {id : AllocatorId}
    (h : (directAllocator : SiteAct ε ω AllocatorId).run site = .ok id site') :
    Ledger.SameCounts site.host.ledger site'.host.ledger ∧
      Ledger.Continues site.host.ledger site'.host.ledger := by
  have hsame : Ledger.SameCounts site.host.ledger site.host.ledger ∧
      Ledger.Continues site.host.ledger site.host.ledger := ⟨.refl _, refl_of Ledger.Continues _⟩
  unfold directAllocator at h
  rw [Act.bind_of_ok (EStateM.run_get site)] at h
  dsimp only at h
  split at h
  · cases h
    exact hsame
  · split at h
    · cases h
      exact hsame
    · -- A new account is opened, and the channel keeps it.
      have hopen := @Ledger.openAccount_owned site.host.ledger .direct (by decide)
      rw [Act.bind_of_ok (lift_ledger_ok hopen), Act.bind_of_ok (run_change ..)] at h
      cases h
      refine ⟨fun other => ⟨Ledger.tally_append _ _ rfl other, Ledger.tally_append _ _ rfl other⟩,
        fun other kind hkind => ?_⟩
      obtain ⟨account, haccount, hkind⟩ := Option.map_eq_some_iff.mp hkind
      have hlt : other < site.host.ledger.accounts.length :=
        (List.getElem?_eq_some_iff.mp haccount).choose
      show ((site.host.ledger.accounts ++ _)[other]?).map _ = _
      rw [List.getElem?_append_left hlt]
      exact Option.map_eq_some_iff.mpr ⟨account, haccount, hkind⟩

/-- No memory is to be had for a direct copy. -/
def CopyRefused (site : Site ε ω) (payload : Buffer) : Prop :=
  ∃ id site', (directAllocator : SiteAct ε ω AllocatorId).run site = .ok id site' ∧
    site'.host.ledger.Refuses id payload.readable

/-- A copy that there is no memory for leaves none in use. -/
theorem run_directCopy_refused (h : CopyRefused site payload) :
    ∃ site', (directCopy payload : SiteAct ε ω Buffer).run site = .error .outOfMemory site' ∧
      Ledger.SameCounts site.host.ledger site'.host.ledger := by
  obtain ⟨id, middle, hallocator, hrefuses⟩ := h
  obtain ⟨hquiet, -⟩ := quiet_directAllocator hallocator
  obtain ⟨ledger, hallocate, hsame⟩ := Ledger.allocate_of_refuses hrefuses
  refine ⟨middle.withLedger ledger, ?_, fun other => ?_⟩
  · unfold directCopy
    rw [Act.bind_of_ok hallocator]
    exact Act.bind_of_error (lift_ledger_error hallocate)
  · obtain ⟨hallocated, hreleased⟩ := hsame other
    obtain ⟨hallocated', hreleased'⟩ := hquiet other
    exact ⟨hallocated.trans hallocated', hreleased.trans hreleased'⟩

/-- What a copy is: one component of direct memory that holds the bytes of the payload and was
counted once, under the hint of the payload. -/
structure Copied (payload copy : Buffer) (id : AllocatorId) (site site' : Site ε ω) : Prop where
  components : copy.components =
    [(Component.zeroed id .direct payload.readable).append payload.toBytes]
  bytes : copy.toBytes = payload.toBytes
  hint : copy.hint = payload.hint
  allocated : ∀ other, site'.host.ledger.allocated other =
    site.host.ledger.allocated other + if id = other then 1 else 0
  released : ∀ other, site'.host.ledger.released other = site.host.ledger.released other
  accounts : Ledger.Continues site.host.ledger site'.host.ledger

/-- A copy that there is memory for is made. -/
theorem run_directCopy_copied (hfallback : FallbackDirect site) (h : ¬ CopyRefused site payload) :
    ∃ copy id site', (directCopy payload : SiteAct ε ω Buffer).run site = .ok copy site' ∧
      Copied payload copy id site site' := by
  obtain ⟨id, middle, hallocator, hkind, -⟩ := run_directAllocator site hfallback
  obtain ⟨hquiet, hcontinues⟩ := quiet_directAllocator hallocator
  have hhad : ¬ middle.host.ledger.Refuses id payload.readable := fun hrefuses =>
    h ⟨id, middle, hallocator, hrefuses⟩
  obtain ⟨ledger, hallocate, hcounts⟩ := Ledger.allocate_of_not_refuses hhad hkind
  obtain ⟨-, hkept⟩ := Ledger.allocate_ok hkind hallocate
  have hfits : payload.toBytes.length ≤ payload.readable := Nat.le_of_eq payload.length_toBytes
  have hwritten : (Buffer.ofComponents [.zeroed id .direct payload.readable]).write
      payload.toBytes = .ok (.filled id .direct payload.readable payload.toBytes) :=
    Buffer.write_zeroed (by decide) hfits
  -- The hint of the original goes along with the copy.
  refine ⟨if payload.hint.isEmpty then .filled id .direct payload.readable payload.toBytes
      else (Buffer.filled id .direct payload.readable payload.toBytes).touch payload.hint,
    id, middle.withLedger ledger, ?_, ?_⟩
  · unfold directCopy
    rw [Act.bind_of_ok hallocator, Act.bind_of_ok (lift_ledger_ok hallocate), hwritten]
    rfl
  · constructor
    case components => split <;> rfl
    case bytes =>
      have hbytes := @Buffer.toBytes_filled id .direct _ _ (by decide) hfits
      split
      · exact hbytes
      · exact hbytes
    case hint =>
      split
      · rename_i hempty
        exact (String.isEmpty_iff.mp hempty).symm
      · rfl
    case allocated =>
      intro other
      obtain ⟨hallocated, -⟩ := hcounts other
      rw [← (hquiet other).1]
      exact hallocated
    case released =>
      intro other
      obtain ⟨-, hreleased⟩ := hcounts other
      exact hreleased.trans (hquiet other).2
    case accounts => exact trans_of Ledger.Continues hcontinues hkept

/-! ## Outcomes -/

theorem run_prepare_unsendable (h : message.isSendable = false) :
    (prepare message : SiteAct ε ω (Message × Message)).run site =
      .error (.violation (.messageKind message.form)) site := by
  unfold prepare
  rw [if_pos (by simp [h])]
  rfl

theorem run_prepare_sendable (h : message.isSendable = true) :
    (prepare message : SiteAct ε ω (Message × Message)).run site =
      (if needsCopy message.content then do
        let copy ← directCopy message.content
        Ledger.discard message.content
        pure (message.withContent copy, message.withContent message.content.close)
      else pure (message, message.movedFrom) : SiteAct ε ω (Message × Message)).run site := by
  unfold prepare
  rw [if_neg (by simp [h])]

/-- A payload that can be sent as it is goes along with its message. -/
theorem run_prepare_passed (hsendable : message.isSendable = true)
    (h : needsCopy message.content = false) :
    (prepare message : SiteAct ε ω (Message × Message)).run site =
      .ok (message, message.movedFrom) site := by
  rw [run_prepare_sendable hsendable, if_neg (by simp [h])]
  rfl

/-- Without memory for a copy, a message is turned down and nothing stays in use for it. -/
theorem run_prepare_refused (hsendable : message.isSendable = true)
    (hneeds : needsCopy message.content = true) (h : CopyRefused site message.content) :
    ∃ site', (prepare message : SiteAct ε ω (Message × Message)).run site =
        .error .outOfMemory site' ∧
      Ledger.SameCounts site.host.ledger site'.host.ledger := by
  obtain ⟨site', hrun, hsame⟩ := run_directCopy_refused h
  refine ⟨site', ?_, hsame⟩
  rw [run_prepare_sendable hsendable, if_pos hneeds]
  exact Act.bind_of_error hrun

/-- What an admitted copy leaves: the components of the payload are given back, each once, and the
payload is closed. -/
structure Replaced (message : Message) (copy : Buffer) (id : AllocatorId)
    (site site' : Site ε ω) : Prop where
  direct : copy.isDirect = true
  bytes : copy.toBytes = message.content.toBytes
  hint : copy.hint = message.content.hint
  allocated : ∀ other, site'.host.ledger.allocated other =
    site.host.ledger.allocated other + if id = other then 1 else 0
  released : ∀ other, (site.host.ledger.account? other).isSome →
    site'.host.ledger.released other = site.host.ledger.released other +
      message.content.components.countP (·.allocator = other)

/-- **A payload is given back once its copy is there.** -/
theorem run_prepare_copied (hfallback : FallbackDirect site) (hsendable : message.isSendable = true)
    (hneeds : needsCopy message.content = true) (h : ¬ CopyRefused site message.content) :
    ∃ copy id site', (prepare message : SiteAct ε ω (Message × Message)).run site =
        .ok (message.withContent copy, message.withContent message.content.close) site' ∧
      Replaced message copy id site site' := by
  obtain ⟨copy, id, middle, hrun, hcopied⟩ := run_directCopy_copied hfallback h
  refine ⟨copy, id,
    -- The payload is given back once the copy is there.
    middle.withLedger (Ledger.release message.content.components middle.host.ledger), ?_,
    ⟨?_, hcopied.bytes, hcopied.hint, fun other => ?_, fun other hother => ?_⟩⟩
  · rw [run_prepare_sendable hsendable, if_pos hneeds, Act.bind_of_ok hrun,
      Act.bind_of_ok (run_discard ..)]
    rfl
  · rw [Buffer.isDirect, hcopied.components]
    rfl
  · rw [← hcopied.allocated other]
    exact Ledger.allocated_release ..
  · obtain ⟨account, haccount⟩ := Option.isSome_iff_exists.mp hother
    have hkind : site.host.ledger.kind? other = some account.kind := by
      rw [Ledger.kind?, haccount]
      rfl
    have hthere : (middle.host.ledger.account? other).isSome := by
      obtain ⟨found, hfound, -⟩ := Option.map_eq_some_iff.mp (hcopied.accounts other _ hkind)
      rw [hfound]
      rfl
    rw [← hcopied.released other]
    exact Ledger.released_release message.content.components hthere

end Channel

namespace Scenario.World

open Channel (prepare needsCopy CopyRefused Replaced FallbackDirect)

variable {α : Type} {world : World} {channel source name : String} {message : Message}
  {station : Station} {scripts : Scripts}

/-! ## Stored messages -/

/-- To admit a message concerns no objects but the channel. -/
theorem outside_prepare (message : Message) (site : StationSite Bench) :
    ((prepare message : StationAct Bench (Message × Message)).after site).outside =
      site.outside := by
  obtain ⟨ledger, fallback, hsite⟩ := Channel.within_prepare message site
  rw [hsite]
  rfl

section Stored

variable (name) {site' : StationSite Bench}
  (hmessage : world.outside.messages.get? source = some message)
  (hknown : world.outside.handlers.get? channel = some scripts)
  (hstation : world.stations.get? channel = some station)

include hmessage hknown hstation

/-- A stored message that is turned down is noted, and stays where it is. -/
theorem run_performPrepare_error {fault : Fault}
    (hrun : (prepare message : StationAct Bench (Message × Message)).run
      (world.takeOut channel station) = .error fault site') :
    ∃ world', (performPrepare channel source name).run world = .error fault world' ∧
      world'.outside = world.outside ∧ world'.host.ledger = site'.host.ledger := by
  have hon : (onChannel channel (prepare message)).run world =
      .error fault (Transport.putBack site' channel) := by
    refine (Act.bind_of_ok (run_known hknown)).trans ((Transport.run_on hstation _).trans ?_)
    rw [hrun]
  -- What was turned down is written down before the fault is passed on.
  obtain ⟨native, hnote⟩ : ∃ native, (Native.record (.message message.view)).run
      (Transport.putBack site' channel).host.native = .ok () native := ⟨_, rfl⟩
  refine ⟨(Transport.putBack site' channel).withNative native, ?_, ?_, rfl⟩
  · refine (Act.bind_of_ok (run_find_some hmessage)).trans ?_
    refine (Act.bind_of_ok (Act.run_capture_error hon)).trans ?_
    exact Act.bind_of_ok (Transport.lift_native_ok hnote)
  · have houtside := outside_prepare message (world.takeOut channel station)
    rw [Act.after_of_error hrun] at houtside
    exact congrArg Elsewhere.outside houtside

/-- A stored message that is admitted leaves what is left of it, and what was admitted is stored. -/
theorem run_performPrepare_ok {admitted left : Message}
    (hrun : (prepare message : StationAct Bench (Message × Message)).run
      (world.takeOut channel station) = .ok (admitted, left) site') :
    ∃ reply world', (performPrepare channel source name).run world = .ok reply world' ∧
      world'.outside.messages = (world.outside.messages.put source left).put name admitted := by
  have hon : (onChannel channel (prepare message)).run world =
      .ok (admitted, left) (Transport.putBack site' channel) := by
    refine (Act.bind_of_ok (run_known hknown)).trans ((Transport.run_on hstation _).trans ?_)
    rw [hrun]
  have houtside := outside_prepare message (world.takeOut channel station)
  rw [Act.after_of_ok hrun] at houtside
  have hmessages : (Transport.putBack site' channel).outside.messages = world.outside.messages :=
    congrArg (fun elsewhere => elsewhere.outside.messages) houtside
  refine ⟨_, _, (Act.bind_of_ok (run_find_some hmessage)).trans
    ((Act.bind_of_ok (Act.run_capture_ok hon)).trans rfl), ?_⟩
  rw [← hmessages]

/-- What is turned down leaves everything as it was but the note, and no memory in use. -/
theorem run_performPrepare_refused (h : Message.Unsendable message ∨
    needsCopy message.content = true ∧
      CopyRefused (world.takeOut channel station) message.content) :
    ∃ fault world', (performPrepare channel source name).run world = .error fault world' ∧
      world'.outside = world.outside ∧
      Ledger.SameCounts world.host.ledger world'.host.ledger := by
  obtain ⟨fault, site', hrun, hsame⟩ : ∃ fault site',
      (prepare message : StationAct Bench (Message × Message)).run
        (world.takeOut channel station) = .error fault site' ∧
      Ledger.SameCounts world.host.ledger site'.host.ledger := by
    cases hsendable : message.isSendable with
    | false => exact ⟨_, _, Channel.run_prepare_unsendable hsendable, .refl _⟩
    | true =>
      obtain ⟨hneeds, hcopy⟩ := h.resolve_left fun hunsendable => by
        rw [Message.unsendable_iff.mpr hunsendable] at hsendable
        cases hsendable
      obtain ⟨site', hrun, hsame⟩ := Channel.run_prepare_refused hsendable hneeds hcopy
      exact ⟨_, site', hrun, hsame⟩
  obtain ⟨world', hperform, houtside, hledger⟩ :=
    run_performPrepare_error name hmessage hknown hstation hrun
  exact ⟨fault, world', hperform, houtside, hledger ▸ hsame⟩

/-- What can be sent as it is goes over as it is. -/
theorem run_performPrepare_passed (h : ¬ Message.Unsendable message)
    (hneeds : needsCopy message.content = false) :
    ∃ reply world', (performPrepare channel source name).run world = .ok reply world' ∧
      world'.outside.messages =
        (world.outside.messages.put source message.movedFrom).put name message :=
  run_performPrepare_ok name hmessage hknown hstation
    (Channel.run_prepare_passed (Message.isSendable_of_not h) hneeds)

/-- A payload that has to be copied is given back, and the copy goes over in its place. -/
theorem run_performPrepare_copied (hfallback : FallbackDirect (world.takeOut channel station))
    (h : ¬ Message.Unsendable message) (hneeds : needsCopy message.content = true)
    (hcopy : ¬ CopyRefused (world.takeOut channel station) message.content) :
    ∃ copy id site' reply world', (prepare message : StationAct Bench (Message × Message)).run
        (world.takeOut channel station) =
          .ok (message.withContent copy, message.withContent message.content.close) site' ∧
      Replaced message copy id (world.takeOut channel station) site' ∧
      (performPrepare channel source name).run world = .ok reply world' ∧
      world'.outside.messages =
        (world.outside.messages.put source (message.withContent message.content.close)).put name
          (message.withContent copy) := by
  obtain ⟨copy, id, site', hrun, hreplaced⟩ :=
    Channel.run_prepare_copied hfallback (Message.isSendable_of_not h) hneeds hcopy
  obtain ⟨reply, world', hperform, hmessages⟩ :=
    run_performPrepare_ok name hmessage hknown hstation hrun
  exact ⟨copy, id, site', reply, world', hrun, hreplaced, hperform, hmessages⟩

omit hmessage hknown hstation in
/-- What it comes to when a stored message is handed to a channel, and what is admitted is stored
under a name. -/
structure Admission (world : World) (channel source name : String) (station : Station)
    (message : Message) : Prop where
  /-- What is turned down, and nothing else. -/
  refused : (∃ fault, (performPrepare channel source name).result world = .error fault) ↔
    Message.Unsendable message ∨ needsCopy message.content = true ∧
      CopyRefused (world.takeOut channel station) message.content
  /-- What is turned down is left as it was, beside everything else, and no memory is in use for it.
  -/
  nothing : ∀ fault, (performPrepare channel source name).result world = .error fault →
    ((performPrepare channel source name).after world).outside = world.outside ∧
      Ledger.SameCounts world.host.ledger
        ((performPrepare channel source name).after world).host.ledger
  /-- What can be sent as it is goes over as it is. -/
  passed : ¬ Message.Unsendable message → needsCopy message.content = false →
    ((performPrepare channel source name).after world).outside.messages =
      (world.outside.messages.put source message.movedFrom).put name message
  /-- A payload that has to be copied is given back, and the copy goes over in its place. -/
  copied : ¬ Message.Unsendable message → needsCopy message.content = true →
    ¬ CopyRefused (world.takeOut channel station) message.content →
    ∃ copy id site', (prepare message : StationAct Bench (Message × Message)).run
        (world.takeOut channel station) =
          .ok (message.withContent copy, message.withContent message.content.close) site' ∧
      Replaced message copy id (world.takeOut channel station) site' ∧
      ((performPrepare channel source name).after world).outside.messages =
        (world.outside.messages.put source (message.withContent message.content.close)).put name
          (message.withContent copy)

/-- **A channel takes over a message whole, or leaves it alone.** -/
theorem admission_performPrepare (hfallback : FallbackDirect (world.takeOut channel station)) :
    Admission world channel source name station message := by
  have hadmitted : ¬ (Message.Unsendable message ∨ needsCopy message.content = true ∧
      CopyRefused (world.takeOut channel station) message.content) →
      ∃ reply world', (performPrepare channel source name).run world = .ok reply world' := by
    intro hnone
    obtain ⟨h, hcopy⟩ := not_or.mp hnone
    cases hneeds : needsCopy message.content with
    | false =>
      obtain ⟨reply, world', hperform, -⟩ :=
        run_performPrepare_passed name hmessage hknown hstation h hneeds
      exact ⟨reply, world', hperform⟩
    | true =>
      obtain ⟨-, -, -, reply, world', -, -, hperform, -⟩ := run_performPrepare_copied name hmessage
        hknown hstation hfallback h hneeds fun hrefused => hcopy ⟨hneeds, hrefused⟩
      exact ⟨reply, world', hperform⟩
  -- What is not to be turned down is admitted, and an operation has one result.
  have hrefused : (∃ fault, (performPrepare channel source name).result world = .error fault) →
      Message.Unsendable message ∨ needsCopy message.content = true ∧
        CopyRefused (world.takeOut channel station) message.content := by
    rintro ⟨fault, hfault⟩
    by_contra hnone
    obtain ⟨reply, world', hperform⟩ := hadmitted hnone
    rw [Act.result_of_ok hperform] at hfault
    cases hfault
  constructor
  case refused =>
    refine ⟨hrefused, fun h => ?_⟩
    obtain ⟨fault, world', hperform, -⟩ :=
      run_performPrepare_refused name hmessage hknown hstation h
    exact ⟨fault, Act.result_of_error hperform⟩
  case nothing =>
    intro fault hfault
    obtain ⟨fault', world', hperform, houtside, hsame⟩ :=
      run_performPrepare_refused name hmessage hknown hstation (hrefused ⟨fault, hfault⟩)
    rw [Act.after_of_error hperform]
    exact ⟨houtside, hsame⟩
  case passed =>
    intro h hneeds
    obtain ⟨reply, world', hperform, hmessages⟩ :=
      run_performPrepare_passed name hmessage hknown hstation h hneeds
    rwa [Act.after_of_ok hperform]
  case copied =>
    intro h hneeds hcopy
    obtain ⟨copy, id, site', reply, world', hrun, hreplaced, hperform, hmessages⟩ :=
      run_performPrepare_copied name hmessage hknown hstation hfallback h hneeds hcopy
    rw [Act.after_of_ok hperform]
    exact ⟨copy, id, site', hrun, hreplaced, hmessages⟩

end Stored

/-- Two bytes of heap memory are handed to a channel that may not make any copies: they stay with
whoever handed them over, and neither account counts anything. -/
theorem admission_of_heap :
    let message : Message :=
      .buffer (.ofComponents [{ Component.borrow 0 [1, 2] with kind := .heap }])
    let station : Station :=
      ⟨{ name := "a", config := { allocator := 0, policy := 0 }, fallback := some 1 },
        .memory { channel := "a" }⟩
    let world : World :=
      { host := { ledger := ⟨[{ kind := .heap, allocated := 1 },
          { kind := .direct, allowance := some 0 }]⟩ }
        stations := Named.empty.put "a" station
        outside :=
          { messages := Named.empty.put "m" message
            handlers := Named.empty.put "a" {} } }
    FallbackDirect (world.takeOut "a" station) ∧
      (∃ fault, (performPrepare "a" "m" "n").result world = .error fault) ∧
      ((performPrepare "a" "m" "n").after world).outside.messages.get? "m" = some message ∧
      ∀ id, ((performPrepare "a" "m" "n").after world).host.ledger.allocated id =
        world.host.ledger.allocated id := by
  intro message station world
  have hfallback : FallbackDirect (world.takeOut "a" station) := fun id hid => by cases hid; rfl
  have hmessage : world.outside.messages.get? "m" = some message := Named.get?_put_self ..
  obtain ⟨hrefused, hnothing, -, -⟩ := admission_performPrepare "n" hmessage
    (Named.get?_put_self ..) (Named.get?_put_self ..) hfallback
  -- The fallback has no memory to allow, so the copy is refused.
  obtain ⟨fault, hfault⟩ := hrefused.mpr (.inr ⟨rfl, 1, _, rfl, .inl rfl⟩)
  obtain ⟨houtside, hsame⟩ := hnothing fault hfault
  exact ⟨hfallback, ⟨fault, hfault⟩, houtside ▸ hmessage, fun id => (hsame id).1⟩

end Scenario.World

end UdpTransport
