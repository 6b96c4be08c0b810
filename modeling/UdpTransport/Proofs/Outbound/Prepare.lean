import UdpTransport.Channel.Outbound
import UdpTransport.Proofs.Buffers
import UdpTransport.Proofs.Ledger

/-!
# Admitting a message
-/

namespace UdpTransport.Channel

variable {ε ω : Type}

/-! ## What changes -/

theorem within_change_memory {f : Channel → Channel}
    (h : ∀ channel, ∃ fallback, f channel = { channel with fallback := fallback }) :
    Act.Within Site.MemoryOnly (change f : SiteAct ε ω Unit) := by
  intro site
  obtain ⟨fallback, hfallback⟩ := h site.channel
  exact ⟨site.host.ledger, fallback, congrArg site.withChannel hfallback⟩

theorem within_directAllocator :
    Act.Within Site.MemoryOnly (directAllocator : SiteAct ε ω AllocatorId) := by
  refine Act.within_bind Act.within_get fun site => ?_
  dsimp only
  split
  · exact Act.within_pure _
  · split
    · exact Act.within_pure _
    · refine Act.within_bind (within_lift_ledger _) fun id => ?_
      exact Act.within_bind (within_change_memory fun _ => ⟨some id, rfl⟩) fun _ =>
        Act.within_pure id

section Within

variable {R : Site ε ω → Site ε ω → Prop} [IsPreorder (Site ε ω) R]

/-- What finding an allocator, allocating and giving back all do, admitting a message does. -/
theorem within_prepare_of
    (hallocator : Act.Within R (directAllocator : SiteAct ε ω AllocatorId))
    (hallocate : ∀ id size, Act.Within R (liftM (Ledger.allocate id size) : SiteAct ε ω Buffer))
    (hdiscard : ∀ buffer, Act.Within R (liftM (Ledger.discard buffer) : SiteAct ε ω Unit))
    (message : Message) :
    Act.Within R (prepare message : SiteAct ε ω (Message × Message)) := by
  have hcopy : Act.Within R (directCopy message.content : SiteAct ε ω Buffer) := by
    refine Act.within_bind hallocator fun id => ?_
    refine Act.within_bind (hallocate id _) fun copy => ?_
    exact Act.within_bind (Act.within_ofExcept _) fun copy => Act.within_pure _
  -- The same steps follow whether or not the form of the message is refused first.
  have hadmit : Act.Within R (do
      if needsCopy message.content then
        let copy ← directCopy message.content
        Ledger.discard message.content
        pure (message.withContent copy, message.withContent message.content.close)
      else pure (message, message.movedFrom) : SiteAct ε ω (Message × Message)) := by
    split
    · refine Act.within_bind hcopy fun copy => ?_
      exact Act.within_bind (hdiscard _) fun _ => Act.within_pure _
    · exact Act.within_pure _
  unfold prepare
  split
  · exact Act.within_bind (Act.within_throw _) fun _ => hadmit
  · exact hadmit

end Within

/-- Admitting a message, or turning it down, changes nothing of a channel but where its direct
copies come from. -/
theorem within_prepare (message : Message) :
    Act.Within Site.MemoryOnly (prepare message : SiteAct ε ω (Message × Message)) :=
  within_prepare_of within_directAllocator (fun _ _ => within_lift_ledger _)
    (fun _ => within_lift_ledger _) message

/-! ## Where copies come from -/

/-- The allocator that a channel keeps for copies makes direct memory. -/
def FallbackDirect (site : Site ε ω) : Prop :=
  ∀ id, site.channel.fallback = some id → site.host.ledger.kind? id = some .direct

/-- The allocator of copies makes direct memory, whether it is the configured one or not. -/
theorem run_directAllocator (site : Site ε ω) (hfallback : FallbackDirect site) :
    ∃ id site', (directAllocator : SiteAct ε ω AllocatorId).run site = .ok id site' ∧
      site'.host.ledger.kind? id = some .direct ∧ FallbackDirect site' := by
  unfold directAllocator
  rw [Act.bind_of_ok (EStateM.run_get site)]
  dsimp only
  split
  · -- The configured allocator is good enough.
    rename_i hconfigured
    refine ⟨_, site, rfl, ?_, hfallback⟩
    simpa [Ledger.kind?, Option.any_eq_true] using hconfigured
  · split
    · rename_i id hid
      exact ⟨id, site, rfl, hfallback id hid, hfallback⟩
    · -- A new account is opened, and the channel keeps it.
      have hopen : (Ledger.openAccount .direct).run site.host.ledger =
          .ok site.host.ledger.accounts.length
            ⟨site.host.ledger.accounts ++ [{ kind := .direct }]⟩ := rfl
      have hkind : Ledger.kind? ⟨site.host.ledger.accounts ++ [{ kind := .direct }]⟩
          site.host.ledger.accounts.length = some .direct := by
        simp [Ledger.kind?, Ledger.account?]
      rw [Act.bind_of_ok (lift_ledger_ok hopen), Act.bind_of_ok (run_change ..)]
      refine ⟨_, _, rfl, hkind, ?_⟩
      intro id hid
      cases hid
      exact hkind

/-- What only moves memory about keeps the allocator of copies. -/
theorem keeps_fallback_lift {α : Type} {act : Act Ledger α}
    (h : Act.Within Ledger.Continues act) :
    Act.Within (Act.Keeping FallbackDirect) (liftM act : SiteAct ε ω α) := by
  intro site hfallback id hid
  rw [after_lift_ledger] at hid ⊢
  exact h site.host.ledger id .direct (hfallback id hid)

/-- Admitting a message, or turning it down, keeps the allocator of copies. -/
theorem keeps_fallback_prepare (message : Message) :
    Act.Within (Act.Keeping FallbackDirect)
      (prepare message : SiteAct ε ω (Message × Message)) := by
  have hallocator : Act.Within (Act.Keeping FallbackDirect)
      (directAllocator : SiteAct ε ω AllocatorId) := by
    intro site hfallback
    obtain ⟨id, site', hrun, _, hsite'⟩ := run_directAllocator site hfallback
    rwa [Act.after_of_ok hrun]
  exact within_prepare_of hallocator
    (fun id size => keeps_fallback_lift (Ledger.within_allocate id size))
    (fun buffer => keeps_fallback_lift (Ledger.within_discard buffer)) message

/-- A copy is one component of direct memory with the bytes of the payload. -/
theorem directCopy_spec {payload copy : Buffer} {site site' : Site ε ω}
    (hfallback : FallbackDirect site)
    (hrun : (directCopy payload : SiteAct ε ω Buffer).run site = .ok copy site') :
    ∃ c : Component, copy.components = [c] ∧ c.isDirect ∧ c.readableBytes = payload.toBytes ∧
      FallbackDirect site' := by
  obtain ⟨id, middle, hallocator, hkind, hmiddle⟩ := run_directAllocator site hfallback
  unfold directCopy at hrun
  rw [Act.bind_of_ok hallocator] at hrun
  obtain ⟨fresh, allocated, hallocate, hrun⟩ := Act.bind_ok_iff.mp hrun
  obtain ⟨ledger, hledger, rfl⟩ := lift_ledger_inv hallocate
  obtain ⟨rfl, hcontinues⟩ := Ledger.allocate_ok hkind hledger
  have hfits : payload.toBytes.length ≤ payload.readable := Nat.le_of_eq payload.length_toBytes
  rw [Buffer.write_zeroed (by decide) hfits] at hrun
  have hkept : FallbackDirect (middle.withLedger ledger) := fun id hid =>
    hcontinues id .direct (hmiddle id hid)
  refine ⟨(Component.zeroed id .direct payload.readable).append payload.toBytes, ?_, rfl,
    Component.readableBytes_append_zeroed (by decide) hfits, ?_⟩
  · cases hrun
    split <;> rfl
  · cases hrun
    exact hkept

/-- What holds of an admitted message: it is the message handed in, with its payload in direct
memory of few enough regions. A payload that has to be copied ends up in one of them. -/
structure Admitted (message admitted : Message) : Prop where
  sendable : message.isSendable
  same : admitted = message.withContent admitted.content
  bytes : admitted.content.toBytes = message.content.toBytes
  direct : admitted.content.isDirect
  few : admitted.content.readableComponents.length ≤ Gather.maxRegions
  copied : needsCopy message.content = true → admitted.content.readableComponents.length ≤ 1
  passed : needsCopy message.content = false → admitted.content = message.content

theorem prepare_spec {message admitted rest : Message} {site site' : Site ε ω}
    (hfallback : FallbackDirect site)
    (hrun : (prepare message : SiteAct ε ω (Message × Message)).run site =
      .ok (admitted, rest) site') :
    Admitted message admitted ∧ FallbackDirect site' := by
  unfold prepare at hrun
  split at hrun
  · cases hrun
  · rename_i hsendable
    have hsend : message.isSendable := by simpa using hsendable
    have hnonempty : message ≠ .empty := by
      rintro rfl
      cases hsend
    dsimp only at hrun
    split at hrun
    · -- The payload is copied.
      rename_i hneeds
      obtain ⟨copy, middle, hcopy, hrun⟩ := Act.bind_ok_iff.mp hrun
      obtain ⟨c, hcomponents, hdirect, hbytes, hmiddle⟩ := directCopy_spec hfallback hcopy
      rw [Act.bind_of_ok (run_discard ..)] at hrun
      cases hrun
      have hcontent := Message.content_withContent message copy hnonempty
      have hone : (message.withContent copy).content.readableComponents.length ≤ 1 := by
        rw [hcontent, Buffer.readableComponents, hcomponents]
        exact List.length_filter_le ..
      refine ⟨⟨hsend, by rw [hcontent], ?_, ?_, Nat.le_trans hone (by decide),
        fun _ => hone, ?_⟩, ?_⟩
      · rw [hcontent, Buffer.toBytes, hcomponents]
        simpa using hbytes
      · rw [hcontent, Buffer.isDirect, hcomponents]
        simpa using hdirect
      · intro hpass
        rw [hneeds] at hpass
        cases hpass
      · intro id hid
        rw [Site.withLedger_host_ledger, Ledger.kind?_release]
        exact hmiddle id hid
    · -- The payload is sent as it is.
      rename_i hneeds
      cases hrun
      have hpass := hneeds
      simp only [needsCopy, Bool.or_eq_true, Bool.not_eq_true', decide_eq_true_eq, not_or,
        Bool.not_eq_false, Nat.not_lt] at hpass
      exact
        ⟨{ sendable := hsend
           same := (Message.withContent_content message).symm
           bytes := rfl
           direct := hpass.1
           few := hpass.2
           copied := fun hcopy => absurd hcopy hneeds
           passed := fun _ => rfl }, hfallback⟩

end UdpTransport.Channel
