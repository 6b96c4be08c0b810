import UdpTransport.Proofs.Along
import UdpTransport.Proofs.WriteQueue.Accounts

/-!
# The allocator of copies along a run

Messages are copied into direct memory, also where the configured allocator makes memory of another
kind: the channel then opens an allocator of its own. `fallbackDirect_runAll` says that the one that
it keeps is always of the right kind, whatever is written, sent or dropped.
-/

namespace UdpTransport.Channel

variable {ε ω α : Type}

section Keeps

variable {act : SiteAct ε ω α}

/-- The allocator is kept where neither channel nor ledger is touched. -/
theorem keeps_fallback_of_same
    (h : ∀ site, (act.after site).channel.fallback = site.channel.fallback ∧
      (act.after site).host.ledger = site.host.ledger) :
    Act.Within (Act.Keeping FallbackDirect) act := by
  intro site hfallback id hid
  rw [(h site).1] at hid
  rw [(h site).2]
  exact hfallback id hid

end Keeps

theorem keeps_fallback_native (act : NativeAct ε α) :
    Act.Within (Act.Keeping FallbackDirect) (liftM act : SiteAct ε ω α) :=
  keeps_fallback_of_same fun site => by rw [after_lift_native]; exact ⟨rfl, rfl⟩

theorem keeps_fallback_plain (act : Act Native α) :
    Act.Within (Act.Keeping FallbackDirect) (liftM act : SiteAct ε ω α) :=
  keeps_fallback_of_same fun site => by
    obtain ⟨native, hsite⟩ := within_lift_plain act site
    rw [hsite]
    exact ⟨rfl, rfl⟩

theorem keeps_fallback_futures (act : Act Futures α) :
    Act.Within (Act.Keeping FallbackDirect) (liftM act : SiteAct ε ω α) :=
  keeps_fallback_of_same fun site => by rw [after_lift_futures]; exact ⟨rfl, rfl⟩

/-- Memory that is given back leaves the kinds of allocators alone. -/
theorem keeps_fallback_discard (buffer : Buffer) :
    Act.Within (Act.Keeping FallbackDirect)
      (liftM (Ledger.discard buffer) : SiteAct ε ω Unit) :=
  keeps_fallback_lift (Ledger.within_discard buffer)

/-- A change of the channel that spares the allocator keeps it. -/
theorem keeps_fallback_change {f : Channel → Channel}
    (h : ∀ channel, (f channel).fallback = channel.fallback) :
    Act.Within (Act.Keeping FallbackDirect) (change f : SiteAct ε ω Unit) :=
  keeps_fallback_of_same fun site => ⟨h site.channel, rfl⟩

variable [Endpoint ε]

/-- A write opens the allocator at most once, with the right kind. -/
theorem keeps_fallback_write (message : Message) :
    Act.Within (Act.Keeping FallbackDirect) (write message : SiteAct ε ω Ticket) :=
  within_write_of keeps_fallback_prepare keeps_fallback_discard keeps_fallback_futures
    (fun _ _ => id) message

/-- Sending needs no allocator. -/
theorem keeps_fallback_served :
    Served (Act.Keeping FallbackDirect : Site ε ω → Site ε ω → Prop) where
  attempt _ _ := keeps_fallback_native _
  futures := keeps_fallback_futures
  discard := keeps_fallback_discard
  log _ _ _ := keeps_fallback_plain _

theorem keeps_fallback_flush :
    Act.Within (Act.Keeping FallbackDirect) (flush : SiteAct ε ω Unit) := by
  refine Act.within_bind (Act.within_of_after fun _ => rfl) fun channel => ?_
  refine Act.within_bind (within_drain keeps_fallback_served _ _ _) fun left => ?_
  refine Act.within_bind (keeps_fallback_change fun _ => rfl) fun _ => ?_
  exact within_setWriteInterest_of fun _ _ => keeps_fallback_plain _

omit [Endpoint ε] in
theorem keeps_fallback_failPending (fault : Fault) :
    Act.Within (Act.Keeping FallbackDirect) (failPending fault : SiteAct ε ω Unit) :=
  within_failPending keeps_fallback_futures keeps_fallback_discard
    (keeps_fallback_change fun _ => rfl) fault

/-- Closing keeps it for what may still be written. -/
theorem keeps_fallback_close :
    Act.Within (Act.Keeping FallbackDirect) (close : SiteAct ε ω Unit) := by
  have hdetach : Act.Within (Act.Keeping FallbackDirect) (detach : SiteAct ε ω Unit) :=
    within_detach_of (keeps_fallback_change fun _ => rfl) fun _ _ => keeps_fallback_plain _
  exact within_close_of (keeps_fallback_change fun _ => rfl) (keeps_fallback_failPending _) hdetach
    (keeps_fallback_change fun _ => rfl) (keeps_fallback_native _) (keeps_fallback_plain _)

theorem keeps_fallback_drop :
    Act.Within (Act.Keeping FallbackDirect) (drop : SiteAct ε ω Unit) :=
  within_drop_of keeps_fallback_close (fun _ => keeps_fallback_plain _)
    (keeps_fallback_failPending _) (keeps_fallback_native _)

/-- **Copies are direct.** A channel that starts without an allocator of its own never keeps one
that makes memory of another kind. -/
theorem fallbackDirect_runAll (ops : List QueueOp) (site : Site ε ω)
    (hfallback : FallbackDirect site) : FallbackDirect (runAll ops site) := by
  induction ops generalizing site with
  | nil => exact hfallback
  | cons op ops ih =>
    have hop : Act.Within (Act.Keeping FallbackDirect) (op.run : SiteAct ε ω Unit) := by
      cases op with
      | write message =>
        exact Act.within_bind (keeps_fallback_write message) fun _ => Act.within_pure ()
      | writeAndFlush message =>
        refine Act.within_bind ?_ fun _ => Act.within_pure ()
        exact Act.within_bind (keeps_fallback_write message) fun ticket =>
          Act.within_bind keeps_fallback_flush fun _ => Act.within_pure ticket
      | flush => exact keeps_fallback_flush
      | close => exact keeps_fallback_close
      | drop => exact keeps_fallback_drop
    exact ih _ (hop site hfallback)

end UdpTransport.Channel
