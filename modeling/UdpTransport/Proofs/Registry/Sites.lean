import UdpTransport.Proofs.Along
import UdpTransport.Proofs.Registry.Entries

/-!
# Channels at their event loops

What a channel does to its event loop it does from its own place, among the others. The scene there
(`Transport.siteScene`) is that of the whole transport, as if the channel were put back. Most of
what a channel does leaves it alone (`Channel.outlook`). Telling the registration about an interest,
ending it and closing go by moves, and so do the operations that are made of these: asking for a
burst, switching automatic reading, flushing, and reading a burst with any handler that goes by
moves itself.
-/

namespace UdpTransport

namespace Act

variable {σ τ : Type}

/-- A relation between what is looked at. -/
def Through (look : σ → τ) (R : τ → τ → Prop) (s s' : σ) : Prop := R (look s) (look s')

instance (look : σ → τ) (R : τ → τ → Prop) [IsPreorder τ R] : IsPreorder σ (Through look R) where
  refl s := refl_of R (look s)
  trans _ _ _ first later := trans_of R first later

/-- What comes last does not show if it leaves alone what is looked at. -/
theorem look_bind {α β : Type} {look : σ → τ} (act : Act σ α) {next : α → Act σ β}
    (h : ∀ a, Within (Fixing look) (next a)) (s : σ) :
    look ((act >>= next).after s) = look (act.after s) := by
  cases hrun : act.run s with
  | ok a s' =>
    rw [after_bind_of_ok hrun, after_of_ok hrun]
    exact h a s'
  | error fault s' => rw [after_of_error (bind_of_error hrun), after_of_error hrun]

end Act

/-! ## Closing an endpoint -/

/-- An endpoint was closed, and the descriptor that it had was closed. -/
structure Endpoint.Closed {ε : Type} [Endpoint ε] (s s' : ε × Native) : Prop where
  isOpen : Endpoint.isOpen s'.1 = false
  descriptor : Endpoint.descriptor s'.1 = Socket.noDescriptor
  told : Endpoint.descriptor s.1 = Socket.noDescriptor ∧ s'.2.sight = s.2.sight ∨
    Endpoint.descriptor s.1 ≠ Socket.noDescriptor ∧
      ∃ seen, s'.2.sight = s.2.sight.heard (.call (.close (Endpoint.descriptor s.1)) seen)

/-- An endpoint in memory is closed by saying so. -/
theorem MemoryEndpoint.closed_close (s : MemoryEndpoint × Native) :
    Endpoint.Closed s ((Endpoint.close : MemoryAct Unit).after s) := by
  have hask : Act.Within (Act.Fixing fun s : MemoryEndpoint × Native => (s.1.isOpen, s.2.sight))
      (failIfAsked .close) := by
    refine Act.within_bind (Act.within_of_after fun _ => rfl) fun endpoint => ?_
    cases endpoint.failures.lookup .close with
    | none => exact Act.within_pure ()
    | some fault =>
      exact Act.within_bind (Act.within_modify fun _ => rfl) fun _ => Act.within_throw fault
  have hasked := hask ({ s.1 with isOpen := false },
    { s.2 with journal := s.2.journal.push (.close s.1.channel) })
  have hafter : (Endpoint.close : MemoryAct Unit).after s = (failIfAsked .close).after
      ({ s.1 with isOpen := false },
        { s.2 with journal := s.2.journal.push (.close s.1.channel) }) := rfl
  rw [← hafter] at hasked
  have hsight : ((Endpoint.close : MemoryAct Unit).after s).2.sight = s.2.sight :=
    (congrArg Prod.snd hasked).trans ((Native.sight_push _ _).trans (if_neg Bool.false_ne_true))
  exact ⟨congrArg Prod.fst hasked, rfl, .inl ⟨rfl, hsight⟩⟩

/-- A socket closes its descriptor, and has none afterwards. -/
theorem Socket.closed_close {s : Socket × Native} (hopen : s.1.isOpen = true) :
    Endpoint.Closed s ((Endpoint.close : SocketAct Unit).after s) := by
  obtain ⟨socket, native⟩ := s
  obtain ⟨answer, called, seen, hcall, hsight⟩ := Native.run_closing socket.fd native
  have hlift : (liftM (Native.close socket.fd) : SocketAct (Answer Int)).run
      (socket.vacated, native) = .ok answer (socket.vacated, called) := Act.focus_ok hcall
  -- What is still to be done after the descriptor was closed is only to report.
  have hrest : Act.Within (Act.Fixing Endpoint.outlook) (do
      let _ ← (Native.orFail "close" answer : Act Native Int)
      Native.writeLog .debug logTag s!"closed fd {socket.fd}" : SocketAct Unit) := by
    refine Act.within_bind (Endpoint.within_lift_outlook (Native.within_orFail _ _)) fun _ => ?_
    exact Endpoint.within_lift_outlook (Native.within_sight_writeLog _ _ _)
  have hafter : (Endpoint.close : SocketAct Unit).after (socket, native) =
      (do
        let _ ← (Native.orFail "close" answer : Act Native Int)
        Native.writeLog .debug logTag s!"closed fd {socket.fd}" : SocketAct Unit).after
          (socket.vacated, called) := by
    show Socket.close.after (socket, native) = _
    have hchange : (Socket.change vacated).run (socket, native) =
        .ok () (socket.vacated, native) := rfl
    unfold Socket.close
    rw [Act.after_bind_of_ok (Socket.run_current _), if_pos hopen, Act.after_bind_of_ok hchange,
      Act.after_bind_of_ok hlift]
  have hsame := hrest (socket.vacated, called)
  rw [← hafter] at hsame
  have hfd : socket.fd ≠ noDescriptor := of_decide_eq_true hopen
  refine ⟨congrArg Prod.fst hsame, congrArg (fun outlook => outlook.2.1) hsame,
    .inr ⟨hfd, seen, ?_⟩⟩
  exact (congrArg (fun outlook => outlook.2.2) hsame).trans hsight

namespace ChannelEndpoint

/-- So whatever is below a channel is closed by closing it. -/
theorem closed_close {s : ChannelEndpoint × Native} (hopen : Endpoint.isOpen s.1 = true) :
    Endpoint.Closed s ((Endpoint.close : NativeAct ChannelEndpoint Unit).after s) := by
  obtain ⟨endpoint, native⟩ := s
  cases endpoint with
  | memory endpoint =>
    have hclosed := MemoryEndpoint.closed_close (endpoint, native)
    have hafter : (Endpoint.close : NativeAct ChannelEndpoint Unit).after
      (memory endpoint, native) = _ := after_either_memory endpoint native
    rw [hafter]
    exact ⟨hclosed.isOpen, hclosed.descriptor, hclosed.told⟩
  | socket endpoint =>
    have hclosed := Socket.closed_close (s := (endpoint, native)) hopen
    have hafter : (Endpoint.close : NativeAct ChannelEndpoint Unit).after
      (socket endpoint, native) = _ := after_either_socket endpoint native
    rw [hafter]
    exact ⟨hclosed.isOpen, hclosed.descriptor, hclosed.told⟩

/-- Nothing is left to be done for an endpoint that is closed. -/
theorem after_drop {s : ChannelEndpoint × Native} (hclosed : Endpoint.isOpen s.1 = false) :
    (Endpoint.drop : NativeAct ChannelEndpoint Unit).after s = s := by
  obtain ⟨endpoint, native⟩ := s
  cases endpoint with
  | memory endpoint => exact after_either_memory endpoint native
  | socket endpoint =>
    have hshut : endpoint.isOpen = false := hclosed
    have hdrop : (Endpoint.drop : SocketAct Unit).after (endpoint, native) =
        (endpoint, native) := by
      show (Socket.current >>= fun socket => liftM socket.drop).after (endpoint, native) = _
      rw [Act.after_bind_of_ok (Socket.run_current _), Channel.after_lift_plain]
      unfold Socket.drop
      rw [if_neg (by simp [hshut])]
      rfl
    have hafter : (Endpoint.drop : NativeAct ChannelEndpoint Unit).after (socket endpoint, native) =
      _ := after_either_socket endpoint native
    rw [hafter, hdrop]

end ChannelEndpoint

/-! ## What leaves interest sets alone -/

namespace Channel

variable {ε ω α : Type} [Endpoint ε]

/-- What of a channel has to do with its registration, in its place. -/
def bearing (site : Site ε ω) : Bearing :=
  ⟨site.channel.registration, Endpoint.isOpen site.endpoint, Endpoint.descriptor site.endpoint⟩

/-- What interest sets have to do with, in the place of a channel. -/
def outlook (site : Site ε ω) : Bearing × Sight × ω :=
  (bearing site, site.host.native.sight, site.outside)

/-- Memory and promises are no part of what a loop sees. -/
theorem outlook_of_memory {act : SiteAct ε ω α} (h : Act.Within Site.MemoryOnly act) :
    Act.Within (Act.Fixing outlook) act := by
  refine h.mono ?_
  rintro site _ ⟨ledger, fallback, rfl⟩
  rfl

/-- What the endpoint's outlook keeps, the site's keeps. -/
theorem outlook_native {act : NativeAct ε α} (h : Act.Within (Act.Fixing Endpoint.outlook) act) :
    Act.Within (Act.Fixing outlook) (liftM act : SiteAct ε ω α) := by
  intro site
  have hsame := h (site.endpoint, site.host.native)
  simp only [Act.Fixing, Endpoint.outlook, Prod.mk.injEq] at hsame
  obtain ⟨hopen, hdescriptor, hsight⟩ := hsame
  rw [Act.Fixing, after_lift_native]
  simp only [outlook, bearing, Site.withNative_channel, Site.withNative_endpoint,
    Site.withNative_host_native, Site.withNative_outside, hopen, hdescriptor, hsight]

theorem outlook_log (level : Log.Level) (tag text : String) :
    Act.Within (Act.Fixing outlook) (liftM (Native.writeLog level tag text) : SiteAct ε ω Unit) :=
  outlook_native (Endpoint.within_lift_outlook (Native.within_sight_writeLog level tag text))

theorem outlook_futures (act : Act Futures α) :
    Act.Within (Act.Fixing outlook) (liftM act : SiteAct ε ω α) := by
  intro site
  rw [Act.Fixing, after_lift_futures]
  rfl

theorem outlook_changeHandle (f : ReceiveHandle → ReceiveHandle) :
    Act.Within (Act.Fixing outlook) (changeHandle .own f : SiteAct ε ω Unit) := by
  refine Act.within_bind (Act.within_of_after fun _ => rfl) fun handle => ?_
  exact Act.within_modify fun _ => rfl

theorem outlook_discard (buffer : Buffer) :
    Act.Within (Act.Fixing outlook) (liftM (Ledger.discard buffer) : SiteAct ε ω Unit) :=
  outlook_of_memory (within_lift_ledger _)

/-- A queue that is failed was none of a loop's business. -/
theorem outlook_failPending (fault : Fault) :
    Act.Within (Act.Fixing outlook) (failPending fault : SiteAct ε ω Unit) :=
  within_failPending outlook_futures outlook_discard (Act.within_modify fun _ => rfl) fault

variable [Endpoint.Bystander ε]

/-- Neither is what a burst does between two callbacks. -/
theorem unseen_outlook : Unseen (Act.Fixing outlook : Site ε ω → Site ε ω → Prop) .own where
  localAddress :=
    within_localAddress (fun _ _ _ => rfl) (outlook_native Endpoint.Bystander.outlook_localAddress)
  remoteAddress := within_remoteAddress (fun _ _ _ => rfl)
    (outlook_native Endpoint.Bystander.outlook_remoteAddress)
  readInto data := outlook_native (within_readInto Endpoint.Bystander.outlook_read data)
  receiveInto data := outlook_native (within_receiveInto Endpoint.Bystander.outlook_receive data)
  told name callback := by
    refine outlook_native (Endpoint.within_lift_outlook (Native.within_sight_record ?_))
    cases callback <;> rfl
  log := outlook_log
  memory act := outlook_of_memory (within_lift_ledger act)
  handle := outlook_changeHandle

/-- Nor what is sent. -/
theorem served_outlook : Served (Act.Fixing outlook : Site ε ω → Site ε ω → Prop) where
  attempt attempts message :=
    outlook_native (within_attempt Endpoint.Bystander.outlook_send attempts message)
  futures := outlook_futures
  discard := outlook_discard
  log := outlook_log

omit [Endpoint.Bystander ε] in
theorem outlook_forgetAddresses :
    Act.Within (Act.Fixing outlook) (forgetAddresses : SiteAct ε ω Unit) :=
  Act.within_modify fun _ => rfl

/-- A loop knows channels by their descriptors, not by their addresses. -/
theorem outlook_bind (address : Address) :
    Act.Within (Act.Fixing outlook) (bind address : SiteAct ε ω Unit) := by
  refine Act.within_bind (outlook_native (Endpoint.Bystander.outlook_bind address)) fun _ => ?_
  refine Act.within_bind (Act.within_modify fun _ => rfl) fun _ => ?_
  refine Act.within_bind outlook_forgetAddresses fun _ => ?_
  exact Act.within_bind unseen_outlook.localAddress fun _ => outlook_log _ _ _

theorem outlook_connect (remote : Address) (local? : Option Address) :
    Act.Within (Act.Fixing outlook) (connect remote local? : SiteAct ε ω Unit) := by
  have hrest : Act.Within (Act.Fixing outlook) (do
      (Endpoint.connect remote : NativeAct ε Unit)
      change fun channel => { channel with connected := true, active := true }
      forgetAddresses
      Native.writeLog .debug logTag ("connected to " ++ remote.toText) : SiteAct ε ω Unit) := by
    refine Act.within_bind (outlook_native (Endpoint.Bystander.outlook_connect remote)) fun _ => ?_
    refine Act.within_bind (Act.within_modify fun _ => rfl) fun _ => ?_
    exact Act.within_bind outlook_forgetAddresses fun _ => outlook_log _ _ _
  cases local? with
  | none => exact hrest
  | some address =>
    exact Act.within_bind (outlook_native (Endpoint.Bystander.outlook_bind address)) fun _ => hrest

/-- So the whole life of an address goes unseen. -/
theorem outlook_disconnect : Act.Within (Act.Fixing outlook) (disconnect : SiteAct ε ω Unit) := by
  refine Act.within_bind (outlook_native Endpoint.Bystander.outlook_disconnect) fun _ => ?_
  exact Act.within_bind (Act.within_modify fun _ => rfl) fun _ => outlook_forgetAddresses

omit [Endpoint.Bystander ε] in
theorem outlook_write (message : Message) :
    Act.Within (Act.Fixing outlook) (write message : SiteAct ε ω Ticket) :=
  within_write_of (fun message => outlook_of_memory (within_prepare message)) outlook_discard
    outlook_futures (fun _ _ => rfl) message

end Channel

end UdpTransport
