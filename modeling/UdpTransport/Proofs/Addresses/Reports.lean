import UdpTransport.Endpoint.Basic
import UdpTransport.Proofs.Addresses.Translation
import UdpTransport.Proofs.Lifecycle.Refusal
import UdpTransport.Proofs.Repetition
import UdpTransport.Proofs.Transfers

/-!
# The addresses that a socket reports

A socket reports addresses in four places: its local address, its peer, the sender of a datagram,
and the local address that a datagram was sent to. In each of them an IPv4 host goes by its own
address (`Address.Mapped` holds of none of them). A sender that was reported can be answered: a send
to it goes to the bytes that the system named it by (`Socket.sends_serve`).

The system's answer to a receive is the first of those laid down that is not an interruption
(`Plan.lasting`).
-/

namespace UdpTransport

namespace Socket

/-- What a repeated receive gives is the arrival that lasts. -/
theorem lasting_of_persist {call : SystemCall} {room : Nat} {native native' : Native}
    {reception : Reception}
    (h : (persist Script.receiveMessage (Native.perform call
      (fun reception => reception.bytes.length) (Kernel.receiveMessage room controlRoom))).run
        native = .ok (.value reception) native') :
    ∃ arrival, native.kernel.script.receiveMessage.lasting = some (.value arrival) ∧
      reception.sender = arrival.sender := by
  obtain ⟨_, hrun, -⟩ := run_persist (Line.receiveMessage room controlRoom) call
    (fun reception => reception.bytes.length) native
  rw [Line.run_receiveMessage, Answer.told_of_nonneg fun reception => Int.natCast_nonneg _] at hrun
  injection h.symm.trans hrun with htold
  change _ = (native.kernel.script.receiveMessage.lasting.getD
    (.failure ErrorCode.tryAgain)).map (Line.receiveMessage room controlRoom).given at htold
  -- The system by itself has nothing to receive.
  cases hlasting : native.kernel.script.receiveMessage.lasting with
  | none =>
    rw [hlasting] at htold
    cases htold
  | some answer =>
    rw [hlasting] at htold
    cases answer with
    | failure code => cases htold
    | value arrival =>
      cases htold
      exact ⟨arrival, rfl, rfl⟩

/-! ## What is reported -/

variable {s s' : Socket × Native}

/-- The local address is what the system names, read back. -/
theorem not_mapped_of_localAddress {address : Address}
    (h : localAddress.run s = .ok address s') : ¬ address.Mapped := by
  obtain ⟨socket, _, _, h⟩ := Act.bind_ok_iff.mp h
  split at h
  · obtain ⟨answer, _, _, h⟩ := Act.bind_ok_iff.mp h
    obtain ⟨bytes, _, _, h⟩ := Act.bind_ok_iff.mp h
    exact Address.not_mapped_of_ofNative (Act.ofExcept_ok_iff.mp h).1
  · cases h
    decide

theorem not_mapped_of_remoteAddress {address : Address}
    (h : remoteAddress.run s = .ok (some address) s') : ¬ address.Mapped := by
  obtain ⟨socket, _, _, h⟩ := Act.bind_ok_iff.mp h
  split at h
  · obtain ⟨answer, _, _, h⟩ := Act.bind_ok_iff.mp h
    cases answer with
    | value bytes =>
      obtain ⟨read, _, hread, h⟩ := Act.bind_ok_iff.mp h
      cases h
      exact Address.not_mapped_of_ofNative (Act.ofExcept_ok_iff.mp hread).1
    | failure code =>
      dsimp only at h
      split at h <;> cases h
  · cases h

/-- A control message names no address that stands for an IPv4 host. -/
theorem not_mapped_of_control {port : Nat} {views : List ControlView} {address : Address}
    (h : localOfControl port views = some address) : ¬ address.Mapped := by
  induction views with
  | nil => cases h
  | cons view rest ih =>
    unfold localOfControl at h
    split at h
    · cases h
      exact Address.not_mapped_ofHost4 _ _
    · split at h
      · cases h
        unfold reported6
        split
        · exact Address.not_mapped_ofHost4 _ _
        · rename_i hplain
          exact Address.not_mapped_ofHost6 (Bytes.length_window ..) (by simpa using hplain) _ _
      · exact ih h

/-- What a receive that got a datagram says of it. -/
structure Delivered (s : Socket × Native) (received : Received) : Prop where
  /-- The sender is that of the arrival that the system had laid down, read back. -/
  sender : ∃ arrival, s.2.kernel.script.receiveMessage.lasting = some (.value arrival) ∧
    Address.ofNative arrival.sender arrival.sender.length = .ok received.sender
  local? : ∃ views, received.local? = localOfControl s.1.localPort views

theorem delivered_of_receive {room : Nat} {received : Received}
    (h : (receive room).run s = .ok (some received) s') : Delivered s received := by
  obtain ⟨socket, _, hcurrent, h⟩ := Act.bind_ok_iff.mp h
  cases hcurrent
  obtain ⟨answer, _, hcall, h⟩ := Act.bind_ok_iff.mp h
  obtain ⟨hretry, -⟩ := run_lift_inv hcall
  cases answer with
  | failure code =>
    dsimp only at h
    split at h <;> cases h
  | value reception =>
    obtain ⟨arrival, hlasting, hsender⟩ := lasting_of_persist hretry
    have hdeliver : ∀ {reached reached' : Socket × Native},
        (deliver s.1 reception).run reached = .ok (some received) reached' →
        Delivered s received := by
      intro reached reached' h
      obtain ⟨sender, _, hread, h⟩ := Act.bind_ok_iff.mp h
      cases h
      exact ⟨⟨arrival, hlasting, hsender ▸ (Act.ofExcept_ok_iff.mp hread).1⟩, ⟨_, rfl⟩⟩
    dsimp only at h
    split at h
    · obtain ⟨_, _, _, h⟩ := Act.bind_ok_iff.mp h
      exact hdeliver h
    · exact hdeliver h

/-- However the memory is handed over, it is the same receive. -/
theorem delivered_of_endpoint {access : Access} {room : Nat} {received : Received}
    (h : (Endpoint.receive access room : SocketAct (Option Received)).run s =
      .ok (some received) s') : Delivered s received := by
  cases access with
  | view => exact delivered_of_receive h
  | address => exact delivered_of_receive h

/-! ## Answering -/

end Socket

/-- Datagrams are sent through one descriptor to one recipient, and nothing else is done. -/
def Native.SendsTo (fd : Int) (raw : Bytes) (native native' : Native) : Prop :=
  ∃ events, native'.journal.toList = native.journal.toList ++ events ∧
    ∀ event ∈ events, ∃ regions control flags seen,
      event = .call (.sendMessage fd (some raw) regions control flags) seen

instance (fd : Int) (raw : Bytes) : IsPreorder Native (Native.SendsTo fd raw) where
  refl native := ⟨[], (List.append_nil _).symm, nofun⟩
  trans := by
    rintro native _ _ ⟨events, hevents, hfirst⟩ ⟨others, hothers, hlater⟩
    refine ⟨events ++ others, by rw [hothers, hevents, List.append_assoc], fun event hevent => ?_⟩
    exact (List.mem_append.mp hevent).elim (hfirst event) (hlater event)

namespace Socket

variable {address : Address} {raw : Bytes} {socket : Socket}

/-- A send to an address goes to the bytes that stand for it. -/
theorem sends_sendRegions (h : address.toNative socket.family = .ok raw) (regions : List Region)
    (segmentSize : Int) (native : Native) :
    Native.SendsTo socket.fd raw native
      ((sendRegions regions (some address) segmentSize).after (socket, native)).2 := by
  unfold sendRegions
  rw [Act.after_bind_of_ok (run_current _), Act.after_bind_of_ok (run_translate_some h _)]
  cases segmentControl segmentSize with
  | error fault => exact refl_of (Native.SendsTo socket.fd raw) native
  | ok control =>
    have hcontrol : (liftM (Except.ok control : Except Fault (Option SegmentControl)) :
        SocketAct _).run (socket, native) = .ok control (socket, native) := rfl
    rw [Act.after_bind_of_ok hcontrol]
    -- The call may be repeated, but every repetition names the same address.
    have hcall : Act.Within (Native.SendsTo socket.fd raw)
        (Native.perform (.sendMessage socket.fd (some raw) regions control Number.noSignal) id
          (Kernel.sendMessage regions)) := fun native =>
      ⟨[.call _ _], Array.toList_push, List.forall_mem_singleton.mpr ⟨_, _, _, _, rfl⟩⟩
    obtain ⟨answer, native', hpersist⟩ := succeeds_persist Script.sendMessage
      (fun native => ⟨_, _, Native.run_perform
        (.sendMessage socket.fd (some raw) regions control Number.noSignal) native id
        (Kernel.sendMessage regions)⟩) native
    have hsends := within_persist Script.sendMessage hcall native
    rw [Act.after_of_ok hpersist] at hsends
    rw [Act.after_bind_of_ok (run_lift hpersist)]
    cases answer with
    | value amount => exact hsends
    | failure code =>
      dsimp only
      split <;> exact hsends

/-- Whatever is sent in whatever form, it goes to the recipient. -/
theorem sends_serve {request : SendRequest} (hrecipient : request.recipient = some address)
    (h : address.toNative socket.family = .ok raw) (native : Native) :
    Native.SendsTo socket.fd raw native ((serve request).after (socket, native)).2 := by
  have hsend : ∀ bytes, Native.SendsTo socket.fd raw native
      ((send bytes request.recipient request.segmentSize).after (socket, native)).2 := by
    intro bytes
    unfold send
    rw [Act.after_bind_pure, hrecipient]
    exact sends_sendRegions h _ _ native
  unfold serve
  split
  · exact hsend _
  · exact hsend _
  · rw [hrecipient]
    exact sends_sendRegions h _ _ native

/-! ## All of it -/

/-- What a socket reports. -/
structure Reports (s : Socket × Native) : Prop where
  localAddress : ∀ address, localAddress.result s = .ok address → ¬ address.Mapped
  remoteAddress : ∀ address, remoteAddress.result s = .ok (some address) → ¬ address.Mapped
  sender : ∀ access room received,
    (Endpoint.receive access room : SocketAct (Option Received)).result s = .ok (some received) →
    ¬ received.sender.Mapped
  receiver : ∀ access room received,
    (Endpoint.receive access room : SocketAct (Option Received)).result s = .ok (some received) →
    ∀ address, received.local? = some address → ¬ address.Mapped
  /-- Whatever is sent to the sender goes to where the arrival came from. -/
  answer : ∀ access room received,
    (Endpoint.receive access room : SocketAct (Option Received)).result s = .ok (some received) →
    ∃ arrival, s.2.kernel.script.receiveMessage.lasting = some (.value arrival) ∧
      (Address.IsNative s.1.family arrival.sender →
        ∀ request : SendRequest, request.recipient = some received.sender → ∀ native,
          Native.SendsTo s.1.fd arrival.sender native
            ((Endpoint.send request : SocketAct Int).after (s.1, native)).2)

/-- **Addresses go to the system and come back.** A socket of an internet family takes the addresses
of its own family, and one of IPv6 those of IPv4 as well. What goes out comes back with the same
text and port, and as the same endpoint unless it stood for an IPv4 host; what comes in goes out as
the same bytes. So nothing that the socket reports stands for an IPv4 host, and what is sent to a
reported sender goes to where the datagram came from. -/
theorem addresses_round_trip {family : Nat}
    (hinternet : family = Family.ipv4 ∨ family = Family.ipv6) :
    Address.Translates family ∧ ∀ s : Socket × Native, s.1.family = family → Reports s := by
  have htranslates := Address.translates hinternet
  refine ⟨htranslates, fun s hfamily => ?_⟩
  have hdelivered : ∀ {access room received},
      (Endpoint.receive access room : SocketAct (Option Received)).result s = .ok (some received) →
      Delivered s received := fun h => delivered_of_endpoint (Act.run_of_result h)
  constructor
  case localAddress => exact fun address h => not_mapped_of_localAddress (Act.run_of_result h)
  case remoteAddress => exact fun address h => not_mapped_of_remoteAddress (Act.run_of_result h)
  case sender =>
    intro access room received h
    obtain ⟨arrival, -, hread⟩ := (hdelivered h).sender
    exact Address.not_mapped_of_ofNative hread
  case receiver =>
    intro access room received h address hlocal
    obtain ⟨views, hviews⟩ := (hdelivered h).local?
    exact not_mapped_of_control (hviews.symm.trans hlocal)
  case answer =>
    intro access room received h
    obtain ⟨arrival, hlasting, hread⟩ := (hdelivered h).sender
    refine ⟨arrival, hlasting, fun hnative request hrecipient native => ?_⟩
    obtain ⟨read, hread', hraw⟩ := htranslates.forth arrival.sender (hfamily ▸ hnative)
    cases hread.symm.trans hread'
    exact sends_serve hrecipient (hfamily ▸ hraw) native

/-- A socket of both families gets a datagram from an IPv4 peer, after it was interrupted once. The
sender is reported as an IPv4 address, and what is sent to it goes to the IPv6 address that stands
for it. -/
theorem addresses_round_trip_mapped :
    let peer : Address := .loopback 9 Family.ipv4
    let raw := Address.raw6 9 (Address.mappedStart ++ [127, 0, 0, 1]) 0
    let script : Script :=
      { receiveMessage := [some (.failure 4), some (.value ⟨[1, 2], raw, []⟩)] }
    let s : Socket × Native :=
      ({ fd := 3, family := Family.ipv6 }, { kernel := { script := script } })
    peer.toNative Family.ipv6 = .ok raw ∧ Address.ofNative raw raw.length = .ok peer ∧
      (receive 8).result s = .ok (some ⟨[1, 2], 2, peer, none⟩) ∧ ¬ peer.Mapped ∧
      Native.SendsTo 3 raw s.2
        ((serve ⟨.single .view [7], some peer, 0⟩).after s).2 := by
  intro peer raw script s
  obtain ⟨htranslates, hreports⟩ := addresses_round_trip (.inr rfl : Family.ipv6 = _ ∨ _)
  have hreceived : (receive 8).result s = .ok (some ⟨[1, 2], 2, peer, none⟩) := by decide +kernel
  obtain ⟨arrival, hlasting, hanswer⟩ := (hreports s rfl).answer .view 8 _ hreceived
  have harrival : arrival = ⟨[1, 2], raw, []⟩ := by
    have hlaid : s.2.kernel.script.receiveMessage.lasting = some (.value ⟨[1, 2], raw, []⟩) := rfl
    cases hlasting.symm.trans hlaid
    rfl
  subst harrival
  have hnative : Address.IsNative Family.ipv6 raw :=
    ⟨by decide +kernel, by decide +kernel, fun _ _ => by decide +kernel⟩
  exact ⟨by decide +kernel, by decide +kernel, hreceived,
    (hreports s rfl).sender .view 8 _ hreceived, hanswer hnative _ rfl s.2⟩

end Socket

end UdpTransport
