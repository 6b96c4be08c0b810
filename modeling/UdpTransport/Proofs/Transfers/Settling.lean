import UdpTransport.Proofs.Lifecycle.Refusal
import UdpTransport.Proofs.Transfers
import UdpTransport.Proofs.Transfers.Operations

/-!
# What transfers come to

All transfers come down to three system calls, and these are made in one way: what is wrong with the
arguments is found before the call, the call is repeated while it is interrupted, and the answer
that lasts decides what the operation gives. **The main result is `transfer_settles`.**

Each of the three calls is settled by what follows its repetition (`settles_of_next`), which makes
no calls. A stretch of memory is sent as a gather of one region.
-/

namespace UdpTransport

namespace Socket

namespace Transfer

variable {β α : Type}

/-- A transfer is settled by the answer that lasts. -/
def Lasts (transfer : Transfer β α) (s : Socket × Native) (call : SystemCall) : Prop :=
  transfer.Settles s call (transfer.plan s.2.kernel.script).interruptions
    ((transfer.plan s.2.kernel.script).lasting.getD transfer.own)

/-! ## The three calls -/

section Calls

variable {γ : Type}

/-- What is made of a failure. -/
theorem result_refused (code : Int) (idle : α) (name : String) (s : Socket × Native) :
    (if isWouldBlock code then pure idle else throw (.native name code) : SocketAct α).result s =
      if code = ErrorCode.tryAgain then .ok idle else .error (.native name code) := by
  by_cases hcode : code = ErrorCode.tryAgain
  · rw [if_pos hcode, hcode]
    rfl
  · have hblock : isWouldBlock code = false := decide_eq_false hcode
    rw [if_neg hcode, hblock]
    rfl

/-- Where the number that a call gives is never below zero, an answer is taken as it is. -/
theorem outcome_of_nonneg {transfer : Transfer β α} (h : ∀ answered, 0 ≤ transfer.count answered)
    (socket : Socket) (answer : Answer β) :
    transfer.outcome socket answer =
      match answer with
      | .value answered => .ok (transfer.taken socket answered)
      | .failure code =>
        if code = ErrorCode.tryAgain then .ok transfer.idle
        else .error (.native transfer.name code) := by
  cases answer with
  | failure code => rfl
  | value answered =>
    have hnegative : (transfer.count answered < 0) = False := by simpa using h answered
    simp only [outcome, Answer.failIf, hnegative, decide_false, Bool.false_eq_true, if_false]

/-- An operation is settled by what follows the repeated call, which makes no calls itself. -/
theorem settles_of_next {transfer : Transfer β α} {s : Socket × Native} {call : SystemCall}
    {count : Nat} {answer : Answer β} {repeated : Act Native (Answer γ)}
    {next : Answer γ → SocketAct α} {told : Answer γ} {native' : Native}
    (hrun : transfer.perform.run s = ((liftM repeated : SocketAct (Answer γ)) >>= next).run s)
    (hrepeated : repeated.run s.2 = .ok told native')
    (hcalls : native'.calls = s.2.calls ++ List.replicate (count + 1) call)
    (hnext : Act.Within (Across (Act.Fixing Native.calls)) (next told))
    (hresult : (next told).result (s.1, native') = transfer.outcome s.1 answer) :
    transfer.Settles s call count answer := by
  have hlift : transfer.perform.run s = (next told).run (s.1, native') :=
    hrun.trans (Act.bind_of_ok (run_lift hrepeated))
  obtain ⟨hsocket, hquiet⟩ := hnext (s.1, native')
  rw [← Act.after_congr hlift] at hsocket hquiet
  exact
    { socket := hsocket
      calls := hquiet.trans hcalls
      result := (Act.result_congr hlift).trans hresult }

theorem lasts_read (room : Nat) (s : Socket × Native) :
    (read room).Lasts s (.receive s.1.fd room 0) := by
  have hnonneg : ∀ bytes, 0 ≤ (read room).count bytes := fun bytes => Int.natCast_nonneg _
  obtain ⟨native', hrepeated, hcalls⟩ := run_persist (Line.receive room)
    (.receive s.1.fd room 0) (fun bytes => bytes.length) s.2
  rw [Line.run_receive, Answer.told_of_nonneg fun bytes => Int.natCast_nonneg _] at hrepeated
  show (read room).Settles s _ ((Line.receive room).interruptions s.2)
    ((Line.receive room).lasting s.2)
  refine settles_of_next (Act.bind_of_ok (run_current s)) hrepeated hcalls ?_ ?_
  · cases (Line.receive room).lasting s.2 with
    | value bytes => exact Act.within_pure _
    | failure code => exact across_refused _
  · rw [outcome_of_nonneg hnonneg]
    cases (Line.receive room).lasting s.2 with
    | value bytes => rfl
    | failure code => exact result_refused code _ "recv" _

theorem result_deliver {room : Nat} {arrival : Arrival} (hnonempty : arrival.sender ≠ [])
    (hlength : arrival.sender.length ≤ Address.capacity) (socket : Socket)
    (s : Socket × Native) :
    (deliver socket ((Line.receiveMessage room controlRoom).given arrival)).result s =
      .ok ((receive room).taken socket arrival) := by
  have hsender : (liftM (Address.ofNative arrival.sender arrival.sender.length) :
      SocketAct Address).run s = .ok (.reported arrival.sender) s :=
    Act.ofExcept_ok_iff.mpr ⟨Address.ofNative_eq_reported hlength hnonempty, rfl⟩
  exact Act.result_congr (Act.bind_of_ok hsender)

section Logging

variable (condition : Bool) (level : Log.Level) (text : String)

/-- To log first, or not, is no call. -/
theorem within_logging {act : SocketAct α} (h : Act.Within (Across (Act.Fixing Native.calls)) act) :
    Act.Within (Across (Act.Fixing Native.calls)) (if condition then
      (liftM (Native.writeLog level logTag text) : SocketAct Unit) >>= fun _ => act else act) := by
  split
  · exact Act.within_bind (across_lift (Native.within_calls_writeLog level logTag text)) fun _ => h
  · exact h

theorem result_logging {act : SocketAct α} {outcome : Except Fault α}
    (h : ∀ s, act.result s = outcome) (s : Socket × Native) :
    Act.result (if condition then
      (liftM (Native.writeLog level logTag text) : SocketAct Unit) >>= fun _ => act else act) s =
        outcome := by
  split
  · obtain ⟨native', hlog, -⟩ := Native.run_writeLog level logTag text s.2
    rw [Act.result_congr (Act.bind_of_ok (run_lift hlog)), h]
  · exact h s

end Logging

theorem lasts_receive (room : Nat) (s : Socket × Native)
    (hsender : (receive room).NamesSender ((Line.receiveMessage room controlRoom).lasting s.2)) :
    (receive room).Lasts s (.receiveMessage s.1.fd room Address.capacity controlRoom 0) := by
  have hnonneg : ∀ arrival, 0 ≤ (receive room).count arrival := fun _ => Int.natCast_nonneg _
  obtain ⟨native', hrepeated, hcalls⟩ := run_persist (Line.receiveMessage room controlRoom)
    (.receiveMessage s.1.fd room Address.capacity controlRoom 0)
    (fun reception => reception.bytes.length) s.2
  rw [Line.run_receiveMessage,
    Answer.told_of_nonneg fun reception => Int.natCast_nonneg _] at hrepeated
  show (receive room).Settles s _ ((Line.receiveMessage room controlRoom).interruptions s.2)
    ((Line.receiveMessage room controlRoom).lasting s.2)
  refine settles_of_next (Act.bind_of_ok (run_current s)) hrepeated hcalls ?_ ?_
  · cases (Line.receiveMessage room controlRoom).lasting s.2 with
    | failure code => exact across_refused _
    | value arrival => exact within_logging _ .debug _ (across_deliver s.1 _)
  · rw [outcome_of_nonneg hnonneg]
    cases hlasting : (Line.receiveMessage room controlRoom).lasting s.2 with
    | failure code => exact result_refused code _ "recvmsg" _
    | value arrival =>
      rw [hlasting] at hsender
      exact result_logging _ .debug _ (result_deliver hsender.1 hsender.2 s.1) _

end Calls

/-! ## Arguments of a send -/

section Arguments

variable {family : Nat} {recipient : Option Address} {segmentSize : Int} {s : Socket × Native}

theorem toNative_of_reaches {address : Address} (h : Reaches family address) :
    ∃ raw, address.toNative family = .ok raw := by
  rcases h with hown | ⟨hsix, hfour⟩
  · exact ⟨_, Address.toNative_ok_iff.mpr (.inl ⟨hown, rfl⟩)⟩
  · exact ⟨_, Address.toNative_ok_iff.mpr (.inr ⟨hsix, hfour, rfl⟩)⟩

theorem toNative_of_not_reaches {address : Address} (h : ¬ Reaches family address) :
    address.toNative family = .error (.violation (.foreignFamily address.toText)) := by
  rw [Reaches, not_or] at h
  rw [Address.toNative, if_neg h.1, if_neg h.2]

theorem run_translate (h : ∀ address, recipient = some address → Reaches family address) :
    ∃ name, Names family recipient name ∧ ∀ s, (translate recipient family).run s = .ok name s := by
  cases recipient with
  | none => exact ⟨none, ⟨Iff.rfl, nofun⟩, fun _ => rfl⟩
  | some address =>
    obtain ⟨raw, hraw⟩ := toNative_of_reaches (h address rfl)
    refine ⟨some raw, ⟨by simp, fun _ heq => ⟨raw, Option.some.inj heq ▸ hraw, rfl⟩⟩, fun s => ?_⟩
    exact run_translate_some hraw s

theorem run_translate_foreign {address : Address} (h : ¬ Reaches family address)
    (s : Socket × Native) : (translate (some address) family).run s =
      .error (.violation (.foreignFamily address.toText)) s := by
  have hlift : (liftM (address.toNative family) : SocketAct Bytes).run s =
      .error (.violation (.foreignFamily address.toText)) s := by
    rw [toNative_of_not_reaches h]
    rfl
  exact Act.bind_of_error hlift

theorem segments_of_le (h : segmentSize ≤ maxSegmentSize) :
    ∃ control, Segments segmentSize control ∧ segmentControl segmentSize = .ok control := by
  by_cases hpositive : 0 < segmentSize
  · refine ⟨some _, ⟨by simpa using hpositive, ?_⟩,
      by rw [segmentControl, if_neg (Int.not_le.mpr hpositive), if_neg (Int.not_lt.mpr h)]⟩
    rintro _ ⟨⟩
    have hlargest : (maxSegmentSize : Int) = 65535 := rfl
    have hspan : Bytes.span 2 = 65536 := rfl
    have hdata : (Bytes.encodeLittle 2 segmentSize.toNat).length = 2 := Bytes.length_encodeLittle ..
    refine ⟨rfl, rfl, hdata, ?_, rfl, ?_⟩
    · rw [Bytes.littleEndian_encodeLittle, hspan]
      omega
    · dsimp only
      rw [hdata]
      rfl
  · exact ⟨none, ⟨by simpa using hpositive, nofun⟩,
      by rw [segmentControl, if_pos (Int.not_lt.mp hpositive)]⟩

theorem segmentControl_of_lt (h : (maxSegmentSize : Int) < segmentSize) :
    segmentControl segmentSize =
      .error (.violation (.above .segmentSize segmentSize maxSegmentSize)) := by
  have hpositive : ¬ segmentSize ≤ 0 := by
    have hlargest : (maxSegmentSize : Int) = 65535 := rfl
    omega
  rw [segmentControl, if_neg hpositive, if_pos h]

end Arguments

/-! ## Sends -/

/-- What a send makes of its answer. -/
def sent : Answer Int → SocketAct Int
  | .value amount => pure amount
  | .failure code => if isWouldBlock code then pure 0 else throw (.native "sendmsg" code)

theorem across_sent (answer : Answer Int) :
    Act.Within (Across (Act.Fixing Native.calls)) (sent answer) := by
  cases answer with
  | value amount => exact Act.within_pure _
  | failure code => exact across_refused _

section Sends

variable {recipient : Option Address} {segmentSize : Int} {socket : Socket}

/-- A send with arguments that it takes comes down to its repeated call. -/
theorem run_sendRegions (regions : List Region)
    (hrecipient : ∀ address, recipient = some address → Reaches socket.family address)
    (hsize : segmentSize ≤ maxSegmentSize) :
    ∃ name control, Names socket.family recipient name ∧ Segments segmentSize control ∧
      ∀ native, (sendRegions regions recipient segmentSize).run (socket, native) =
        ((liftM (persist Script.sendMessage (Native.perform
          (.sendMessage socket.fd name regions control Number.noSignal) id
          (Kernel.sendMessage regions))) : SocketAct (Answer Int)) >>= sent).run
            (socket, native) := by
  obtain ⟨name, hname, htranslate⟩ := run_translate hrecipient
  obtain ⟨control, hsegments, hcontrol⟩ := segments_of_le hsize
  refine ⟨name, control, hname, hsegments, fun native => ?_⟩
  have hlift : (liftM (segmentControl segmentSize) : SocketAct _).run (socket, native) =
      .ok control (socket, native) := Act.ofExcept_ok_iff.mpr ⟨hcontrol, rfl⟩
  unfold sendRegions
  rw [Act.bind_of_ok (run_current _), Act.bind_of_ok (htranslate _), Act.bind_of_ok hlift]
  refine congrArg (EStateM.run · (socket, native)) (bind_congr fun answer => ?_)
  cases answer <;> rfl

/-- A send with other arguments fails before it does anything. -/
theorem run_sendRegions_refused (regions : List Region)
    (h : ¬ ((∀ address, recipient = some address → Reaches socket.family address) ∧
      segmentSize ≤ maxSegmentSize)) (native : Native) :
    ∃ rule, (sendRegions regions recipient segmentSize).run (socket, native) =
      .error (.violation rule) (socket, native) := by
  unfold sendRegions
  rw [Act.bind_of_ok (run_current _)]
  by_cases hrecipient : ∀ address, recipient = some address → Reaches socket.family address
  · have hsize : (maxSegmentSize : Int) < segmentSize :=
      Int.not_le.mp fun hsize => h ⟨hrecipient, hsize⟩
    obtain ⟨name, -, htranslate⟩ := run_translate hrecipient
    have hlift : (liftM (segmentControl segmentSize) : SocketAct _).run (socket, native) =
        .error (.violation (.above .segmentSize segmentSize maxSegmentSize)) (socket, native) := by
      rw [segmentControl_of_lt hsize]
      rfl
    exact ⟨_, (Act.bind_of_ok (htranslate _)).trans (Act.bind_of_error hlift)⟩
  · simp only [not_forall] at hrecipient
    obtain ⟨address, rfl, hforeign⟩ := hrecipient
    exact ⟨_, Act.bind_of_error (run_translate_foreign hforeign _)⟩

theorem result_sent (gather : Gather) (answer : Answer Int) (s : Socket × Native) :
    (sent (answer.told id id)).result s =
      (sendGather gather recipient segmentSize).outcome socket answer := by
  have htold : answer.told id id = answer.failIf (fun amount =>
      (sendGather gather recipient segmentSize).count amount < 0) 0 := by
    cases answer <;> rfl
  rw [htold, outcome]
  cases answer.failIf (fun amount =>
      (sendGather gather recipient segmentSize).count amount < 0) 0 with
  | value amount => rfl
  | failure code => exact result_refused code 0 "sendmsg" s

theorem lasts_sendGather {gather : Gather}
    (h : (sendGather gather recipient segmentSize).Valid socket) :
    ∃ call, (sendGather gather recipient segmentSize).Makes socket call ∧
      ∀ native, (sendGather gather recipient segmentSize).Lasts (socket, native) call := by
  obtain ⟨name, control, hname, hsegments, hrun⟩ :=
    run_sendRegions gather.regions h.recipient h.segmentSize
  refine ⟨_, ⟨name, control, hname, hsegments, rfl⟩, fun native => ?_⟩
  obtain ⟨native', hrepeated, hcalls⟩ := run_persist (Line.sendMessage gather.regions)
    (.sendMessage socket.fd name gather.regions control Number.noSignal) id native
  rw [Line.run_sendMessage] at hrepeated
  exact settles_of_next (hrun native) hrepeated hcalls (across_sent _) (result_sent gather _ _)

/-- The regions that one stretch of memory makes, as a gather. -/
def single (bytes : Bytes) : Gather := ⟨[.ofBytes bytes], 0, 0⟩

theorem outcome_send (bytes : Bytes) (answer : Answer Int) :
    (send bytes recipient segmentSize).outcome socket answer =
      ((sendGather (single bytes) recipient segmentSize).outcome socket answer).map
        Number.narrow := by
  unfold outcome
  have hcount : ∀ amount, (send bytes recipient segmentSize).count amount =
    (sendGather (single bytes) recipient segmentSize).count amount := fun _ => rfl
  simp only [hcount]
  cases answer.failIf (fun amount =>
    (sendGather (single bytes) recipient segmentSize).count amount < 0) 0 with
  | value amount => rfl
  | failure code =>
    dsimp only
    split <;> rfl

/-- One stretch of memory is sent as a gather of one region, and the count told as a number of 32
bits. -/
theorem lasts_send {bytes : Bytes} (h : (send bytes recipient segmentSize).Valid socket) :
    ∃ call, (send bytes recipient segmentSize).Makes socket call ∧
      ∀ native, (send bytes recipient segmentSize).Lasts (socket, native) call := by
  have hvalid : (sendGather (single bytes) recipient segmentSize).Valid socket :=
    ⟨h.length, h.recipient, h.segmentSize⟩
  obtain ⟨call, hmakes, hlasts⟩ := lasts_sendGather hvalid
  refine ⟨call, hmakes, fun native => ?_⟩
  obtain ⟨hsocket, hcalls, hresult⟩ := hlasts native
  have hafter : (send bytes recipient segmentSize).perform.after (socket, native) =
    (sendGather (single bytes) recipient segmentSize).perform.after (socket, native) :=
    Act.after_bind_pure _ Number.narrow _
  exact
    { socket := by rw [hafter, hsocket]
      calls := by
        rw [hafter]
        exact hcalls
      result := by
        rw [outcome_send]
        exact (Act.result_bind_pure _ Number.narrow _).trans
          (congrArg (Except.map Number.narrow) hresult) }

end Sends

/-! ## All transfers -/

section All

variable {transfer : Transfer β α} {socket : Socket}

theorem lasts_span {s : Socket × Native} {call : SystemCall} (h : 0 ≤ transfer.length)
    (hspan : transfer.span.Lasts s call) : transfer.Lasts s call := by
  have hrun := run_span h s
  have hanswer : transfer.span.Settles s call (transfer.plan s.2.kernel.script).interruptions
      ((transfer.plan s.2.kernel.script).lasting.getD transfer.own) := by
    cases transfer <;> exact hspan
  exact
    { socket := by rw [Act.after_congr hrun, hanswer.socket]
      calls := by rw [Act.after_congr hrun, hanswer.calls]
      result := by rw [Act.result_congr hrun, hanswer.result, outcome_span] }

/-- Arguments that are not taken are found before anything is done. -/
theorem refuses_of_not_valid (h : ¬ transfer.Valid socket) (native : Native) :
    ∃ rule, transfer.perform.run (socket, native) =
      .error (.violation rule) (socket, native) := by
  -- A length is looked at before the rest, and only the address forms have one.
  by_cases hlength : 0 ≤ transfer.length
  case neg =>
    have hnegative := Int.not_le.mp hlength
    cases transfer with
    | readAddress => exact ⟨_, run_bind_checkedLength_of_neg hnegative _ _⟩
    | receiveAddress => exact ⟨_, run_bind_checkedLength_of_neg hnegative _ _⟩
    | sendAddress => exact ⟨_, run_bind_checkedLength_of_neg hnegative _ _⟩
    | _ => exact absurd (Int.le_refl 0) hlength
  case pos =>
    have hother : ¬ ((∀ address, transfer.recipient = some address →
        Reaches socket.family address) ∧ transfer.segmentSize ≤ maxSegmentSize) :=
      fun hother => h ⟨hlength, hother.1, hother.2⟩
    have hnone : ¬ ((∀ address, none = some address → Reaches socket.family address) ∧
        (0 : Int) ≤ maxSegmentSize) → False := fun hnone => hnone ⟨nofun, by decide⟩
    rw [run_span hlength]
    cases transfer with
    | read => exact (hnone hother).elim
    | readAddress => exact (hnone hother).elim
    | receive => exact (hnone hother).elim
    | receiveAddress => exact (hnone hother).elim
    | send bytes =>
      obtain ⟨rule, hrule⟩ := run_sendRegions_refused [.ofBytes bytes] hother native
      exact ⟨rule, Act.bind_of_error hrule⟩
    | sendAddress memory length =>
      obtain ⟨rule, hrule⟩ :=
        run_sendRegions_refused [.ofBytes (Bytes.fit length.toNat memory)] hother native
      exact ⟨rule, Act.bind_of_error hrule⟩
    | sendGather gather => exact run_sendRegions_refused gather.regions hother native

/-- With other arguments there is one call, and it is repeated. -/
theorem lasts_of_valid (h : transfer.Valid socket) :
    ∃ call, transfer.Makes socket call ∧ ∀ native,
      transfer.NamesSender ((transfer.plan native.kernel.script).lasting.getD transfer.own) →
      transfer.Lasts (socket, native) call := by
  have hvalid := (valid_span h.length).mpr h
  -- A length is checked and forgotten, so the forms with a length are those without it.
  suffices hspan : ∃ call, transfer.span.Makes socket call ∧ ∀ native,
      transfer.span.NamesSender
        ((transfer.plan native.kernel.script).lasting.getD transfer.own) →
      transfer.span.Lasts (socket, native) call by
    obtain ⟨call, hmakes, hlasts⟩ := hspan
    exact ⟨call, makes_span.mp hmakes, fun native hsender =>
      lasts_span h.length (hlasts native ((namesSender_span _).mpr hsender))⟩
  cases transfer with
  | read room => exact ⟨_, rfl, fun native _ => lasts_read room (socket, native)⟩
  | readAddress length => exact ⟨_, rfl, fun native _ => lasts_read length.toNat (socket, native)⟩
  | receive room => exact ⟨_, rfl, fun native => lasts_receive room (socket, native)⟩
  | receiveAddress length =>
    exact ⟨_, rfl, fun native => lasts_receive length.toNat (socket, native)⟩
  | send =>
    obtain ⟨call, hmakes, hlasts⟩ := lasts_send hvalid
    exact ⟨call, hmakes, fun native _ => hlasts native⟩
  | sendAddress =>
    obtain ⟨call, hmakes, hlasts⟩ := lasts_send hvalid
    exact ⟨call, hmakes, fun native _ => hlasts native⟩
  | sendGather =>
    obtain ⟨call, hmakes, hlasts⟩ := lasts_sendGather hvalid
    exact ⟨call, hmakes, fun native _ => hlasts native⟩

end All

end Transfer

/-- **Whatever a socket transfers, it does so in one way.** With arguments that it does not take, a
transfer fails and changes nothing. With others it makes one system call, which is told by the
arguments, once for each interruption and once more; the answer after the interruptions alone
decides what the transfer gives, and the socket stays as it is. Memory at an address is handed over
as a span. -/
theorem transfer_settles {β α : Type} (transfer : Transfer β α) (socket : Socket) :
    (¬ transfer.Valid socket → ∀ native, ∃ rule,
      transfer.perform.run (socket, native) = .error (.violation rule) (socket, native)) ∧
    (transfer.Valid socket → ∃ call, transfer.Makes socket call ∧
      ∀ native count later,
        transfer.plan native.kernel.script = List.replicate count (some .interrupted) ++ later →
        later.head? ≠ some (some .interrupted) →
        transfer.NamesSender (later.head?.join.getD transfer.own) →
        transfer.Settles (socket, native) call count (later.head?.join.getD transfer.own)) ∧
    (0 ≤ transfer.length → ∀ s, transfer.perform.run s = transfer.span.perform.run s) := by
  refine ⟨Transfer.refuses_of_not_valid, fun hvalid => ?_, Transfer.run_span⟩
  obtain ⟨call, hmakes, hlasts⟩ := Transfer.lasts_of_valid hvalid
  refine ⟨call, hmakes, fun native count later hplan hlater hsender => ?_⟩
  have hlasting := Plan.lasting_append count hlater
  have hcount := Plan.interruptions_append count hlater
  rw [← hplan] at hlasting hcount
  rw [← hlasting] at hsender ⊢
  have hsettles := hlasts native hsender
  rwa [Transfer.Lasts, hcount] at hsettles

/-- A receive into memory at an address on a socket that serves both families: interrupted twice, it
makes three calls and reports a sender of IPv4. A segment size that does not fit is refused. -/
theorem transfer_settles_interrupted :
    let socket : Socket := { fd := 7, family := Family.ipv6, localPort := 9000 }
    let raw := Address.raw6 5000 (Address.mappedStart ++ [10, 0, 0, 1]) 0
    let native : Native := { kernel := { script := { receiveMessage :=
      [some .interrupted, some .interrupted, some (.value ⟨[1, 2, 3], raw, []⟩)] } } }
    let received := Transfer.receiveAddress 8
    let segmented := Transfer.send [1, 2, 3] none 70000
    received.Valid socket ∧ ¬ segmented.Valid socket ∧
      (received.perform.after (socket, native)).2.calls =
        List.replicate 3 (.receiveMessage 7 8 128 40 0) ∧
      received.perform.result (socket, native) =
        .ok (some ⟨[1, 2, 3], 3, .ofHost4 5000 [10, 0, 0, 1], none⟩) ∧
      ∃ rule, segmented.perform.run (socket, native) =
        .error (.violation rule) (socket, native) := by
  intro socket raw native received segmented
  have hvalid : received.Valid socket := ⟨by decide, nofun, by decide⟩
  have hinvalid : ¬ segmented.Valid socket := fun h => absurd h.segmentSize (by decide)
  obtain ⟨call, rfl, hsettles⟩ := (transfer_settles received socket).2.1 hvalid
  have hsettled := hsettles native 2 [some (.value ⟨[1, 2, 3], raw, []⟩)] rfl (by decide)
    ⟨by decide, by decide⟩
  refine ⟨hvalid, hinvalid, hsettled.calls, hsettled.result.trans ?_,
    (transfer_settles segmented socket).1 hinvalid native⟩
  decide

end Socket

end UdpTransport
