import UdpTransport.Proofs.Effects
import UdpTransport.Transport

/-!
# One channel among others

What an operation does to a transport is what it does to the part that it works on: one channel at
its place (`Transport.after_on`), or the native side (`Transport.after_lift_native`).
-/

namespace UdpTransport.Transport

variable {ω α : Type} {transport : Transport ω} {name : String} {station : Station}

theorem run_on (h : transport.stations.get? name = some station) (act : StationAct ω α) :
    (on name act).run transport =
      match act.run (transport.takeOut name station) with
      | .ok a site => .ok a (putBack site name)
      | .error fault site => .error fault (putBack site name) := by
  show on name act transport = _
  unfold on
  rw [h]
  rfl

/-- Where there is no channel of the name, nothing happens. -/
theorem after_on_missing (h : transport.stations.get? name = none) (act : StationAct ω α) :
    (on name act).after transport = transport :=
  Act.after_of_error (on_missing h act)

theorem after_on (h : transport.stations.get? name = some station) (act : StationAct ω α) :
    (on name act).after transport = putBack (act.after (transport.takeOut name station)) name := by
  have hrun := run_on h act
  cases hact : act.run (transport.takeOut name station) with
  | ok a site =>
    rw [hact] at hrun
    rw [Act.after_of_ok hrun, Act.after_of_ok hact]
  | error fault site =>
    rw [hact] at hrun
    rw [Act.after_of_error hrun, Act.after_of_error hact]

theorem run_station (h : transport.stations.get? name = some station) :
    (Transport.station name : TransportAct ω Station).run transport = .ok station transport := by
  unfold Transport.station
  rw [Act.bind_of_ok (EStateM.run_get transport)]
  simp only [h]
  rfl

/-- An operation of the native side changes nothing else. -/
def withNative (transport : Transport ω) (native : Native) : Transport ω :=
  { transport with host := { transport.host with native := native } }

theorem lift_native_ok {act : Act Native α} {a : α} {native : Native}
    (h : act.run transport.host.native = .ok a native) :
    (liftM act : TransportAct ω α).run transport = .ok a (transport.withNative native) := by
  have hhost : (liftM act : Act Host α).run transport.host =
      .ok a { transport.host with native := native } := Act.focus_ok h
  exact Act.focus_ok hhost

theorem lift_native_error {act : Act Native α} {fault : Fault} {native : Native}
    (h : act.run transport.host.native = .error fault native) :
    (liftM act : TransportAct ω α).run transport = .error fault (transport.withNative native) := by
  have hhost : (liftM act : Act Host α).run transport.host =
      .error fault { transport.host with native := native } := Act.focus_error h
  exact Act.focus_error hhost

theorem after_lift_native (act : Act Native α) (transport : Transport ω) :
    (liftM act : TransportAct ω α).after transport =
      transport.withNative (act.after transport.host.native) := by
  cases h : act.run transport.host.native with
  | ok a native => rw [Act.after_of_ok (lift_native_ok h), Act.after_of_ok h]
  | error fault native => rw [Act.after_of_error (lift_native_error h), Act.after_of_error h]

end UdpTransport.Transport
