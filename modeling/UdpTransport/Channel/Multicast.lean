import UdpTransport.Channel.State

/-!
# Multicast

Membership in multicast groups is not served. A request is checked for missing arguments, and its
promise is settled as failed at once.
-/

namespace UdpTransport.Channel

variable {ε ω : Type}

/-- Fails on the first argument without text. -/
def requireArguments : List (String × String) → Except Fault Unit
  | [] => .ok ()
  | (name, text) :: rest =>
    if text.isEmpty then .error (.violation (.emptyArgument name)) else requireArguments rest

/-- A request about a multicast group. -/
inductive GroupRequest where
  | join (group : String)
  | joinVia (group interface source : String)
  | leave (group : String)
  | leaveVia (group interface source : String)
  | blockVia (group interface source : String)
  | block (group source : String)
  deriving DecidableEq, Repr

/-- The arguments that have to be there, in the order in which they are checked. -/
def GroupRequest.required : GroupRequest → List (String × String)
  | join group | leave group => [("multicastAddress", group)]
  | joinVia group interface _ | leaveVia group interface _ =>
    [("multicastAddress", group), ("networkInterface", interface)]
  | blockVia group interface source =>
    [("multicastAddress", group), ("sourceToBlock", source), ("networkInterface", interface)]
  | block group source => [("multicastAddress", group), ("sourceToBlock", source)]

/-- Answers a request about a multicast group. -/
def requestGroup (request : GroupRequest) : SiteAct ε ω Ticket := do
  requireArguments request.required
  let ticket ← Futures.issue
  Futures.settle ticket (.failed (.violation .multicast))
  pure ticket

end UdpTransport.Channel
