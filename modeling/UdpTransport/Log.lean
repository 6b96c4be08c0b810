/-!
# Log levels

Records of the transport have a severity. A record is kept if its severity reaches the threshold
that is set; `Level.off` is a threshold only, and no record of it is ever kept.
`Level.parse` reads a level's name without regard to the case of its letters.
-/

namespace UdpTransport.Log

/-- Severity of a record, or the threshold `off` that keeps nothing. -/
inductive Level where
  | debug
  | info
  | warn
  | error
  | off
  deriving DecidableEq, Repr

namespace Level

/-- Position in the order from chatty to silent. -/
def severity : Level → Nat
  | debug => 0
  | info => 1
  | warn => 2
  | error => 3
  | off => 4

/-- The name in capitals, as printed in front of a record. -/
def label : Level → String
  | debug => "DEBUG"
  | info => "INFO"
  | warn => "WARN"
  | error => "ERROR"
  | off => "OFF"

/-- Reads a name; letters are ASCII and their case does not matter. -/
def parse (name : String) (fallback : Level) : Level :=
  match name.toLower with
  | "debug" => debug
  | "info" => info
  | "warn" | "warning" => warn
  | "error" => error
  | "off" | "none" => off
  | _ => fallback

/-- Whether a record of this severity is kept under a threshold. -/
def enabled (threshold level : Level) : Bool :=
  level != off && threshold.severity ≤ level.severity

end Level

/-- Where kept records go. -/
inductive Sink where
  /-- Into the journal, among the other things that happened. -/
  | journal
  /-- To the console, one line each. -/
  | console
  deriving DecidableEq, Repr

/-- The threshold and the destination of records. -/
structure Settings where
  threshold : Level := .warn
  sink : Sink := .journal
  deriving DecidableEq, Repr

/-- The console line of a record. -/
def consoleLine (level : Level) (tag text : String) : String :=
  "[nativeudp] " ++ level.label ++ " " ++ tag ++ ": " ++ text ++ "\n"

end UdpTransport.Log
