import UdpTransport.Act
import UdpTransport.EventLoop.Entry
import UdpTransport.Journal
import UdpTransport.Kernel.Script

/-!
# The native side

`Native` is the state shared by everything that talks to the system or reports to the outside: the
kernel, the log, the journal, and the event loops. A system call goes through `Native.issue`, which
writes it down together with its result. What of the result is a failure to the caller is decided by
`Native.perform` and `Native.attempt`: a number that only tells that the call failed becomes a
failure with the error number that was left behind last. A failed call is a value (`Answer`), and
its caller decides whether that is a fault.

Registrations live here too, since to change an interest is to talk to the system and needs nothing
of a channel but its name.
-/

namespace UdpTransport

/-- The state of everything outside buffers and channels. -/
structure Native where
  kernel : Kernel := {}
  /-- The error number that was left behind last. -/
  lastError : Int := 0
  log : Log.Settings := {}
  /-- What happened, in order. -/
  journal : Array Event := #[]
  /-- What was printed. -/
  console : String := ""
  /-- All event loops ever made; those that were destroyed are gone. -/
  loops : List (Option Loop) := []
  deriving DecidableEq, Repr

namespace Native

/-- Writes an event down. -/
def record (event : Event) : Act Native Unit :=
  modify fun native => { native with journal := native.journal.push event }

/-- Passes a record to the log. -/
def writeLog (level : Log.Level) (tag text : String) : Act Native Unit := do
  let native ← get
  if native.log.threshold.enabled level then
    match native.log.sink with
    | .journal => record (.log level tag text)
    | .console => set { native with console := native.console ++ Log.consoleLine level tag text }

/-- Makes a system call and writes it down. A failure leaves its error number behind; a number below
zero is written down as a failure with the error number zero. -/
def issue {α : Type} (call : SystemCall) (result : α → Int)
    (run : Kernel → Answer α × Kernel) : Act Native (Answer α) := do
  let native ← get
  let (answer, kernel) := run native.kernel
  let seen := (answer.map result).failIf (fun number => number < 0) 0
  set { native with
    kernel := kernel
    lastError := seen.codeOr native.lastError
    journal := native.journal.push (.call call seen) }
  pure answer

/-- Makes a system call; a result below zero is a failure. -/
def perform {α : Type} (call : SystemCall) (result : α → Int)
    (run : Kernel → Answer α × Kernel) : Act Native (Answer α) := do
  let answer ← issue call result run
  return answer.failIf (fun a => result a < 0) (← get).lastError

/-- Makes a system call that gives a number of 32 bits; which of them are failures is up to the
caller. -/
def attempt (failed : Int → Bool) (call : SystemCall) (run : Kernel → Answer Int × Kernel) :
    Act Native (Answer Int) := do
  let answer ← issue call id run
  return (answer.map Number.narrow).failIf failed (← get).lastError

/-- Makes a system call that gives a number of 32 bits; numbers below zero are failures. -/
def attemptStatus : SystemCall → (Kernel → Answer Int × Kernel) → Act Native (Answer Int) :=
  attempt fun number => number < 0

/-- Makes a system call that gives a number of 32 bits; only minus one is a failure. -/
def attemptSocket : SystemCall → (Kernel → Answer Int × Kernel) → Act Native (Answer Int) :=
  attempt fun number => number = -1

/-- A failed call is a fault. -/
def orFail {α : Type} (name : String) : Answer α → Act Native α
  | .value a => pure a
  | .failure code => throw (.native name code)

/-- Closes a descriptor; every number but zero is a failure. -/
def close (fd : Int) : Act Native (Answer Int) :=
  attempt (fun number => number ≠ 0) (.close fd) Kernel.close

/-! ## Event loops -/

/-- An event loop that is still there. -/
def loop? (native : Native) (id : LoopId) : Option Loop := (native.loops[id]?).join

/-- Replaces an event loop. -/
def setLoop (native : Native) (id : LoopId) (loop : Loop) : Native :=
  { native with loops := native.loops.set id (some loop) }

end Native

namespace Registration

/-- The tag of what event loops log. -/
def loopTag : String := "EventLoop"

/-- Tells the system which readiness an entry waits for, if that changes. -/
def updateEntry (loop : LoopId) (id flag : Nat) (wanted : Bool) : Act Native Unit := do
  match (← get).loop? loop with
  | none => pure ()
  | some table =>
    match table.find? id with
    | none => pure ()
    | some watched =>
      let others := watched.interest - (watched.interest &&& flag)
      let interest := if wanted then others + flag else others
      if interest = watched.interest then pure ()
      else
        let answer ← Native.attemptStatus
          (.changeInterest table.set .modify watched.descriptor (some (interest, id)))
          Kernel.changeInterest
        let _ ← Native.orFail "epoll_ctl" answer
        modify fun native => native.setLoop loop (table.setInterest id interest)

/-- Takes an entry out of its event loop. A descriptor that the system no longer watches is what
is wanted; any other failure is logged. -/
def removeEntry (loop : LoopId) (id : Nat) : Act Native Unit := do
  match (← get).loop? loop with
  | none => pure ()
  | some table =>
    match table.find? id with
    | none => pure ()
    | some watched =>
      let answer ← Native.attemptStatus (.changeInterest table.set .delete watched.descriptor none)
        Kernel.changeInterest
      match answer with
      | .value _ => pure ()
      | .failure code =>
        if code = ErrorCode.badDescriptor ∨ code = ErrorCode.noEntry then pure ()
        else
          Native.writeLog .warn loopTag ("epoll_ctl(EPOLL_CTL_DEL) failed: " ++ systemText code)
      modify fun native => native.setLoop loop (table.erase id)

/-- Says whether a channel waits to read. -/
def setReadInterest (registration : Registration) (channel : String) (wanted : Bool) :
    Act Native Unit :=
  match registration with
  | observer => Native.record (.readInterest channel wanted)
  | entry loop id => updateEntry loop id Number.readable wanted

/-- Says whether a channel waits to write. -/
def setWriteInterest (registration : Registration) (channel : String) (wanted : Bool) :
    Act Native Unit :=
  match registration with
  | observer => Native.record (.writeInterest channel wanted)
  | entry loop id => updateEntry loop id Number.writable wanted

/-- Ends a registration. -/
def cancel (registration : Registration) (channel : String) : Act Native Unit :=
  match registration with
  | observer => Native.record (.cancel channel)
  | entry loop id => removeEntry loop id

end Registration

end UdpTransport
