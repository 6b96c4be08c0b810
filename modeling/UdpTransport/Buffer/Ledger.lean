import UdpTransport.Act
import UdpTransport.Buffer.Basic

/-!
# The ledger of allocations

Every component of a buffer is counted twice in its life on the account of the allocator that made
it: when it is made and when it is given back. `Account.outstanding` is the difference, the number
of components that are still in use. Accounts are never closed, so a component that outlives its
allocator is still given back to the right place.

`Ledger.allocate` makes owned memory, `Ledger.wrap` counts a view of somebody else's bytes, and
`Ledger.release` takes components back. An account can be limited to a number of further
allocations; beyond it they fail before anything is counted.
-/

namespace UdpTransport

/-- What an allocator makes and how much of it is in use. -/
structure Account where
  kind : MemoryKind
  allocated : Nat := 0
  released : Nat := 0
  /-- How many further allocations succeed; without a number, all. -/
  allowance : Option Nat := none
  deriving DecidableEq, Repr

namespace Account

/-- The number of components in use. -/
def outstanding (account : Account) : Nat := account.allocated - account.released

/-- Counts one more component. -/
def charge (account : Account) : Account := { account with allocated := account.allocated + 1 }

/-- Counts one component given back. -/
def credit (account : Account) : Account := { account with released := account.released + 1 }

/-- Uses up one allocation of the allowance, if any is left. -/
def spend? (account : Account) : Option Account :=
  match account.allowance with
  | none => some account
  | some 0 => none
  | some (n + 1) => some { account with allowance := some n }

end Account

/-- The accounts of all allocators; an `AllocatorId` is a position. -/
structure Ledger where
  accounts : List Account := []
  deriving DecidableEq, Repr

namespace Ledger

/-- The largest block of memory that is to be had, 64 GiB. -/
abbrev largestBlock : Nat := 68719476736

/-- The account of an allocator. -/
def account? (ledger : Ledger) (id : AllocatorId) : Option Account := ledger.accounts[id]?

/-- Changes one account. -/
def update (ledger : Ledger) (id : AllocatorId) (change : Account → Account) : Ledger :=
  ⟨ledger.accounts.modify id change⟩

/-- Adds an account for an allocator of owned memory. -/
def openAccount (kind : MemoryKind) : Act Ledger AllocatorId := do
  if kind = .borrowed then Act.violate .borrowedAllocator
  let ledger ← get
  set (Ledger.mk (ledger.accounts ++ [{ kind := kind }]))
  pure ledger.accounts.length

/-- Limits the allocations that still succeed on an account. -/
def limit (ledger : Ledger) (id : AllocatorId) (allowance : Option Nat) : Ledger :=
  ledger.update id fun account => { account with allowance := allowance }

/-- An empty buffer over `size` bytes of fresh memory. -/
def allocate (id : AllocatorId) (size : Nat) : Act Ledger Buffer := do
  let ledger ← get
  match (ledger.account? id).bind Account.spend? with
  | none => throw .outOfMemory
  | some account =>
    set (ledger.update id fun _ => account)
    if largestBlock < size then throw .outOfMemory
    set (ledger.update id fun _ => account.charge)
    pure (.ofComponents [.zeroed id account.kind size])

/-- A buffer that holds a copy of the given bytes. -/
def copyOf (id : AllocatorId) (bytes : Bytes) : Act Ledger Buffer := do
  let buffer ← allocate id bytes.length
  buffer.write bytes

/-- A read-only buffer over somebody else's bytes. -/
def wrap (id : AllocatorId) (bytes : Bytes) : Act Ledger Buffer := do
  let ledger ← get
  match ledger.account? id with
  | none => throw .outOfMemory
  | some account =>
    set (ledger.update id fun _ => account.charge)
    pure (.ofComponents [.borrow id bytes])

/-- Takes components back. -/
def release (components : List Component) (ledger : Ledger) : Ledger :=
  components.foldl (fun ledger c => ledger.update c.allocator Account.credit) ledger

/-- The memory of a buffer that nobody uses any more is given back. -/
def discard (buffer : Buffer) : Act Ledger Unit := modify (release buffer.components)

end Ledger

end UdpTransport
