import UdpTransport.Proofs.Memory.Balance

/-!
# Keeping the books

Whatever holds memory has it in custody: a ledger counts the components, and objects store them
(`Custody`). An operation may also have components in its hands that no object stores, because it
has just made them, or took them over from its caller, or is about to hand them back.
`Act.Balances custody taken act given left` says that the books stay in balance all the while:

- `act` takes over `taken` from its caller,
- on success it leaves `given` in the hands of its caller, which depends on the value it returns,
- a failure leaves `left` in the hands of the caller.

There is one rule for each building block. Most operations have nothing to do with memory and leave
the custody as it is (`Balances.fixing`); most others take nothing and give nothing
(`Act.Conserves`).

Those who store memory may state a condition that has to hold whenever the books are in balance
(`Holding.sound`). What keeps the books whatever the condition is can therefore change nothing that
a condition could speak of.
-/

namespace UdpTransport

/-- What objects store, and what must hold of them all the while. -/
structure Holding where
  /-- The allocators of the components that are stored. -/
  stored : Multiset AllocatorId
  sound : Prop

namespace Holding

/-- Something is stored besides. -/
def add (holding : Holding) (more : Multiset AllocatorId) : Holding :=
  { holding with stored := more + holding.stored }

@[simp] theorem add_zero (holding : Holding) : holding.add 0 = holding := by
  unfold add
  rw [zero_add]

/-- What is stored besides adds up. -/
theorem add_add (holding : Holding) (first second : Multiset AllocatorId) :
    (holding.add first).add second = holding.add (second + first) := by
  unfold add
  rw [add_assoc]

end Holding

/-- A ledger, and what objects store of the memory that it counts. -/
structure Custody where
  ledger : Ledger
  holding : Holding

/-- The ledger is in balance with what is stored and what is in somebody's hands besides. -/
structure Custody.Balanced (custody : Custody) (inHand : Multiset AllocatorId) : Prop where
  books : custody.ledger.Balanced (inHand + custody.holding.stored)
  sound : custody.holding.sound

/-- What is stored besides may as well be regarded as in hand. -/
theorem Custody.balanced_add {ledger : Ledger} {holding : Holding}
    {more inHand : Multiset AllocatorId} :
    Balanced ⟨ledger, holding.add more⟩ inHand ↔ Balanced ⟨ledger, holding⟩ (more + inHand) := by
  have hsum : inHand + (more + holding.stored) = more + inHand + holding.stored := by abel
  exact ⟨fun h => ⟨hsum ▸ h.books, h.sound⟩, fun h => ⟨hsum.symm ▸ h.books, h.sound⟩⟩

namespace Act

variable {σ τ α β : Type}

/-! ## Values that can be returned -/

/-- A value that a computation gives from some state. -/
def Returns (act : Act σ α) (a : α) : Prop := ∃ s s', act.run s = .ok a s'

/-- What a sequence returns, its last step returned after a value of the first. -/
theorem returns_bind {act : Act σ α} {next : α → Act σ β} {b : β}
    (h : (act >>= next).Returns b) : ∃ a, act.Returns a ∧ (next a).Returns b := by
  obtain ⟨s, s', hrun⟩ := h
  obtain ⟨a, middle, hact, hnext⟩ := bind_ok_iff.mp hrun
  exact ⟨a, ⟨s, middle, hact⟩, middle, s', hnext⟩

theorem returns_pure {a b : α} (h : (pure a : Act σ α).Returns b) : b = a := by
  obtain ⟨s, s', hrun⟩ := h
  cases hrun
  rfl

theorem not_returns_throw {fault : Fault} {a : α} : ¬ (throw fault : Act σ α).Returns a := by
  rintro ⟨s, s', hrun⟩
  cases hrun

/-- A checked value is returned only if it was there. -/
theorem returns_ofExcept {value : Except Fault α} {a : α}
    (h : (ofExcept value : Act σ α).Returns a) : value = .ok a := by
  cases value with
  | ok b => rw [returns_pure h]
  | error fault => exact absurd h not_returns_throw

/-- A value that was caught was returned. -/
theorem returns_capture {act : Act σ α} {a : α} (h : act.capture.Returns (.ok a)) :
    act.Returns a := by
  obtain ⟨s, s', hrun⟩ := h
  rw [run_capture] at hrun
  obtain ⟨hresult, -⟩ := EStateM.Result.ok.inj hrun
  exact ⟨s, _, run_of_result hresult⟩

/-- What a step on a part returns, the step returns. -/
theorem returns_focus {part : σ → τ} {replace : τ → σ → σ} {act : Act τ α} {a : α}
    (h : (focus part replace act).Returns a) : act.Returns a := by
  obtain ⟨s, s', hrun⟩ := h
  cases hact : act.run (part s) with
  | ok b t =>
    rw [focus_ok hact] at hrun
    cases hrun
    exact ⟨part s, t, hact⟩
  | error fault t =>
    rw [focus_error hact] at hrun
    cases hrun

/-- A triple may speak of the values that can be returned. -/
theorem Triple.returning {pre : σ → Prop} {act : Act σ α} {post : α → σ → Prop}
    {raised : Fault → σ → Prop} (h : Triple pre act post raised) :
    Triple pre act (fun a s => act.Returns a ∧ post a s) raised where
  ok {s _ s'} hs hrun := ⟨⟨s, s', hrun⟩, h.ok hs hrun⟩
  error hs hrun := h.error hs hrun

/-! ## Books that balance -/

/-- The books stay in balance: a computation takes over components, and hands components to its
caller on each way out. -/
def Balances (custody : σ → Custody) (taken : Multiset AllocatorId) (act : Act σ α)
    (given : α → Multiset AllocatorId) (left : Multiset AllocatorId) : Prop :=
  ∀ rest, Triple (fun s => (custody s).Balanced (taken + rest)) act
    (fun a s => (custody s).Balanced (given a + rest))
    fun _ s => (custody s).Balanced (left + rest)

/-- The books stay in balance, and nothing is taken from the caller or handed to it. -/
abbrev Conserves (custody : σ → Custody) (act : Act σ α) : Prop :=
  Balances custody 0 act (fun _ => 0) 0

/-- What a captured computation hands to its caller. -/
def captured (given : α → Multiset AllocatorId) (left : Multiset AllocatorId) :
    Except Fault α → Multiset AllocatorId
  | .ok a => given a
  | .error _ => left

namespace Balances

variable {custody : σ → Custody} {act : Act σ α} {next : α → Act σ β}
  {taken left : Multiset AllocatorId} {given : α → Multiset AllocatorId}

/-- To return a value is to hand over what was taken. -/
theorem pure {a : α} (h : given a = taken) :
    Balances custody taken (Pure.pure a : Act σ α) given left := by
  intro rest
  refine Triple.pure fun s hs => ?_
  rw [h]
  exact hs

/-- To fail at once is to leave what was taken. -/
theorem throw {fault : Fault} (h : left = taken) :
    Balances custody taken (MonadExcept.throw fault : Act σ α) given left := by
  intro rest
  refine Triple.throw fun s hs => ?_
  rw [h]
  exact hs

/-- What follows a failure does not happen. -/
theorem throw_bind {fault : Fault} {given : β → Multiset AllocatorId} (h : left = taken) :
    Balances custody taken ((MonadExcept.throw fault : Act σ α) >>= next) given left := by
  intro rest
  refine Triple.throw_bind fun s hs => ?_
  rw [h]
  exact hs

/-- What is done with a value may rely on its being one that can be returned. -/
theorem bind {mid : α → Multiset AllocatorId} {given : β → Multiset AllocatorId}
    (first : Balances custody taken act mid left)
    (later : ∀ a, act.Returns a → Balances custody (mid a) (next a) given left) :
    Balances custody taken (act >>= next) given left := by
  intro rest
  constructor
  case ok =>
    intro s b s' hs hrun
    obtain ⟨a, middle, hact, hnext⟩ := bind_ok_iff.mp hrun
    exact (later a ⟨s, middle, hact⟩ rest).ok ((first rest).ok hs hact) hnext
  case error =>
    intro s fault s' hs hrun
    rcases bind_error_iff.mp hrun with hact | ⟨a, middle, hact, hnext⟩
    · exact (first rest).error hs hact
    · exact (later a ⟨s, middle, hact⟩ rest).error ((first rest).ok hs hact) hnext

/-- A sequence with what is in hand in its middle written out. -/
theorem via (mid : α → Multiset AllocatorId) {given : β → Multiset AllocatorId}
    (first : Balances custody taken act mid left)
    (later : ∀ a, act.Returns a → Balances custody (mid a) (next a) given left) :
    Balances custody taken (act >>= next) given left := bind first later

/-- Components that the computation does not know of stay in the hands of its caller. -/
theorem frame (h : Balances custody taken act given left) (more : Multiset AllocatorId) :
    Balances custody (taken + more) act (fun a => given a + more) (left + more) := by
  intro rest
  refine (h (more + rest)).weaken (fun s hs => ?_) (fun a s hs => ?_) fun fault s hs => ?_
  · rwa [← add_assoc]
  · rwa [add_assoc]
  · rwa [add_assoc]

/-- What takes nothing may be done while something is in hand. -/
theorem meanwhile (h : Balances custody 0 act given 0) (more : Multiset AllocatorId) :
    Balances custody more act (fun a => given a + more) more := by
  have hframed := h.frame more
  rwa [zero_add] at hframed

/-- What is in hand may be written in another way. -/
theorem congr {taken' left' : Multiset AllocatorId} {given' : α → Multiset AllocatorId}
    (h : Balances custody taken act given left) (htaken : taken' = taken)
    (hgiven : ∀ a, act.Returns a → given' a = given a) (hleft : left' = left) :
    Balances custody taken' act given' left' := by
  subst htaken hleft
  intro rest
  constructor
  case ok =>
    intro s a s' hs hrun
    rw [hgiven a ⟨s, s', hrun⟩]
    exact (h rest).ok hs hrun
  case error =>
    intro s fault s' hs hrun
    exact (h rest).error hs hrun

/-- A computation that has nothing to do with memory leaves in hand what was there. -/
theorem fixing (h : Within (Fixing custody) act) (hgiven : ∀ a, act.Returns a → given a = taken)
    (hleft : left = taken) : Balances custody taken act given left := by
  subst hleft
  intro rest
  constructor
  case ok =>
    intro s a s' hs hrun
    have hsame := h s
    rw [Fixing, after_of_ok hrun] at hsame
    rw [hsame, hgiven a ⟨s, s', hrun⟩]
    exact hs
  case error =>
    intro s fault s' hs hrun
    have hsame := h s
    rw [Fixing, after_of_error hrun] at hsame
    rw [hsame]
    exact hs

/-- What has nothing to do with memory and does not fail may be done at any time. -/
theorem aside (h : Within (Fixing custody) act) (hsucceeds : act.Succeeds) :
    Balances custody taken act (fun _ => taken) left := by
  intro rest
  constructor
  case ok => exact fun hs hrun => (fixing h (fun _ _ => rfl) rfl rest).ok hs hrun
  case error =>
    intro s fault s' hs hrun
    obtain ⟨a, reached, hok⟩ := hsucceeds s
    rw [hok] at hrun
    cases hrun

/-- A failure that is captured is a value. -/
theorem capture {left' : Multiset AllocatorId} (h : Balances custody taken act given left) :
    Balances custody taken act.capture (captured given left) left' := fun rest =>
  Triple.capture ((h rest).weaken (fun _ hs => hs) (fun _ _ hs => hs) fun _ _ hs => hs)

end Balances

namespace Conserves

variable {custody : σ → Custody} {act : Act σ α} {next : α → Act σ β}

theorem pure (a : α) : Conserves custody (Pure.pure a : Act σ α) := Balances.pure rfl

theorem throw (fault : Fault) : Conserves custody (MonadExcept.throw fault : Act σ α) :=
  Balances.throw rfl

/-- What has nothing to do with memory keeps the books. -/
theorem fixing (h : Within (Fixing custody) act) : Conserves custody act :=
  Balances.fixing h (fun _ _ => rfl) rfl

/-- Steps that keep the books make up a sequence that keeps them. -/
theorem bind (first : Conserves custody act) (later : ∀ a, Conserves custody (next a)) :
    Conserves custody (act >>= next) :=
  Balances.bind first fun a _ => later a

/-- A fault that is caught leaves the books kept. -/
theorem capture (h : Conserves custody act) : Conserves custody act.capture :=
  (Balances.capture h).congr rfl (fun result _ => by cases result <;> rfl) rfl

/-- So does an end that is reached in any case. -/
theorem ensuring {closing : Act σ Unit} (h : Conserves custody act)
    (hclosing : Conserves custody closing) : Conserves custody (act.ensuring closing) := by
  refine bind (capture h) fun result => bind hclosing fun _ => ?_
  exact fixing (within_ofExcept result)

/-- The books are in balance at the end, whether or not the computation failed. -/
theorem balanced_after (h : Conserves custody act) {s : σ} {inHand : Multiset AllocatorId}
    (hs : (custody s).Balanced inHand) : (custody (act.after s)).Balanced inHand := by
  have hstart : (custody s).Balanced (0 + inHand) := (zero_add inHand).symm ▸ hs
  rw [← zero_add inHand]
  cases hrun : act.run s with
  | ok a s' =>
    rw [after_of_ok hrun]
    exact (h inHand).ok hstart hrun
  | error fault s' =>
    rw [after_of_error hrun]
    exact (h inHand).error hstart hrun

end Conserves

end Act

/-! ## The ledger alone -/

namespace Ledger

/-- A ledger that stores nothing itself. -/
def custody (ledger : Ledger) : Custody := ⟨ledger, 0, True⟩

/-- The books of a ledger alone are its balance with what is in hand. -/
theorem balanced_custody {ledger : Ledger} {inHand : Multiset AllocatorId} :
    ledger.custody.Balanced inHand ↔ ledger.Balanced inHand := by
  have hsum : inHand + (custody ledger).holding.stored = inHand := add_zero inHand
  exact ⟨fun h => hsum ▸ h.books, fun h => ⟨hsum.symm ▸ h, trivial⟩⟩

/-- What is known of an operation for every state of the ledger. -/
theorem balances_of_triple {α : Type} {act : Act Ledger α} {taken left : Multiset AllocatorId}
    {given : α → Multiset AllocatorId}
    (h : ∀ rest, Act.Triple (fun ledger => Balanced ledger (taken + rest)) act
      (fun a ledger => Balanced ledger (given a + rest))
      fun _ ledger => Balanced ledger (left + rest)) :
    Act.Balances custody taken act given left := by
  intro rest
  refine (h rest).weaken (fun ledger hledger => ?_) (fun a ledger hledger => ?_)
    fun fault ledger hledger => ?_
  · exact balanced_custody.mp hledger
  · exact balanced_custody.mpr hledger
  · exact balanced_custody.mpr hledger

/-- Memory that is allocated is in the hands of the caller. -/
theorem balances_allocate (id : AllocatorId) (size : Nat) :
    Act.Balances custody 0 (allocate id size) Buffer.uses 0 := by
  refine balances_of_triple fun rest => ?_
  rw [zero_add]
  exact (triple_allocate id size rest).weaken (fun _ h => h) (fun _ _ h => h.2) fun _ _ h => h

/-- Bytes that are wrapped as well. -/
theorem balances_wrap (id : AllocatorId) (bytes : Bytes) :
    Act.Balances custody 0 (wrap id bytes) Buffer.uses 0 := by
  refine balances_of_triple fun rest => ?_
  rw [zero_add]
  exact triple_wrap id bytes rest

/-- A copy fits into the memory that was allocated for it. -/
theorem balances_copyOf (id : AllocatorId) (bytes : Bytes) :
    Act.Balances custody 0 (copyOf id bytes) Buffer.uses 0 := by
  refine balances_of_triple fun rest => ?_
  rw [zero_add]
  refine Act.Triple.bind (triple_allocate id bytes.length rest) fun buffer => ?_
  refine Act.Triple.ofExcept (fun written hwrite ledger h => ?_) fun fault hwrite ledger h => ?_
  · rw [Buffer.uses_ask (.write _) hwrite]
    exact h.2
  · obtain ⟨kind, hkind, rfl⟩ := h.1
    rw [Buffer.write_zeroed hkind (Nat.le_refl _)] at hwrite
    cases hwrite

/-- A new account has nothing in it. -/
theorem conserves_openAccount (kind : MemoryKind) : Act.Conserves custody (openAccount kind) :=
  balances_of_triple fun _ => triple_openAccount kind _

/-- A buffer that is given back is in use no more; whatever else is in hand stays there. -/
theorem balances_discard {buffer : Buffer} {taken more left : Multiset AllocatorId}
    (htaken : taken = buffer.uses + more) :
    Act.Balances custody taken (discard buffer) (fun _ => more) left := by
  refine balances_of_triple fun rest => ?_
  refine Act.Triple.modify fun ledger h => ?_
  rw [htaken, add_assoc] at h
  exact h.release

end Ledger

/-- An operation on a part that has the ledger, and stores nothing itself. -/
theorem Act.Balances.focus {σ τ α : Type} {custody : σ → Custody} {part : σ → τ}
    {replace : τ → σ → σ} {book : τ → Ledger} {act : Act τ α} {taken left : Multiset AllocatorId}
    {given : α → Multiset AllocatorId}
    (h : Act.Balances (fun t => (book t).custody) taken act given left) (holding : σ → Holding)
    (hsame : ∀ s, replace (part s) s = s)
    (hcustody : ∀ s t, custody (replace t s) = ⟨book t, holding s⟩) :
    Act.Balances custody taken (Act.focus part replace act) given left := by
  intro rest
  refine Act.Triple.focus fun s hs => ?_
  rw [← hsame s, hcustody] at hs
  have hout : ∀ t inHand, (book t).custody.Balanced (inHand + (rest + (holding s).stored)) →
      (custody (replace t s)).Balanced (inHand + rest) := by
    intro t inHand hledger
    rw [hcustody]
    exact ⟨add_assoc inHand rest _ ▸ Ledger.balanced_custody.mp hledger, hs.sound⟩
  refine (h (rest + (holding s).stored)).weaken ?_ (fun _ _ => hout _ _) fun _ _ => hout _ _
  rintro t rfl
  exact Ledger.balanced_custody.mpr (add_assoc taken rest _ ▸ hs.books)

end UdpTransport
