import UdpTransport.Buffer.Ledger
import UdpTransport.Proofs.Effects

/-!
# What stays true of a ledger

Accounts are never closed and never change what they make (`Ledger.Continues`), and what is
allocated on an account is of the kind that the account is for (`allocate_ok`). An account without
a limit makes memory as often as it is asked to (`Unlimited.allocate`).
-/

namespace UdpTransport.Ledger

/-- What an allocator makes. -/
def kind? (ledger : Ledger) (id : AllocatorId) : Option MemoryKind :=
  (ledger.account? id).map (·.kind)

/-- Every account is still there and makes what it made. -/
def Continues (ledger ledger' : Ledger) : Prop :=
  ∀ id kind, ledger.kind? id = some kind → ledger'.kind? id = some kind

instance : IsPreorder Ledger Continues where
  refl _ _ _ := id
  trans _ _ _ first later id kind := later id kind ∘ first id kind

theorem account?_update (ledger : Ledger) (id other : AllocatorId) (change : Account → Account) :
    (ledger.update id change).account? other =
      (ledger.account? other).map fun account => if id = other then change account else account :=
  List.getElem?_modify ..

theorem kind?_update (ledger : Ledger) (id other : AllocatorId) {change : Account → Account}
    (hchange : ∀ account, ledger.account? id = some account →
      (change account).kind = account.kind) :
    (ledger.update id change).kind? other = ledger.kind? other := by
  unfold kind?
  rw [account?_update]
  by_cases h : id = other
  · subst h
    cases hget : ledger.account? id with
    | none => rfl
    | some account => simp [hchange account hget]
  · simp [h]

theorem kind?_release (components : List Component) (ledger : Ledger) (id : AllocatorId) :
    (release components ledger).kind? id = ledger.kind? id := by
  induction components generalizing ledger with
  | nil => rfl
  | cons c rest ih => exact (ih _).trans (kind?_update _ _ _ fun _ _ => rfl)

theorem kind_of_spend? {account spent : Account} (h : account.spend? = some spent) :
    spent.kind = account.kind := by
  unfold Account.spend? at h
  split at h
  · cases h; rfl
  · cases h
  · cases h; rfl

/-- An allowance that is used up counts nothing by itself. -/
theorem spend?_counts {account spent : Account} (h : account.spend? = some spent) :
    spent.allocated = account.allocated ∧ spent.released = account.released := by
  unfold Account.spend? at h
  split at h
  · cases h
    exact ⟨rfl, rfl⟩
  · cases h
  · cases h
    exact ⟨rfl, rfl⟩

/-! ## Allocating -/

section Allocating

variable {ledger : Ledger} {id : AllocatorId} {size : Nat} {spent : Account}

/-- An account that is not there, or may allocate no more, refuses. -/
theorem allocate_of_none (h : (ledger.account? id).bind Account.spend? = none) :
    (allocate id size).run ledger = .error .outOfMemory ledger := by
  unfold allocate
  rw [Act.bind_of_ok (EStateM.run_get ledger), h]
  rfl

/-- A block that is too large is refused once the allowance is spent. -/
theorem allocate_of_large (h : (ledger.account? id).bind Account.spend? = some spent)
    (hsize : largestBlock < size) :
    (allocate id size).run ledger =
      .error .outOfMemory (ledger.update id fun _ => spent) := by
  unfold allocate
  rw [Act.bind_of_ok (EStateM.run_get ledger), h]
  dsimp only
  rw [Act.bind_of_ok (EStateM.run_set ..), if_pos hsize]
  rfl

/-- Any other block is fresh memory, and is counted. -/
theorem allocate_of_fits (h : (ledger.account? id).bind Account.spend? = some spent)
    (hsize : size ≤ largestBlock) :
    (allocate id size).run ledger =
      .ok (.ofComponents [.zeroed id spent.kind size])
        (ledger.update id fun _ => spent.charge) := by
  unfold allocate
  rw [Act.bind_of_ok (EStateM.run_get ledger), h]
  dsimp only
  rw [Act.bind_of_ok (EStateM.run_set ..), if_neg (Nat.not_lt.mpr hsize)]
  rfl

theorem openAccount_borrowed {kind : MemoryKind} (h : kind = .borrowed) :
    (openAccount kind).run ledger = .error (.violation .borrowedAllocator) ledger := by
  unfold openAccount
  rw [if_pos h]
  rfl

/-- An allocator of owned memory has an account of its own. -/
theorem openAccount_owned {kind : MemoryKind} (h : kind ≠ .borrowed) :
    (openAccount kind).run ledger =
      .ok ledger.accounts.length ⟨ledger.accounts ++ [{ kind := kind }]⟩ := by
  unfold openAccount
  rw [if_neg h]
  rfl

theorem wrap_of_none {bytes : Bytes} (h : ledger.account? id = none) :
    (wrap id bytes).run ledger = .error .outOfMemory ledger := by
  unfold wrap
  rw [Act.bind_of_ok (EStateM.run_get ledger), h]
  rfl

/-- A view is counted on the account that it is made on. -/
theorem wrap_of_some {bytes : Bytes} {account : Account} (h : ledger.account? id = some account) :
    (wrap id bytes).run ledger =
      .ok (.ofComponents [.borrow id bytes]) (ledger.update id fun _ => account.charge) := by
  unfold wrap
  rw [Act.bind_of_ok (EStateM.run_get ledger), h]
  rfl

/-- What is allocated is fresh memory of the kind that the account is for. -/
theorem allocate_ok {ledger' : Ledger} {buffer : Buffer} {kind : MemoryKind}
    (hkind : ledger.kind? id = some kind)
    (hrun : (allocate id size).run ledger = .ok buffer ledger') :
    buffer = .ofComponents [.zeroed id kind size] ∧ Continues ledger ledger' := by
  cases hspend : (ledger.account? id).bind Account.spend? with
  | none =>
    rw [allocate_of_none hspend] at hrun
    cases hrun
  | some spent =>
    obtain ⟨account, haccount, hspent⟩ := Option.bind_eq_some_iff.mp hspend
    have hsame : spent.kind = kind := by
      rw [kind_of_spend? hspent]
      simpa [kind?, haccount] using hkind
    rcases Nat.lt_or_ge largestBlock size with hlarge | hfits
    · rw [allocate_of_large hspend hlarge] at hrun
      cases hrun
    · rw [allocate_of_fits hspend hfits] at hrun
      cases hrun
      refine ⟨by rw [hsame], fun other kind' hother => ?_⟩
      rw [kind?_update, hother]
      intro found hfound
      rw [haccount] at hfound
      cases hfound
      show spent.kind = account.kind
      exact kind_of_spend? hspent

theorem within_allocate (id : AllocatorId) (size : Nat) :
    Act.Within Continues (allocate id size) := by
  intro ledger
  cases hspend : (ledger.account? id).bind Account.spend? with
  | none =>
    rw [Act.after_of_error (allocate_of_none hspend)]
    exact refl_of Continues ledger
  | some spent =>
    obtain ⟨account, haccount, hspent⟩ := Option.bind_eq_some_iff.mp hspend
    have hkept : ∀ change : Account → Account, (∀ account, (change account).kind = spent.kind) →
        Continues ledger (ledger.update id change) := by
      intro change hchange other kind hother
      rw [kind?_update, hother]
      intro found hfound
      rw [haccount] at hfound
      cases hfound
      rw [hchange, kind_of_spend? hspent]
    rcases Nat.lt_or_ge largestBlock size with hlarge | hfits
    · rw [Act.after_of_error (allocate_of_large hspend hlarge)]
      exact hkept _ fun _ => rfl
    · rw [Act.after_of_ok (allocate_of_fits hspend hfits)]
      exact hkept _ fun _ => rfl

end Allocating

theorem within_discard (buffer : Buffer) : Act.Within Continues (discard buffer) :=
  Act.within_modify fun ledger id _ hkind => (kind?_release _ ledger id).trans hkind

/-! ## What accounts count -/

/-- What is counted on an account; nothing is if there is none. -/
def tally (count : Account → Nat) (ledger : Ledger) (id : AllocatorId) : Nat :=
  (ledger.account? id).elim 0 count

/-- How many components an account has allocated. -/
abbrev allocated : Ledger → AllocatorId → Nat := tally Account.allocated

/-- How many components were given back to an account. -/
abbrev released : Ledger → AllocatorId → Nat := tally Account.released

section Counting

variable {ledger : Ledger} {id : AllocatorId} {count : Account → Nat}

/-- A change that leaves a count of its account alone leaves all others alone, too. -/
theorem tally_update {change : Account → Account}
    (h : ∀ account, ledger.account? id = some account → count (change account) = count account)
    (other : AllocatorId) :
    (ledger.update id change).tally count other = ledger.tally count other := by
  unfold tally
  rw [account?_update]
  by_cases hsame : id = other
  · subst hsame
    cases haccount : ledger.account? id with
    | none => rfl
    | some account => simp [h account haccount]
  · simp [hsame]

/-- An account may be put in the place of another one that has counted as much. -/
theorem tally_replace {account spent : Account} (haccount : ledger.account? id = some account)
    (h : count spent = count account) (other : AllocatorId) :
    (ledger.update id fun _ => spent).tally count other = ledger.tally count other := by
  refine tally_update (fun found hfound => ?_) other
  cases hfound.symm.trans haccount
  exact h

theorem tally_limit (ledger : Ledger) (id : AllocatorId) (allowance : Option Nat)
    (h : ∀ account, count { account with allowance := allowance } = count account)
    (other : AllocatorId) :
    (ledger.limit id allowance).tally count other = ledger.tally count other :=
  tally_update (fun account _ => h account) other

/-- A new account has counted nothing. -/
theorem tally_append (ledger : Ledger) (kind : MemoryKind)
    (h : count { kind := kind } = 0) (id : AllocatorId) :
    tally count ⟨ledger.accounts ++ [{ kind := kind }]⟩ id = ledger.tally count id := by
  show ((ledger.accounts ++ [{ kind := kind }])[id]?).elim 0 count =
    (ledger.accounts[id]?).elim 0 count
  rcases Nat.lt_trichotomy id ledger.accounts.length with hlt | rfl | hgt
  · rw [List.getElem?_append_left hlt]
  · rw [List.getElem?_concat_length, List.getElem?_eq_none (Nat.le_refl _)]
    exact h
  · rw [List.getElem?_eq_none (by rw [List.length_append]; exact hgt),
      List.getElem?_eq_none (Nat.le_of_lt hgt)]

/-- A component that is made is counted on its account. -/
theorem allocated_charge {account spent : Account} (haccount : ledger.account? id = some account)
    (hallocated : spent.allocated = account.allocated) (other : AllocatorId) :
    (ledger.update id fun _ => spent.charge).allocated other =
      ledger.allocated other + if id = other then 1 else 0 := by
  unfold allocated tally
  rw [account?_update]
  by_cases hsame : id = other
  · subst hsame
    simp [haccount, Account.charge, hallocated]
  · simp [hsame]

theorem allocated_release (components : List Component) (ledger : Ledger) (id : AllocatorId) :
    (release components ledger).allocated id = ledger.allocated id := by
  induction components generalizing ledger with
  | nil => rfl
  | cons c rest ih =>
    have hcredited : (ledger.update c.allocator Account.credit).allocated id =
        ledger.allocated id := by
      refine tally_update ?_ id
      exact fun _ _ => rfl
    exact (ih _).trans hcredited

/-- Each component that is given back is counted once, on the account that is there for it. -/
theorem released_release (components : List Component) (h : (ledger.account? id).isSome) :
    (release components ledger).released id =
      ledger.released id + components.countP (·.allocator = id) := by
  induction components generalizing ledger with
  | nil => rfl
  | cons c rest ih =>
    obtain ⟨account, haccount⟩ := Option.isSome_iff_exists.mp h
    have hthere : ((ledger.update c.allocator Account.credit).account? id).isSome := by
      rw [account?_update, Option.isSome_map]
      exact h
    have hcredited : (ledger.update c.allocator Account.credit).released id =
        ledger.released id + if c.allocator = id then 1 else 0 := by
      unfold released tally
      rw [account?_update, haccount]
      by_cases hsame : c.allocator = id
      · simp [hsame, Account.credit]
      · simp [hsame]
    rw [List.countP_cons]
    refine (ih hthere).trans ?_
    rw [hcredited]
    simp only [decide_eq_true_eq]
    omega

/-- Between two ledgers, an account has made so many components and so many were given back to it;
the other accounts count what they did. -/
def Gains (before : Ledger) (id : AllocatorId) (made back : Nat) (after : Ledger) : Prop :=
  ∀ other, after.allocated other = before.allocated other + (if id = other then made else 0) ∧
    after.released other = before.released other + if id = other then back else 0

theorem Gains.refl (ledger : Ledger) (id : AllocatorId) : ledger.Gains id 0 0 ledger := by
  intro other
  simp

/-- One component was made and is given back. -/
theorem Gains.release {before after : Ledger} {kind : MemoryKind} {size : Nat}
    (h : before.Gains id 1 0 after) (hthere : (after.account? id).isSome) :
    before.Gains id 1 1 (Ledger.release [.zeroed id kind size] after) := by
  intro other
  obtain ⟨hallocated, hreleased⟩ := h other
  refine ⟨(allocated_release _ _ _).trans hallocated, ?_⟩
  by_cases hsame : id = other
  · subst hsame
    have hone : [Component.zeroed id kind size].countP (·.allocator = id) = 1 := by
      simp [Component.zeroed]
    rw [released_release _ hthere, hone, hreleased, if_pos rfl, if_pos rfl]
  · have hcredited : (after.update id Account.credit).released other = after.released other := by
      unfold released tally
      rw [account?_update]
      simp [hsame]
    rw [if_neg hsame] at hreleased ⊢
    exact hcredited.trans hreleased

/-- **An allocation** that succeeds makes one component of fresh memory, and one that fails counts
nothing. -/
theorem allocate_cases (ledger : Ledger) (id : AllocatorId) (size : Nat) :
    (∃ kind ledger', (allocate id size).run ledger =
        .ok (.ofComponents [.zeroed id kind size]) ledger' ∧
      ledger.Gains id 1 0 ledger' ∧ (ledger'.account? id).isSome) ∨
    ∃ ledger', (allocate id size).run ledger = .error .outOfMemory ledger' ∧
      ledger.Gains id 0 0 ledger' := by
  cases hspend : (ledger.account? id).bind Account.spend? with
  | none => exact .inr ⟨ledger, allocate_of_none hspend, .refl ledger id⟩
  | some spent =>
    obtain ⟨account, haccount, hspent⟩ := Option.bind_eq_some_iff.mp hspend
    obtain ⟨hallocated, hreleased⟩ := spend?_counts hspent
    rcases Nat.lt_or_ge largestBlock size with hlarge | hfits
    · refine .inr ⟨_, allocate_of_large hspend hlarge, fun other => ?_⟩
      have hmade := tally_replace haccount hallocated other
      have hback := tally_replace haccount hreleased other
      simpa using ⟨hmade, hback⟩
    · have hcharged : spent.charge.released = account.released := hreleased
      refine .inl ⟨spent.kind, _, allocate_of_fits hspend hfits, fun other => ?_, ?_⟩
      · have hback := tally_replace haccount hcharged other
        exact ⟨allocated_charge haccount hallocated other, by simpa using hback⟩
      · rw [account?_update, haccount]
        rfl

end Counting

/-! ## Accounts without a limit -/

/-- An account makes memory of a kind, as often as it is asked to. -/
def Unlimited (ledger : Ledger) (id : AllocatorId) (kind : MemoryKind) : Prop :=
  ∃ account, ledger.account? id = some account ∧ account.kind = kind ∧ account.allowance = none

namespace Unlimited

variable {ledger : Ledger} {id : AllocatorId} {kind : MemoryKind}

theorem update (h : ledger.Unlimited id kind) (other : AllocatorId) {change : Account → Account}
    (hkind : ∀ account, (change account).kind = account.kind)
    (hallowance : ∀ account, (change account).allowance = account.allowance) :
    (ledger.update other change).Unlimited id kind := by
  obtain ⟨account, haccount, rfl, hnone⟩ := h
  unfold Unlimited
  rw [account?_update, haccount]
  by_cases hother : other = id
  · refine ⟨change account, ?_, hkind account, (hallowance account).trans hnone⟩
    simp [hother]
  · refine ⟨account, ?_, rfl, hnone⟩
    simp [hother]

theorem release (h : ledger.Unlimited id kind) (components : List Component) :
    (Ledger.release components ledger).Unlimited id kind := by
  induction components generalizing ledger with
  | nil => exact h
  | cons c rest ih => exact ih (h.update c.allocator (fun _ => rfl) fun _ => rfl)

/-- A block that is not too large is to be had. -/
theorem allocate (h : ledger.Unlimited id kind) {size : Nat} (hsize : size ≤ largestBlock) :
    ∃ ledger', (Ledger.allocate id size).run ledger =
        .ok (.ofComponents [.zeroed id kind size]) ledger' ∧ ledger'.Unlimited id kind := by
  obtain ⟨account, haccount, rfl, hnone⟩ := h
  have hspend : (ledger.account? id).bind Account.spend? = some account := by
    rw [haccount]
    show account.spend? = some account
    unfold Account.spend?
    rw [hnone]
  refine ⟨_, allocate_of_fits hspend hsize, account.charge, ?_, rfl, hnone⟩
  rw [account?_update, haccount]
  simp

end Unlimited

end UdpTransport.Ledger
