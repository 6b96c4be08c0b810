import Mathlib.Algebra.BigOperators.Group.List.Basic
import Mathlib.Tactic.Abel
import UdpTransport.Named

/-!
# Taking values out, and sums over names

A value that is taken out and put back leaves no trace (`Named.put_erase`). What the values under
names add up to is what is under one name and what is under the others (`Named.sum_erase`), and so
it is known what there is once a value is replaced (`Named.sum_put`). The amounts can be of any kind
that can be added.
-/

namespace UdpTransport.Named

variable {α M : Type} {name : String} {value : α} {named : Named α}

theorem filter_insertEntry (name : String) (value : α) (entries : List (String × α)) :
    (insertEntry name value entries).filter (·.1 != name) = entries.filter (·.1 != name) := by
  induction entries with
  | nil => simp [insertEntry]
  | cons entry rest ih =>
    obtain ⟨other, kept⟩ := entry
    unfold insertEntry
    by_cases same : name = other
    · simp [same]
    · by_cases before : name < other
      · simp [same, before]
      · rw [if_neg same, if_neg before, List.filter_cons, List.filter_cons, ih]

/-- What was put under a name is forgotten with it. -/
theorem erase_put (named : Named α) (name : String) (value : α) :
    (named.put name value).erase name = named.erase name := by
  unfold erase
  congr 1
  exact filter_insertEntry name value named.entries

theorem erase_of_none (h : named.get? name = none) : named.erase name = named := by
  obtain ⟨entries, ordered⟩ := named
  unfold erase
  congr 1
  refine List.filter_eq_self.mpr fun entry hentry => ?_
  have hother := List.lookup_eq_none_iff.mp h entry hentry
  exact bne_iff_ne.mpr fun heq => by simp [heq] at hother

/-- A name that is less than all others is not among them. -/
theorem filter_of_least {entries : List (String × α)} (h : ∀ entry ∈ entries, name < entry.1) :
    entries.filter (·.1 != name) = entries := by
  refine List.filter_eq_self.mpr fun entry hentry => ?_
  have hless := h entry hentry
  exact bne_iff_ne.mpr fun heq => absurd (heq ▸ hless) (String.lt_irrefl name)

theorem insertEntry_of_least {entries : List (String × α)} (h : ∀ entry ∈ entries, name < entry.1) :
    insertEntry name value entries = (name, value) :: entries := by
  cases entries with
  | nil => rfl
  | cons entry rest =>
    obtain ⟨other, kept⟩ := entry
    have hless : name < other := h (other, kept) List.mem_cons_self
    have hne : name ≠ other := by
      rintro rfl
      exact String.lt_irrefl name hless
    rw [insertEntry, if_neg hne, if_pos hless]

/-- What is put back under its name is as if it had never been taken out. -/
theorem put_erase (h : named.get? name = some value) :
    (named.erase name).put name value = named := by
  obtain ⟨entries, ordered⟩ := named
  unfold erase put
  congr 1
  show insertEntry name value (entries.filter (·.1 != name)) = entries
  have hfound : entries.lookup name = some value := h
  clear h
  induction entries with
  | nil => cases hfound
  | cons entry rest ih =>
    obtain ⟨other, kept⟩ := entry
    obtain ⟨hleast, hrest⟩ := List.pairwise_cons.mp ordered
    by_cases same : name = other
    · subst same
      rw [List.lookup_cons_self] at hfound
      cases hfound
      rw [List.filter_cons_of_neg (by simp), filter_of_least hleast]
      exact insertEntry_of_least hleast
    · have hskip : (name == other) = false := beq_eq_false_iff_ne.mpr same
      rw [List.lookup_cons, hskip] at hfound
      obtain ⟨before, behind, hentries, _⟩ := List.lookup_eq_some_iff.mp hfound
      have hless : other < name := hleast (name, value) (by simp [hentries])
      rw [List.filter_cons_of_pos (by simpa using Ne.symm same), insertEntry, if_neg same,
        if_neg fun hback => absurd (String.lt_trans hback hless) (String.lt_irrefl name),
        ih hrest hfound]

/-- The sum of what the values amount to. -/
def sum [AddCommMonoid M] (amount : α → M) (named : Named α) : M :=
  (named.values.map amount).sum

section Sums

variable [AddCommMonoid M] (amount : α → M)

/-- What is under a name and what is under the others is all there is. -/
theorem sum_erase (h : named.get? name = some value) :
    named.sum amount = amount value + (named.erase name).sum amount := by
  obtain ⟨entries, ordered⟩ := named
  show ((entries.map (·.2)).map amount).sum =
    amount value + (((entries.filter (·.1 != name)).map (·.2)).map amount).sum
  have hfound : entries.lookup name = some value := h
  clear h
  induction entries with
  | nil => cases hfound
  | cons entry rest ih =>
    obtain ⟨other, kept⟩ := entry
    obtain ⟨hleast, hrest⟩ := List.pairwise_cons.mp ordered
    by_cases same : name = other
    · -- The name is the first, and the later names are greater.
      subst same
      rw [List.lookup_cons_self] at hfound
      cases hfound
      rw [List.filter_cons_of_neg (by simp), filter_of_least hleast]
      exact List.sum_cons
    · have hskip : (name == other) = false := beq_eq_false_iff_ne.mpr same
      rw [List.lookup_cons, hskip] at hfound
      rw [List.filter_cons_of_pos (by simpa using Ne.symm same)]
      show (amount kept :: (rest.map (·.2)).map amount).sum =
        amount value + (amount kept :: ((rest.filter _).map (·.2)).map amount).sum
      rw [List.sum_cons, List.sum_cons, ih hrest hfound]
      abel

/-- A value that is put under a name replaces what was there. -/
theorem sum_put (named : Named α) (name : String) (value : α) :
    (named.put name value).sum amount = amount value + (named.erase name).sum amount := by
  rw [sum_erase amount (get?_put_self named name value), erase_put]

/-- A name without a value counts as one with a value that amounts to nothing. -/
theorem sum_getD {none : α} (hnone : amount none = 0) (named : Named α) (name : String) :
    named.sum amount = amount ((named.get? name).getD none) + (named.erase name).sum amount := by
  cases h : named.get? name with
  | none => rw [erase_of_none h, Option.getD_none, hnone, zero_add]
  | some value => exact sum_erase amount h

end Sums

end UdpTransport.Named
