/-!
# Values under names

`Named α` keeps values of the type `α` under names, in increasing order of the names, which is part
of the type. The laws of `Named.get?` say that a value is found under the name it was put under
(`get?_put_self`), and that nothing changes under any other name (`get?_put_of_ne`,
`get?_erase_of_ne`).
-/

namespace UdpTransport

/-- Values under names. -/
structure Named (α : Type) where
  /-- The names with their values. -/
  entries : List (String × α) := []
  /-- The names increase. -/
  ordered : entries.Pairwise fun first second => first.1 < second.1 := by exact .nil
  deriving DecidableEq, Repr

namespace Named

variable {α : Type}

/-- No values. -/
def empty : Named α := {}

instance : Inhabited (Named α) := ⟨empty⟩

/-- The value under a name. -/
def get? (named : Named α) (name : String) : Option α := named.entries.lookup name

/-- Puts an entry in its place; it replaces an entry of the same name. -/
def insertEntry (name : String) (value : α) : List (String × α) → List (String × α)
  | [] => [(name, value)]
  | (other, kept) :: rest =>
    if name = other then (name, value) :: rest
    else if name < other then (name, value) :: (other, kept) :: rest
    else (other, kept) :: insertEntry name value rest

/-- Every name comes from the old entries or is the new one. -/
theorem mem_insertEntry {name : String} {value : α} {entries : List (String × α)}
    {entry : String × α} (h : entry ∈ insertEntry name value entries) :
    entry = (name, value) ∨ entry ∈ entries := by
  induction entries with
  | nil => exact .inl (List.mem_singleton.mp h)
  | cons first rest ih =>
    unfold insertEntry at h
    split at h
    · rcases List.mem_cons.mp h with new | old
      · exact .inl new
      · exact .inr (List.mem_cons_of_mem _ old)
    · split at h
      · exact List.mem_cons.mp h
      · rcases List.mem_cons.mp h with kept | later
        · exact .inr (kept ▸ List.mem_cons_self)
        · exact (ih later).imp_right (List.mem_cons_of_mem _)

/-- An entry is inserted where its name belongs. -/
theorem ordered_insertEntry (name : String) (value : α) {entries : List (String × α)}
    (h : entries.Pairwise fun first second => first.1 < second.1) :
    (insertEntry name value entries).Pairwise fun first second => first.1 < second.1 := by
  induction entries with
  | nil => exact List.pairwise_singleton ..
  | cons entry rest ih =>
    obtain ⟨other, kept⟩ := entry
    obtain ⟨least, later⟩ := List.pairwise_cons.mp h
    unfold insertEntry
    split
    case isTrue same => exact List.pairwise_cons.mpr ⟨same ▸ least, later⟩
    case isFalse different =>
      split
      case isTrue before =>
        refine List.pairwise_cons.mpr ⟨fun entry mem => ?_, h⟩
        rcases List.mem_cons.mp mem with first | behind
        · exact first ▸ before
        · exact String.lt_trans before (least entry behind)
      case isFalse behind =>
        have after : other < name := by
          rcases Std.lt_trichotomy name other with before | same | after
          · exact absurd before behind
          · exact absurd same different
          · exact after
        refine List.pairwise_cons.mpr ⟨fun entry mem => ?_, ih later⟩
        rcases mem_insertEntry mem with new | old
        · exact new ▸ after
        · exact least entry old

/-- Puts a value under a name. -/
def put (named : Named α) (name : String) (value : α) : Named α :=
  ⟨insertEntry name value named.entries, ordered_insertEntry name value named.ordered⟩

/-- Forgets what is under a name. -/
def erase (named : Named α) (name : String) : Named α :=
  ⟨named.entries.filter (·.1 != name), named.ordered.filter _⟩

/-- The names in increasing order. -/
def names (named : Named α) : List String := named.entries.map (·.1)

/-- The values in the order of their names. -/
def values (named : Named α) : List α := named.entries.map (·.2)

/-- It is found under that name. -/
theorem lookup_insertEntry_self (name : String) (value : α) (entries : List (String × α)) :
    (insertEntry name value entries).lookup name = some value := by
  induction entries with
  | nil => simp [insertEntry]
  | cons entry rest ih =>
    obtain ⟨other, kept⟩ := entry
    by_cases same : name = other
    · simp [insertEntry, same]
    · by_cases before : name < other
      · simp [insertEntry, same, before]
      · simp [insertEntry, same, before, List.lookup_cons, beq_eq_false_iff_ne.mpr same, ih]

/-- The others are found where they were. -/
theorem lookup_insertEntry_of_ne {name sought : String} (h : sought ≠ name) (value : α)
    (entries : List (String × α)) :
    (insertEntry name value entries).lookup sought = entries.lookup sought := by
  have skip : (sought == name) = false := beq_eq_false_iff_ne.mpr h
  induction entries with
  | nil => simp [insertEntry, List.lookup_cons, skip]
  | cons entry rest ih =>
    obtain ⟨other, kept⟩ := entry
    by_cases same : name = other
    · subst same
      simp [insertEntry, List.lookup_cons, skip]
    · by_cases before : name < other
      · simp [insertEntry, same, before, List.lookup_cons, skip]
      · simp only [insertEntry, same, before, if_false, List.lookup_cons, ih]

@[simp] theorem get?_put_self (named : Named α) (name : String) (value : α) :
    (named.put name value).get? name = some value := lookup_insertEntry_self ..

theorem get?_put_of_ne (named : Named α) {name sought : String} (h : sought ≠ name) (value : α) :
    (named.put name value).get? sought = named.get? sought := lookup_insertEntry_of_ne h ..

theorem lookup_filter_of_ne {name sought : String} (h : sought ≠ name)
    (entries : List (String × α)) :
    (entries.filter (·.1 != name)).lookup sought = entries.lookup sought := by
  induction entries with
  | nil => rfl
  | cons entry rest ih =>
    obtain ⟨other, kept⟩ := entry
    by_cases same : other = name
    · have skip : (sought == other) = false := beq_eq_false_iff_ne.mpr (same ▸ h)
      simp [same, List.lookup_cons, ih, same ▸ skip]
    · simp [same, List.lookup_cons, ih]

/-- To take one name away leaves the others. -/
theorem get?_erase_of_ne (named : Named α) {name sought : String} (h : sought ≠ name) :
    (named.erase name).get? sought = named.get? sought := lookup_filter_of_ne h _

@[simp] theorem get?_erase_self (named : Named α) (name : String) :
    (named.erase name).get? name = none := by
  simp only [get?, erase, List.lookup_eq_none_iff, List.mem_filter]
  intro entry kept
  simpa using Ne.symm (by simpa using kept.2)

/-- What is found under a name is an entry. -/
theorem mem_of_get? {named : Named α} {name : String} {value : α}
    (h : named.get? name = some value) : (name, value) ∈ named.entries := by
  obtain ⟨before, behind, entries, _⟩ := List.lookup_eq_some_iff.mp h
  simp [entries]

end Named

end UdpTransport
