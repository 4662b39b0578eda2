-- SUMMARY: Finite maps from names to values, as lists sorted by name.

/-! # Dictionaries

A dictionary lists its entries in the order of their names, each name once. Looking up a name and
inserting one do what a map does on any list; only the order of the entries relies on the order of
the list. -/

namespace Formula

/-- Entries in the order of their names. -/
abbrev Dictionary (α : Type) := List (String × α)

namespace Dictionary

variable {α β : Type}

/-- The value of a name. -/
def find? : Dictionary α → String → Option α
  | [], _ => none
  | (name, value) :: rest, key => if name = key then some value else find? rest key

def contains (d : Dictionary α) (key : String) : Bool := (find? d key).isSome

/-- Gives a name a value, in place of the one it has. -/
def insert : Dictionary α → String → α → Dictionary α
  | [], key, value => [(key, value)]
  | (name, old) :: rest, key, value =>
    if name = key then (key, value) :: rest
    else if key < name then (key, value) :: (name, old) :: rest
    else (name, old) :: insert rest key value

/-- Removes a name. -/
def erase (d : Dictionary α) (key : String) : Dictionary α := d.filter (·.1 ≠ key)

/-- The dictionary of a list of entries, in which a later entry counts more. -/
def ofEntries (entries : List (String × α)) : Dictionary α :=
  entries.foldl (fun d entry => insert d entry.1 entry.2) []

/-- The names in order. -/
def names (d : Dictionary α) : List String := d.map (·.1)

/-! ## Entries -/

theorem mem_of_find? {d : Dictionary α} {key : String} {value : α}
    (h : find? d key = some value) : (key, value) ∈ d := by
  induction d with
  | nil => simp [find?] at h
  | cons entry rest ih =>
    obtain ⟨name, old⟩ := entry
    simp only [find?] at h
    split at h
    · rename_i hname
      cases h
      simp [hname]
    · exact List.mem_cons_of_mem _ (ih h)

/-- What holds of a new value and of all others holds of all values after an insertion. -/
theorem forall_insert (P : α → Prop) {d : Dictionary α} {value : α}
    (hd : ∀ entry ∈ d, P entry.2) (hvalue : P value) (key : String) :
    ∀ entry ∈ insert d key value, P entry.2 := by
  induction d with
  | nil => simpa [insert] using hvalue
  | cons first rest ih =>
    obtain ⟨name, old⟩ := first
    simp only [List.forall_mem_cons] at hd
    simp only [insert]
    split
    · exact List.forall_mem_cons.mpr ⟨hvalue, hd.2⟩
    · split
      · exact List.forall_mem_cons.mpr ⟨hvalue, List.forall_mem_cons.mpr hd⟩
      · exact List.forall_mem_cons.mpr ⟨hd.1, ih hd.2⟩

/-! ## Lookup after a change -/

theorem find?_insert (d : Dictionary α) (key : String) (value : α) (name : String) :
    find? (insert d key value) name = if key = name then some value else find? d name := by
  induction d with
  | nil => simp [insert, find?]
  | cons entry rest ih =>
    obtain ⟨first, old⟩ := entry
    simp only [insert]
    split
    · rename_i h
      subst h
      simp only [find?]
      split <;> rfl
    · split
      · simp only [find?]
      · rename_i h _
        simp only [find?, ih]
        by_cases hn : first = name
        · have : ¬ key = name := fun hk => h (hn.trans hk.symm)
          simp [hn, this]
        · simp [hn]

theorem find?_erase (d : Dictionary α) (key name : String) :
    find? (erase d key) name = if name = key then none else find? d name := by
  induction d with
  | nil => simp [erase, find?]
  | cons entry rest ih =>
    obtain ⟨first, old⟩ := entry
    simp only [erase] at ih
    by_cases hf : first = key
    · simp only [erase, List.filter_cons, hf, find?]
      by_cases hn : name = key
      · simpa [hn] using ih
      · have : ¬ key = name := fun hk => hn hk.symm
        simpa [hn, this] using ih
    · simp only [erase, List.filter_cons, find?]
      by_cases hfn : first = name
      · have : ¬ name = key := fun h => hf (hfn.trans h)
        simp [hfn, this, find?]
      · simpa [hf, hfn, find?] using ih

/-! ## Names -/

theorem contains_iff {d : Dictionary α} {key : String} : contains d key = true ↔ key ∈ names d := by
  induction d with
  | nil => simp [contains, find?, names]
  | cons entry rest ih =>
    obtain ⟨name, old⟩ := entry
    simp only [contains, names, find?, List.map_cons, List.mem_cons] at ih ⊢
    by_cases hname : name = key
    · simp [hname]
    · rw [if_neg hname, ih]
      simp [Ne.symm hname]

theorem mem_names_insert {d : Dictionary α} {key name : String} {value : α} :
    name ∈ names (insert d key value) ↔ name = key ∨ name ∈ names d := by
  simp only [← contains_iff, contains, find?_insert]
  by_cases hname : key = name
  · simp [hname]
  · simp [hname, Ne.symm hname]

/-- The names of a dictionary are those of the entries it is made of. -/
theorem mem_names_ofEntries {entries : List (String × α)} {name : String} :
    name ∈ names (ofEntries entries) ↔ ∃ entry ∈ entries, entry.1 = name := by
  suffices h : ∀ d : Dictionary α,
      name ∈ names (entries.foldl (fun d entry => insert d entry.1 entry.2) d) ↔
        name ∈ names d ∨ ∃ entry ∈ entries, entry.1 = name by
    simpa [ofEntries, names] using h []
  induction entries with
  | nil => simp
  | cons entry rest ih =>
    intro d
    simp only [List.foldl_cons, ih, mem_names_insert, List.mem_cons, exists_eq_or_imp]
    rw [or_comm (a := name = entry.1), or_assoc, eq_comm (a := name)]

end Dictionary
end Formula
