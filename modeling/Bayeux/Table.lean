set_option autoImplicit false

namespace Bayeux

/-- Entries in the order of their names, each name once. Names compare by code points. -/
abbrev Table (α : Type) := List (String × α)

namespace Table

variable {α : Type}

def get? : Table α → String → Option α
  | [], _ => none
  | (name, value) :: rest, key => if name = key then some value else get? rest key

def insert : Table α → String → α → Table α
  | [], key, value => [(key, value)]
  | (name, old) :: rest, key, value =>
    if key < name then (key, value) :: (name, old) :: rest
    else if key = name then (key, value) :: rest
    else (name, old) :: insert rest key value

def erase : Table α → String → Table α
  | [], _ => []
  | (name, value) :: rest, key =>
    if name = key then rest else (name, value) :: erase rest key

def contains (table : Table α) (key : String) : Bool := (table.get? key).isSome

def keys (table : Table α) : List String := table.map (·.1)

def values (table : Table α) : List α := table.map (·.2)

def mapValues {β : Type} (f : α → β) (table : Table α) : Table β :=
  table.map fun entry => (entry.1, f entry.2)

-- Later entries replace earlier ones of the same name.
def ofList (entries : List (String × α)) : Table α :=
  entries.foldl (fun table entry => table.insert entry.1 entry.2) []

def Sorted (table : Table α) : Prop := (table.map (·.1)).Pairwise (· < ·)

@[simp] theorem get?_nil (key : String) : get? ([] : Table α) key = none := rfl

@[simp] theorem sorted_nil : Sorted ([] : Table α) := List.Pairwise.nil

theorem sorted_cons {name : String} {value : α} {rest : Table α} :
    Sorted ((name, value) :: rest) ↔ (∀ other ∈ keys rest, name < other) ∧ Sorted rest := by
  simp [Sorted, keys]

theorem mem_keys_of_get? {table : Table α} {key : String} {value : α}
    (found : table.get? key = some value) : key ∈ table.keys := by
  induction table with
  | nil => simp at found
  | cons entry rest ih =>
    obtain ⟨name, first⟩ := entry
    simp only [get?] at found
    split at found
    next same => simp [keys, same]
    next => exact List.mem_cons_of_mem _ (ih found)

theorem get?_eq_none_of_lt {table : Table α} {key : String}
    (below : ∀ other ∈ table.keys, key < other) : table.get? key = none := by
  cases found : table.get? key with
  | none => rfl
  | some value => exact absurd (below key (mem_keys_of_get? found)) (String.lt_irrefl key)

@[simp] theorem get?_insert_self (table : Table α) (key : String) (value : α) :
    (table.insert key value).get? key = some value := by
  induction table with
  | nil => simp [insert, get?]
  | cons entry rest ih =>
    obtain ⟨name, old⟩ := entry
    simp only [insert]
    split
    · simp [get?]
    · split
      · simp [get?]
      · rename_i other
        simp [get?, Ne.symm other, ih]

theorem get?_insert_of_ne (table : Table α) (key other : String) (value : α) (h : other ≠ key) :
    (table.insert key value).get? other = table.get? other := by
  induction table with
  | nil => simp [insert, get?, Ne.symm h]
  | cons entry rest ih =>
    obtain ⟨name, old⟩ := entry
    simp only [insert]
    split
    · simp [get?, Ne.symm h]
    · split
      · rename_i same
        subst same
        simp [get?, Ne.symm h]
      · simp [get?, ih]

theorem get?_erase_of_ne (table : Table α) (key other : String) (h : other ≠ key) :
    (table.erase key).get? other = table.get? other := by
  induction table with
  | nil => rfl
  | cons entry rest ih =>
    obtain ⟨name, value⟩ := entry
    simp only [erase]
    split
    · rename_i same
      subst same
      simp [get?, Ne.symm h]
    · simp [get?, ih]

theorem get?_erase_self {table : Table α} (sorted : table.Sorted) (key : String) :
    (table.erase key).get? key = none := by
  induction table with
  | nil => rfl
  | cons entry rest ih =>
    obtain ⟨name, value⟩ := entry
    obtain ⟨below, tail⟩ := sorted_cons.mp sorted
    simp only [erase]
    split
    next same => exact get?_eq_none_of_lt (same ▸ below)
    next differ => simp [get?, differ, ih tail]

end Table

end Bayeux
