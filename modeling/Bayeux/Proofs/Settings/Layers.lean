import Bayeux.Proofs.Table
import Bayeux.Settings.Sources

set_option autoImplicit false

namespace Bayeux

namespace RawSetting

def groupNames : List String := ["log", "message"]

def isTable : RawSetting → Bool
  | .table _ _ => true
  | _ => false

def nested (names : List String) (value : RawSetting) : RawSetting :=
  names.foldr (fun name inner => .table [(name, inner)] none) value

def namesOf? : List PlaceStep → Option (List String)
  | [] => some []
  | .name name :: steps => (namesOf? steps).map (name :: ·)
  | .index _ :: _ => none

-- An entry that gives settings of a group gives them in a table, or each at its own place.
def isPlain (entry : String × RawSetting) : Bool :=
  match PlaceStep.readPlace entry.1 with
  | .name name :: steps =>
    !groupNames.contains name || (namesOf? steps).any fun names => (nested names entry.2).isTable
  | _ => false

def valuesUnder (key : String) (entries : List (String × RawSetting)) : List RawSetting :=
  (entries.filter (·.1 = key)).map (·.2)

def valuesIn (group key : String) (entry : String × RawSetting) : List RawSetting :=
  match PlaceStep.readPlace entry.1 with
  | .name name :: steps =>
    if name = group then
      ((namesOf? steps).map fun names => valuesUnder key (nested names entry.2).entries).getD []
    else []
  | _ => []

def valuesOf (layer : List (String × RawSetting)) (group key : String) : List RawSetting :=
  layer.flatMap (valuesIn group key)

-- Values put over each other, the last on top.
def stack (below : Option RawSetting) (values : List RawSetting) : Option RawSetting :=
  values.foldl (fun below value => some (value.above (below.getD .missing))) below

-- A table in which the groups that are there are tables too.
structure Grouped (raw : RawSetting) : Prop where
  table : raw.isTable
  sorted : raw.entries.Sorted
  groups : ∀ group ∈ groupNames, ∀ inner, raw.entries.get? group = some inner →
    inner.isTable ∧ inner.entries.Sorted

def at? (raw : RawSetting) (group key : String) : Option RawSetting :=
  (raw.entries.get? group).bind (·.entries.get? key)

variable {raw value old inner : RawSetting} {group key name : String}
  {entry : String × RawSetting} {layer : List (String × RawSetting)} {steps : List PlaceStep}
  {names : List String} {entries : Table RawSetting} {below : Option RawSetting}

theorem stack_append (first second : List RawSetting) :
    stack below (first ++ second) = stack (stack below first) second :=
  List.foldl_append

theorem sorted_entriesAbove {old : Table RawSetting} (sorted : old.Sorted) :
    (entriesAbove entries old).Sorted := by
  induction entries generalizing old with
  | nil => simpa [entriesAbove] using sorted
  | cons entry rest ih =>
    obtain ⟨name, value⟩ := entry
    rw [entriesAbove]
    exact ih (sorted.insert _ _)

theorem get?_entriesAbove (entries old : Table RawSetting) (key : String) :
    (entriesAbove entries old).get? key = stack (old.get? key) (valuesUnder key entries) := by
  induction entries generalizing old with
  | nil => simp [entriesAbove, valuesUnder, stack]
  | cons entry rest ih =>
    obtain ⟨name, value⟩ := entry
    rw [entriesAbove, ih, Table.get?_insert]
    by_cases same : name = key
    · simp [valuesUnder, stack, same]
    · simp [valuesUnder, stack, same, Ne.symm same]

theorem isTable_iff : raw.isTable ↔ ∃ entries source, raw = .table entries source := by
  cases raw <;> simp [isTable]

theorem above_table (table : raw.isTable) (below : RawSetting) :
    (raw.above below).isTable ∧ (raw.above below).entries = entriesAbove raw.entries below.entries := by
  obtain ⟨entries, source, rfl⟩ := isTable_iff.mp table
  cases below <;> simp [above, isTable, RawSetting.entries]

theorem above_of_not_table (plain : raw.isTable = false) (below : RawSetting) :
    raw.above below = raw := by
  cases raw <;> simp_all [above, isTable]

-- To put a value at a place of names is to put the tables that lead to it over what is there.
theorem put_eq (place : namesOf? steps = some names) :
    put value steps old = (nested names value).above old := by
  induction steps generalizing names old with
  | nil =>
    cases place
    rfl
  | cons step rest ih =>
    cases step with
    | index => cases place
    | name name =>
      obtain ⟨inner, place', rfl⟩ := Option.map_eq_some_iff.mp place
      simp only [put, ih place', nested, List.foldr_cons]
      cases old <;> simp [asTable, above, entriesAbove]

theorem isTable_put_name : (put value (.name name :: steps) old).isTable := rfl

theorem entries_put_name (value : RawSetting) (name : String) (steps : List PlaceStep)
    (old : RawSetting) : (put value (.name name :: steps) old).entries =
      old.entries.insert name (put value steps ((old.entries.get? name).getD .missing)) := by
  cases old <;> rfl

theorem sorted_getD_entries (grouped : old.Grouped) (known : group ∈ groupNames) :
    ((old.entries.get? group).getD .missing).entries.Sorted := by
  cases there : old.entries.get? group with
  | none => exact Table.sorted_nil
  | some inner => exact (grouped.groups group known inner there).2

theorem at?_eq (raw : RawSetting) (group key : String) :
    raw.at? group key = ((raw.entries.get? group).getD .missing).entries.get? key := by
  rw [at?]
  cases raw.entries.get? group <;> rfl

-- What is put into a group goes over what the group has.
theorem put_group (place : PlaceStep.readPlace entry.1 = .name name :: steps) (plain : isPlain entry)
    (known : name ∈ groupNames) (below : RawSetting) :
    ∃ names, namesOf? steps = some names ∧ (put entry.2 steps below).isTable ∧
      (put entry.2 steps below).entries = entriesAbove (nested names entry.2).entries below.entries := by
  have listed : groupNames.contains name = true := List.contains_iff_mem.mpr known
  simp only [isPlain, place, listed, Bool.not_true, Bool.false_or] at plain
  obtain ⟨names, named, table⟩ := (Option.any_eq_true _ _).mp plain
  rw [put_eq named]
  exact ⟨names, named, above_table table below⟩

theorem exists_place (plain : isPlain entry) :
    ∃ name steps, PlaceStep.readPlace entry.1 = .name name :: steps := by
  unfold isPlain at plain
  split at plain
  next name steps place => exact ⟨name, steps, place⟩
  next => cases plain

theorem put_plain (grouped : old.Grouped) (plain : isPlain entry) (known : group ∈ groupNames)
    (key : String) :
    (put entry.2 (PlaceStep.readPlace entry.1) old).Grouped ∧
      (put entry.2 (PlaceStep.readPlace entry.1) old).at? group key =
        stack (old.at? group key) (valuesIn group key entry) := by
  obtain ⟨name, steps, place⟩ := exists_place plain
  simp only [valuesIn, place]
  -- Only the part under the name that the place begins with is another one.
  have same : ∀ other, (put entry.2 (.name name :: steps) old).entries.get? other =
      if other = name then some (put entry.2 steps ((old.entries.get? name).getD .missing))
      else old.entries.get? other := by
    intro other
    rw [entries_put_name, Table.get?_insert]
  refine ⟨⟨isTable_put_name, ?_, ?_⟩, ?_⟩
  · rw [entries_put_name]
    exact grouped.sorted.insert _ _
  · intro other known' inner there
    rw [same] at there
    split at there
    next equal =>
      subst equal
      obtain ⟨names, -, table, entries⟩ := put_group place plain known' _
      cases there
      exact ⟨table, entries ▸ sorted_entriesAbove (sorted_getD_entries grouped known')⟩
    next => exact grouped.groups other known' inner there
  · rw [at?_eq, at?_eq, same]
    by_cases here : group = name
    · subst here
      obtain ⟨names, named, -, entries⟩ := put_group place plain known
        ((old.entries.get? group).getD .missing)
      simp [named, entries, get?_entriesAbove]
    · simp [here, Ne.symm here, stack]

theorem putAll_plain (grouped : old.Grouped) (plain : ∀ entry ∈ layer, isPlain entry)
    (known : group ∈ groupNames) (key : String) :
    (old.putAll layer).Grouped ∧
      (old.putAll layer).at? group key = stack (old.at? group key) (valuesOf layer group key) := by
  induction layer generalizing old with
  | nil => exact ⟨grouped, rfl⟩
  | cons entry rest ih =>
    obtain ⟨grouped', same⟩ := put_plain grouped (plain entry List.mem_cons_self) known key
    obtain ⟨done, later⟩ := ih grouped' fun other member => plain other (List.mem_cons_of_mem _ member)
    refine ⟨done, later.trans ?_⟩
    rw [same, ← stack_append]
    rfl

theorem grouped_empty : RawSetting.empty.Grouped where
  table := rfl
  sorted := Table.sorted_nil
  groups := by simp [RawSetting.empty, RawSetting.entries]

/-- What layers over each other set: for each setting what they give for it, over each other. -/
theorem foldl_putAll_plain {layers : List (List (String × RawSetting))} (grouped : old.Grouped)
    (plain : ∀ layer ∈ layers, ∀ entry ∈ layer, isPlain entry) (known : group ∈ groupNames)
    (key : String) :
    (layers.foldl putAll old).Grouped ∧
      (layers.foldl putAll old).at? group key =
        stack (old.at? group key) (layers.flatMap (valuesOf · group key)) := by
  induction layers generalizing old with
  | nil => exact ⟨grouped, rfl⟩
  | cons layer rest ih =>
    obtain ⟨grouped', same⟩ := putAll_plain grouped (plain layer List.mem_cons_self) known key
    obtain ⟨done, later⟩ := ih grouped' fun other member => plain other (List.mem_cons_of_mem _ member)
    refine ⟨done, later.trans ?_⟩
    rw [same, ← stack_append]
    rfl

end RawSetting

end Bayeux
