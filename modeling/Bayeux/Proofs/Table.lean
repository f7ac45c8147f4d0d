import Bayeux.Table

set_option autoImplicit false

namespace Bayeux.Table

variable {α β : Type}

theorem mem_values_of_get? {table : Table α} {key : String} {value : α}
    (found : table.get? key = some value) : value ∈ table.values := by
  induction table with
  | nil => simp at found
  | cons entry rest ih =>
    obtain ⟨name, first⟩ := entry
    simp only [get?] at found
    split at found
    next => simp [values, Option.some.inj found]
    next => exact List.mem_cons_of_mem _ (ih found)

theorem get?_of_mem {table : Table α} (sorted : table.Sorted) {key : String} {value : α}
    (member : (key, value) ∈ table) : table.get? key = some value := by
  induction table with
  | nil => exact absurd member List.not_mem_nil
  | cons entry rest ih =>
    obtain ⟨name, first⟩ := entry
    obtain ⟨below, sorted'⟩ := sorted_cons.mp sorted
    rcases List.mem_cons.mp member with same | later
    · cases same
      simp [get?]
    · have found := ih sorted' later
      have differ : name ≠ key := by
        rintro rfl
        exact String.lt_irrefl name (below name (mem_keys_of_get? found))
      rw [get?, if_neg differ, found]

theorem mem_values_iff {table : Table α} (sorted : table.Sorted) (value : α) :
    value ∈ table.values ↔ ∃ key, table.get? key = some value := by
  constructor
  · intro member
    induction table with
    | nil => simp [values] at member
    | cons entry rest ih =>
      obtain ⟨name, first⟩ := entry
      obtain ⟨below, tail⟩ := sorted_cons.mp sorted
      simp only [values, List.map_cons, List.mem_cons] at member
      rcases member with same | later
      · exact ⟨name, by simp [get?, same]⟩
      · obtain ⟨key, found⟩ := ih tail later
        have other : name ≠ key := by
          have less := below key (mem_keys_of_get? found)
          grind
        exact ⟨key, by simp [get?, other, found]⟩
  · rintro ⟨key, found⟩
    exact mem_values_of_get? found

theorem mem_keys_insert {table : Table α} {key other : String} {value : α}
    (member : other ∈ (table.insert key value).keys) : other = key ∨ other ∈ table.keys := by
  induction table with
  | nil => simpa [insert, keys] using member
  | cons entry rest ih =>
    obtain ⟨name, old⟩ := entry
    simp only [insert] at member
    split at member
    · simpa [keys] using member
    · split at member
      next same =>
        subst same
        simpa [keys] using member
      next =>
        simp only [keys, List.map_cons, List.mem_cons] at member ⊢
        rcases member with first | later
        · exact .inr (.inl first)
        · rcases ih later with same | found
          · exact .inl same
          · exact .inr (.inr found)

theorem mem_values_insert {table : Table α} {key : String} {value other : α}
    (member : other ∈ (table.insert key value).values) : other = value ∨ other ∈ table.values := by
  induction table with
  | nil => simpa [insert, values] using member
  | cons entry rest ih =>
    obtain ⟨name, old⟩ := entry
    simp only [insert] at member
    split at member
    · simpa [values] using member
    · split at member
      next =>
        simp only [values, List.map_cons, List.mem_cons] at member ⊢
        rcases member with first | later
        · exact .inl first
        · exact .inr (.inr later)
      next =>
        simp only [values, List.map_cons, List.mem_cons] at member ⊢
        rcases member with first | later
        · exact .inr (.inl first)
        · rcases ih later with same | found
          · exact .inl same
          · exact .inr (.inr found)

theorem length_le_insert (table : Table α) (key : String) (value : α) :
    table.length ≤ (table.insert key value).length := by
  induction table with
  | nil => exact Nat.zero_le _
  | cons entry rest ih =>
    obtain ⟨name, old⟩ := entry
    simp only [insert]
    split
    · exact Nat.le_succ _
    · split
      · exact Nat.le_refl _
      · exact Nat.succ_le_succ ih

theorem Sorted.insert {table : Table α} (sorted : table.Sorted) (key : String) (value : α) :
    (table.insert key value).Sorted := by
  induction table with
  | nil => simp [Table.insert, Sorted]
  | cons entry rest ih =>
    obtain ⟨name, old⟩ := entry
    obtain ⟨below, tail⟩ := sorted_cons.mp sorted
    simp only [Table.insert]
    split
    next less =>
      refine sorted_cons.mpr ⟨?_, sorted⟩
      intro other member
      rcases List.mem_cons.mp member with first | later
      · exact first ▸ less
      · exact String.lt_trans less (below other later)
    next notLess =>
      split
      next same => exact sorted_cons.mpr ⟨same ▸ below, tail⟩
      next differ =>
        refine sorted_cons.mpr ⟨?_, ih tail⟩
        intro other member
        rcases mem_keys_insert member with same | found
        · grind
        · exact below other found

theorem mem_keys_erase {table : Table α} {key other : String}
    (member : other ∈ (table.erase key).keys) : other ∈ table.keys := by
  induction table with
  | nil => exact member
  | cons entry rest ih =>
    obtain ⟨name, value⟩ := entry
    simp only [erase] at member
    split at member
    · exact List.mem_cons_of_mem _ member
    · rcases List.mem_cons.mp member with first | later
      · exact first ▸ List.mem_cons_self
      · exact List.mem_cons_of_mem _ (ih later)

theorem mem_values_erase {table : Table α} {key : String} {value : α}
    (member : value ∈ (table.erase key).values) : value ∈ table.values := by
  induction table with
  | nil => exact member
  | cons entry rest ih =>
    obtain ⟨name, first⟩ := entry
    simp only [erase] at member
    split at member
    · exact List.mem_cons_of_mem _ member
    · rcases List.mem_cons.mp member with same | later
      · exact same ▸ List.mem_cons_self
      · exact List.mem_cons_of_mem _ (ih later)

theorem Sorted.erase {table : Table α} (sorted : table.Sorted) (key : String) :
    (table.erase key).Sorted := by
  induction table with
  | nil => exact sorted
  | cons entry rest ih =>
    obtain ⟨name, value⟩ := entry
    obtain ⟨below, tail⟩ := sorted_cons.mp sorted
    simp only [Table.erase]
    split
    · exact tail
    · exact sorted_cons.mpr ⟨fun other member => below other (mem_keys_erase member), ih tail⟩

theorem get?_of_get?_erase {table : Table α} (sorted : table.Sorted) {key other : String}
    {value : α} (found : (table.erase key).get? other = some value) :
    other ≠ key ∧ table.get? other = some value := by
  by_cases same : other = key
  · rw [same, get?_erase_self sorted] at found
    exact absurd found (by simp)
  · exact ⟨same, by rwa [get?_erase_of_ne table key other same] at found⟩

theorem Sorted.ext {a b : Table α} (left : a.Sorted) (right : b.Sorted)
    (same : ∀ key, a.get? key = b.get? key) : a = b := by
  induction a generalizing b with
  | nil =>
    cases b with
    | nil => rfl
    | cons entry rest =>
      have first := same entry.1
      simp [get?] at first
  | cons entry rest ih =>
    obtain ⟨name, value⟩ := entry
    obtain ⟨below, tail⟩ := sorted_cons.mp left
    cases b with
    | nil =>
      have first := same name
      simp [get?] at first
    | cons other more =>
      obtain ⟨key, found⟩ := other
      obtain ⟨above, tail'⟩ := sorted_cons.mp right
      have head : name = key := by
        have atName := same name
        have atKey := same key
        simp only [get?, if_true] at atName atKey
        by_cases equal : name = key
        · exact equal
        · simp only [Ne.symm equal, equal, if_false] at atName atKey
          have less := above name (mem_keys_of_get? atName.symm)
          have more := below key (mem_keys_of_get? atKey)
          grind
      subst head
      have heads := same name
      simp only [get?, if_true, Option.some.injEq] at heads
      rw [heads, ih tail tail']
      intro key
      by_cases equal : name = key
      · rw [← equal, get?_eq_none_of_lt below, get?_eq_none_of_lt above]
      · simpa [get?, equal] using same key

theorem get?_insert (table : Table α) (key other : String) (value : α) :
    (table.insert key value).get? other = if other = key then some value else table.get? other := by
  by_cases same : other = key
  · simp [same]
  · simp [same, get?_insert_of_ne]

theorem get?_erase {table : Table α} (sorted : table.Sorted) (key other : String) :
    (table.erase key).get? other = if other = key then none else table.get? other := by
  by_cases same : other = key
  · simp [same, get?_erase_self sorted]
  · simp [same, get?_erase_of_ne]

theorem erase_insert_self {table : Table α} (sorted : table.Sorted) (key : String) (value : α) :
    (table.insert key value).erase key = table.erase key := by
  refine ((sorted.insert key value).erase key).ext (sorted.erase key) fun other => ?_
  rw [get?_erase (sorted.insert key value), get?_erase sorted, get?_insert]
  split <;> rfl

theorem insert_erase_self {table : Table α} (sorted : table.Sorted) (key : String) (value : α) :
    (table.erase key).insert key value = table.insert key value := by
  refine ((sorted.erase key).insert key value).ext (sorted.insert key value) fun other => ?_
  rw [get?_insert, get?_insert, get?_erase sorted]
  grind

theorem insert_of_get? {table : Table α} (sorted : table.Sorted) {key : String} {value : α}
    (found : table.get? key = some value) : table.insert key value = table := by
  refine (sorted.insert key value).ext sorted fun other => ?_
  rw [get?_insert]
  grind

theorem insert_insert_self {table : Table α} (sorted : table.Sorted) (key : String)
    (first second : α) : (table.insert key first).insert key second = table.insert key second := by
  refine ((sorted.insert key first).insert key second).ext (sorted.insert key second) fun other => ?_
  rw [get?_insert, get?_insert, get?_insert]
  split <;> rfl

theorem erase_of_missing {table : Table α} (sorted : table.Sorted) {key : String}
    (missing : table.get? key = none) : table.erase key = table := by
  refine (sorted.erase key).ext sorted fun other => ?_
  rw [get?_erase sorted]
  grind

theorem erase_insert_of_ne {table : Table α} (sorted : table.Sorted) {key other : String}
    (differ : key ≠ other) (value : α) :
    (table.insert key value).erase other = (table.erase other).insert key value := by
  refine ((sorted.insert key value).erase other).ext ((sorted.erase other).insert key value)
    fun name => ?_
  rw [get?_erase (sorted.insert key value), get?_insert, get?_insert, get?_erase sorted]
  grind

theorem erase_erase_self {table : Table α} (sorted : table.Sorted) (key : String) :
    (table.erase key).erase key = table.erase key := by
  refine ((sorted.erase key).erase key).ext (sorted.erase key) fun other => ?_
  rw [get?_erase (sorted.erase key), get?_erase sorted]
  split <;> rfl

theorem erase_comm {table : Table α} (sorted : table.Sorted) (key other : String) :
    (table.erase key).erase other = (table.erase other).erase key := by
  refine ((sorted.erase key).erase other).ext ((sorted.erase other).erase key) fun name => ?_
  simp only [get?_erase (sorted.erase key), get?_erase (sorted.erase other), get?_erase sorted]
  grind

-- What is under two keys is counted for both.
theorem count_flatMap_pair [DecidableEq β] (f : α → List β) {table : Table α} {key other : String}
    (differ : key ≠ other) {first second : α} (found : table.get? key = some first)
    (found' : table.get? other = some second) (b : β) :
    (f first).count b + (f second).count b ≤ (table.values.flatMap f).count b := by
  have one {rest : Table α} {name : String} {value : α} (there : get? rest name = some value) :
      (f value).count b ≤ ((values rest).flatMap f).count b := by
    rw [List.flatMap_def]
    exact (List.sublist_flatten_of_mem (List.mem_map_of_mem (mem_values_of_get? there))).count_le b
  induction table with
  | nil => simp at found
  | cons entry rest ih =>
    obtain ⟨name, value⟩ := entry
    have counted : ((values ((name, value) :: rest)).flatMap f).count b =
        (f value).count b + ((values rest).flatMap f).count b := by
      simp [values]
    rw [counted]
    simp only [get?] at found found'
    by_cases here : name = key
    · have there : name ≠ other := here ▸ differ
      simp only [here, if_true, Option.some.injEq] at found
      simp only [there, if_false] at found'
      have := one found'
      subst found
      omega
    · simp only [here, if_false] at found
      by_cases there : name = other
      · simp only [there, if_true, Option.some.injEq] at found'
        have := one found
        subst found'
        omega
      · simp only [there, if_false] at found'
        have := ih found found'
        omega

theorem two_le_count [DecidableEq α] {table : Table α} {key other : String} (differ : key ≠ other)
    {value : α} (found : table.get? key = some value) (found' : table.get? other = some value) :
    2 ≤ table.values.count value := by
  simpa using count_flatMap_pair (fun value => [value]) differ found found' value

@[simp] theorem keys_mapValues (f : α → β) (table : Table α) :
    (table.mapValues f).keys = table.keys := by
  simp [mapValues, keys]

theorem Sorted.mapValues {table : Table α} (sorted : table.Sorted) (f : α → β) :
    (table.mapValues f).Sorted := by
  change (table.mapValues f).keys.Pairwise (· < ·)
  rw [keys_mapValues]
  exact sorted

@[simp] theorem get?_mapValues (f : α → β) (table : Table α) (key : String) :
    (table.mapValues f).get? key = (table.get? key).map f := by
  induction table with
  | nil => rfl
  | cons entry rest ih =>
    obtain ⟨name, value⟩ := entry
    simp only [mapValues, List.map_cons, get?]
    split
    · rfl
    · exact ih

theorem mapValues_insert (f : α → β) (table : Table α) (key : String) (value : α) :
    (table.insert key value).mapValues f = (table.mapValues f).insert key (f value) := by
  induction table with
  | nil => rfl
  | cons entry rest ih =>
    obtain ⟨name, old⟩ := entry
    simp only [insert, mapValues, List.map_cons]
    split
    · rfl
    · split
      · rfl
      · simpa [mapValues] using ih

theorem mapValues_erase (f : α → β) (table : Table α) (key : String) :
    (table.erase key).mapValues f = (table.mapValues f).erase key := by
  induction table with
  | nil => rfl
  | cons entry rest ih =>
    obtain ⟨name, old⟩ := entry
    simp only [erase, mapValues, List.map_cons]
    split
    · rfl
    · simpa [mapValues] using ih

theorem mapValues_congr {f g : α → β} {table : Table α}
    (same : ∀ value ∈ table.values, f value = g value) : table.mapValues f = table.mapValues g := by
  simp only [mapValues]
  apply List.map_congr_left
  intro entry member
  rw [same entry.2 (List.mem_map_of_mem member)]

theorem mem_values_insert_old {table : Table α} (key : String) (value : α) {old : α}
    (member : old ∈ table.values) :
    old ∈ (table.insert key value).values ∨ table.get? key = some old := by
  induction table with
  | nil => exact absurd member List.not_mem_nil
  | cons entry rest ih =>
    obtain ⟨name, first⟩ := entry
    simp only [values, List.map_cons, List.mem_cons] at member
    simp only [insert]
    split
    · exact .inl (List.mem_cons_of_mem value (List.mem_cons.mpr member))
    · split
      next same =>
        rcases member with here | later
        · exact .inr (by simp [get?, same, here])
        · exact .inl (List.mem_cons_of_mem value later)
      next other =>
        rcases member with here | later
        · exact .inl (by simp [values, here])
        · refine (ih later).imp (fun kept => ?_) fun found => ?_
          · exact List.mem_cons_of_mem first kept
          · simpa [get?, Ne.symm other] using found

theorem mem_values_erase_old {table : Table α} (key : String) {old : α}
    (member : old ∈ table.values) :
    old ∈ (table.erase key).values ∨ table.get? key = some old := by
  induction table with
  | nil => exact absurd member List.not_mem_nil
  | cons entry rest ih =>
    obtain ⟨name, first⟩ := entry
    simp only [values, List.map_cons, List.mem_cons] at member
    simp only [erase]
    split
    next same =>
      rcases member with here | later
      · exact .inr (by simp [get?, same, here])
      · exact .inl later
    next other =>
      rcases member with here | later
      · exact .inl (by simp [values, here])
      · refine (ih later).imp (fun kept => ?_) fun found => ?_
        · exact List.mem_cons_of_mem first kept
        · simpa [get?, other] using found

theorem count_values_le_erase [DecidableEq α] (table : Table α) (key : String) (value : α) :
    table.values.count value ≤ (table.erase key).values.count value + 1 := by
  induction table with
  | nil => simp [values]
  | cons entry rest ih =>
    obtain ⟨name, first⟩ := entry
    simp only [erase]
    split
    · simp only [values, List.map_cons, List.count_cons]
      split <;> omega
    · simp only [values, List.map_cons, List.count_cons] at ih ⊢
      omega

theorem count_flatMap_insert [DecidableEq β] (f : α → List β) {table : Table α} {key : String}
    {old : α} (found : table.get? key = some old) (value : α) (b : β) :
    (table.values.flatMap f).count b + (f value).count b ≤
      ((table.insert key value).values.flatMap f).count b + (f old).count b := by
  induction table with
  | nil => simp at found
  | cons entry rest ih =>
    obtain ⟨name, first⟩ := entry
    simp only [insert]
    split
    · simp only [values, List.map_cons, List.flatMap_cons, List.count_append]
      omega
    · split
      next same =>
        have here : first = old := by simpa [get?, same] using found
        simp only [values, List.map_cons, List.flatMap_cons, List.count_append, here]
        omega
      next other =>
        have later := ih (by simpa [get?, Ne.symm other] using found)
        simp only [values, List.map_cons, List.flatMap_cons, List.count_append] at later ⊢
        omega

-- One value less of what was under the key, one more of what is now.
theorem count_insert [DecidableEq α] {table : Table α} (sorted : table.Sorted) {key : String}
    {old : α} (found : table.get? key = some old) (value other : α) :
    (table.insert key value).values.count other + [old].count other =
      table.values.count other + [value].count other := by
  have given := count_flatMap_insert (fun value => [value]) found value other
  have taken := count_flatMap_insert (fun value => [value]) (table.get?_insert_self key value) old
    other
  rw [insert_insert_self sorted, insert_of_get? sorted found] at taken
  simp only [List.flatMap_singleton'] at given taken
  omega

end Bayeux.Table
