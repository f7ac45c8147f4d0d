import Bayeux.Proofs.Table
import Bayeux.Settings.Load

set_option autoImplicit false

namespace Bayeux

namespace RawSetting

variable {σ τ : Type} {parts : List (SettingPart σ)} {pathOf : String → String}
  {entries : Table RawSetting} {group result : σ} {name : String} {part : SettingPart σ}
  {read : String → RawSetting → Except SettingsError τ} {set : τ → σ → σ} {field : σ → τ}
  {o : Option τ}

namespace SettingPart

def of (name : String) (read : String → RawSetting → Except SettingsError τ) (set : τ → σ → σ) :
    SettingPart σ :=
  { name
    read := fun key raw => do
      let v ← read key raw
      return set v }

def Sets (part : SettingPart σ) (field : σ → τ)
    (read : String → RawSetting → Except SettingsError τ) : Prop :=
  ∀ key raw change, part.read key raw = .ok change →
    ∃ v, read key raw = .ok v ∧ ∀ group, field (change group) = v

def Keeps (part : SettingPart σ) (field : σ → τ) : Prop :=
  ∀ key raw change, part.read key raw = .ok change → ∀ group, field (change group) = field group

@[simp] theorem of_name : (of name read set).name = name := rfl

theorem of_read_ok_iff {key : String} {raw : RawSetting} {change : σ → σ} :
    (of name read set).read key raw = .ok change ↔ ∃ v, read key raw = .ok v ∧ change = set v := by
  simp only [of]
  cases given : read key raw with
  | error e => simp [bind, Except.bind]
  | ok v => simp [bind, Except.bind, pure, Except.pure, eq_comm]

theorem of_read_error {key : String} {raw : RawSetting} {e : SettingsError}
    (refused : read key raw = .error e) : (of name read set).read key raw = .error e := by
  simp [of, refused, bind, Except.bind]

theorem of_sets (sets : ∀ v group, field (set v group) = v) :
    (of name read set).Sets field read := by
  intro key raw change given
  obtain ⟨v, ok, rfl⟩ := of_read_ok_iff.mp given
  exact ⟨v, ok, sets v⟩

theorem of_keeps {ρ : Type} {field : σ → ρ} (keeps : ∀ v group, field (set v group) = field group) :
    (of name read set).Keeps field := by
  intro key raw change given
  obtain ⟨v, -, rfl⟩ := of_read_ok_iff.mp given
  exact keeps v

end SettingPart

def SettingPart.Readable (part : SettingPart σ) (pathOf : String → String)
    (entries : Table RawSetting) : Prop :=
  ∀ setting, entries.get? part.name = some setting →
    ∃ change, part.read (pathOf part.name) setting = .ok change

theorem part_of_find (here : parts.find? (·.name == name) = some part) :
    part ∈ parts ∧ part.name = name :=
  ⟨List.mem_of_find?_eq_some here, by simpa using List.find?_some here⟩

theorem readNamed_ok (sorted : entries.Sorted) (readable : ∀ part ∈ parts, part.Readable pathOf entries)
    (group : σ) : ∃ result, readNamed parts pathOf entries group = .ok result := by
  have each : ∀ name setting part, (name, setting) ∈ entries →
      parts.find? (·.name == name) = some part →
        ∃ change, part.read (pathOf name) setting = .ok change := by
    intro name setting part member here
    obtain ⟨own, rfl⟩ := part_of_find here
    exact readable part own setting (Table.get?_of_mem sorted member)
  clear readable sorted
  induction entries generalizing group with
  | nil => exact ⟨group, rfl⟩
  | cons entry rest ih =>
    obtain ⟨name, setting⟩ := entry
    have later := fun group => ih group fun name setting part member =>
      each name setting part (List.mem_cons_of_mem _ member)
    simp only [readNamed]
    split
    · exact later group
    next part here =>
      obtain ⟨change, given⟩ := each name setting part List.mem_cons_self here
      simp only [given]
      exact later (change group)

theorem readNamed_error {setting : RawSetting} {e : SettingsError}
    (sorted : entries.Sorted) (there : entries.get? name = some setting)
    (own : parts.find? (·.name == name) = some part)
    (refused : part.read (pathOf name) setting = .error e)
    (readable : ∀ part ∈ parts, part.name ≠ name → part.Readable pathOf entries) (group : σ) :
    readNamed parts pathOf entries group = .error e := by
  have each : ∀ other setting part, (other, setting) ∈ entries → other ≠ name →
      parts.find? (·.name == other) = some part →
        ∃ change, part.read (pathOf other) setting = .ok change := by
    intro other setting part member differ here
    obtain ⟨own, rfl⟩ := part_of_find here
    exact readable part own differ setting (Table.get?_of_mem sorted member)
  clear readable
  induction entries generalizing group with
  | nil => simp at there
  | cons entry rest ih =>
    obtain ⟨first, value⟩ := entry
    by_cases same : first = name
    · subst same
      obtain rfl : value = setting := by simpa [Table.get?] using there
      simp only [readNamed, own, refused]
    · have later := fun group => ih (Table.sorted_cons.mp sorted).2
        (by simpa [Table.get?, same] using there) group
        fun other setting part member => each other setting part (List.mem_cons_of_mem _ member)
      simp only [readNamed]
      split
      · exact later group
      next part here =>
        obtain ⟨change, given⟩ := each first value part List.mem_cons_self same here
        simp only [given]
        exact later (change group)

theorem readNamed_field
    (own : parts.find? (·.name == name) = some part) (sets : part.Sets field read)
    (others : ∀ other ∈ parts, other.name ≠ name → other.Keeps field) (sorted : entries.Sorted)
    (done : readNamed parts pathOf entries group = .ok result) :
    (entries.get? name).elim (field result = field group)
      fun setting => read (pathOf name) setting = .ok (field result) := by
  induction entries generalizing group with
  | nil =>
    obtain rfl : group = result := by simpa [readNamed] using done
    rfl
  | cons entry rest ih =>
    obtain ⟨first, value⟩ := entry
    obtain ⟨below, sorted'⟩ := Table.sorted_cons.mp sorted
    by_cases same : first = name
    · subst same
      have missing : Table.get? rest first = none := Table.get?_eq_none_of_lt below
      simp only [readNamed, own] at done
      split at done
      next change given =>
        obtain ⟨v, ok, set⟩ := sets _ _ _ given
        have kept := ih sorted' done
        rw [missing, Option.elim_none] at kept
        simp only [Table.get?, if_true, Option.elim_some, ok, kept, set]
      next => cases done
    · simp only [Table.get?, same, if_false]
      simp only [readNamed] at done
      split at done
      · exact ih sorted' done
      next part here =>
        split at done
        next change given =>
          obtain ⟨member, rfl⟩ := part_of_find here
          have later := ih sorted' done
          rwa [others part member same _ _ _ given] at later
        next => cases done

theorem readable_of (reads : (entries.get? name).map (read (pathOf name)) = o.map .ok) :
    (SettingPart.of name read set).Readable pathOf entries := by
  intro setting there
  simp only [SettingPart.of] at there
  rw [there] at reads
  obtain ⟨v, -, same⟩ := Option.map_eq_some_iff.mp reads.symm
  exact ⟨set v, SettingPart.of_read_ok_iff.mpr ⟨v, same.symm, rfl⟩⟩

theorem readNamed_getD
    (own : parts.find? (·.name == name) = some (.of name read set))
    (sets : ∀ v group, field (set v group) = v)
    (others : ∀ other ∈ parts, other.name ≠ name → other.Keeps field) (sorted : entries.Sorted)
    (reads : (entries.get? name).map (read (pathOf name)) = o.map .ok)
    (done : readNamed parts pathOf entries group = .ok result) :
    field result = o.getD (field group) := by
  have kept := readNamed_field own (SettingPart.of_sets sets) others sorted done
  cases there : entries.get? name with
  | none =>
    rw [there] at kept reads
    obtain rfl : o = none := by simpa using reads.symm
    exact kept
  | some setting =>
    rw [there, Option.elim_some] at kept
    rw [there] at reads
    obtain ⟨v, rfl, same⟩ := Option.map_eq_some_iff.mp reads.symm
    simpa [kept] using same.symm

end RawSetting

end Bayeux
