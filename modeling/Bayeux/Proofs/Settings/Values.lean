import Bayeux.Proofs.Settings.Layers
import Bayeux.Settings.Load

set_option autoImplicit false

namespace Bayeux

namespace RawSetting

variable {α : Type} {read : RawSetting → Except SettingsError α} {raw below : RawSetting}
  {key : String} {values : List RawSetting} {o : Option α}

/-- What values for a setting are read as: each of them can be read, and the last one counts. -/
inductive Reads (read : RawSetting → Except SettingsError α) :
    List RawSetting → Option α → Prop
  | nothing : Reads read [] none
  | more {values : List RawSetting} {o : Option α} {raw : RawSetting} {a : α}
      (reads : Reads read values o) (ok : read raw = .ok a) : Reads read (values ++ [raw]) (some a)

theorem Reads.append {first second : List RawSetting} {low high : Option α}
    (reads : Reads read first low) (reads' : Reads read second high) :
    Reads read (first ++ second) (high <|> low) := by
  induction reads' with
  | nothing => simpa using reads
  | more _ ok ih =>
    rw [← List.append_assoc]
    exact .more ih ok

theorem reads_of_map {answers : List α} (all : values.map read = answers.map .ok) :
    Reads read values answers.getLast? := by
  induction values generalizing answers with
  | nil =>
    obtain rfl : answers = [] := by simpa using all.symm
    exact .nothing
  | cons raw rest ih =>
    obtain ⟨a, more, rfl, ok, same⟩ := List.map_eq_cons_iff.mp all.symm
    have first : Reads read ([] ++ [raw]) (some a) := .more .nothing ok.symm
    have reads := first.append (ih same.symm)
    cases last : more.getLast? <;> simpa [List.getLast?_cons, last] using reads

theorem stack_append_singleton (values : List RawSetting) (raw : RawSetting) :
    stack none (values ++ [raw]) = some (raw.above ((stack none values).getD .missing)) := by
  rw [stack_append]
  rfl

theorem Reads.stack (whole : ∀ raw a, read raw = .ok a → raw.isTable = false)
    (reads : Reads read values o) : (stack none values).map read = o.map .ok := by
  cases reads with
  | nothing => rfl
  | more _ ok => simp [stack_append_singleton, above_of_not_table (whole _ _ ok), ok]

theorem not_table_of_readString {s : String} (ok : raw.readString key = .ok s) :
    raw.isTable = false := by
  cases raw <;> first | rfl | cases ok

theorem not_table_of_readBool {b : Bool} (ok : raw.readBool key = .ok b) : raw.isTable = false := by
  cases raw <;> first | rfl | cases ok

theorem not_table_of_readSize {size : ByteSize} (ok : raw.readSize key = .ok size) :
    raw.isTable = false := by
  cases raw <;> first | rfl | cases ok

theorem not_table_of_readLevel {level : Log.Level} (ok : raw.readLevel key = .ok level) :
    raw.isTable = false := by
  cases raw <;> first | rfl | cases ok

def tablesOnTop (values : List RawSetting) : List RawSetting := values.reverse.takeWhile isTable

-- Tables with different keys come to be joined.
def Clash (values : List RawSetting) : Prop :=
  ∃ upper ∈ tablesOnTop values, ∃ lower ∈ tablesOnTop values,
    upper.entries.keys ≠ lower.entries.keys

instance : DecidablePred Clash := fun values =>
  inferInstanceAs (Decidable (∃ upper ∈ tablesOnTop values, ∃ lower ∈ tablesOnTop values,
    upper.entries.keys ≠ lower.entries.keys))

theorem tablesOnTop_append_singleton (values : List RawSetting) (raw : RawSetting) :
    tablesOnTop (values ++ [raw]) = if raw.isTable then raw :: tablesOnTop values else [] := by
  rw [tablesOnTop, List.reverse_append, List.reverse_singleton, List.singleton_append,
    List.takeWhile_cons, tablesOnTop]

def noDestination (key : String) : SettingsError :=
  .badValue
    "value of enum To should be represented by either string or table with exactly one key" key

theorem readDestination_of_two {entries : Table RawSetting} {source : Option String}
    (many : 2 ≤ entries.length) (key : String) :
    (RawSetting.table entries source).readDestination key = .error (noDestination key) := by
  match entries, many with
  | _ :: _ :: _, _ => rfl

theorem table_of_readDestination {d : Log.Destination} (ok : raw.readDestination key = .ok d)
    (table : raw.isTable) : ∃ name value source, raw = .table [(name, value)] source := by
  obtain ⟨entries, source, rfl⟩ := isTable_iff.mp table
  match entries with
  | [(name, value)] => exact ⟨name, value, source, rfl⟩
  | [] => cases ok
  | _ :: _ :: _ => cases ok

-- What tables of one key come to, over something that is no table.
inductive Joined : (tables : List RawSetting) → RawSetting → Prop
  | none {raw : RawSetting} (whole : raw.isTable = false) : Joined [] raw
  | alike {tables : List RawSetting} {name : String} {value : RawSetting} {source : Option String}
      (some : tables ≠ []) (all : ∀ table ∈ tables, table.entries.keys = [name]) :
      Joined tables (.table [(name, value)] source)
  | apart {tables : List RawSetting} {entries : Table RawSetting} {source : Option String}
      (many : 2 ≤ entries.length)
      (differ : ∃ upper ∈ tables, ∃ lower ∈ tables, upper.entries.keys ≠ lower.entries.keys) :
      Joined tables (.table entries source)

theorem Joined.above {tables : List RawSetting} {name : String} {value : RawSetting}
    {source : Option String} (joined : Joined tables below) :
    Joined (.table [(name, value)] source :: tables)
      ((RawSetting.table [(name, value)] source).above below) := by
  cases joined with
  | none whole =>
    obtain same : (RawSetting.table [(name, value)] source).above below =
        .table [(name, value.above .missing)] Option.none := by
      cases below <;> first | rfl | cases whole
    rw [same]
    exact .alike (List.cons_ne_nil _ _) (by simp [RawSetting.entries, Table.keys])
  | @alike _ first old _ some all =>
    simp only [RawSetting.above, entriesAbove]
    by_cases same : name = first
    · subst same
      simp only [Table.insert, String.lt_irrefl, if_false, if_true]
      refine .alike (List.cons_ne_nil _ _) fun table member => ?_
      rcases List.mem_cons.mp member with here | later
      · simp [here, RawSetting.entries, Table.keys]
      · exact all table later
    · obtain ⟨lower, there⟩ := List.exists_mem_of_ne_nil _ some
      refine .apart ?_ ⟨_, List.mem_cons_self, lower, List.mem_cons_of_mem _ there, ?_⟩
      · simp only [Table.insert, same, if_false]
        split <;> simp
      · rw [all lower there]
        simpa [RawSetting.entries, Table.keys] using same
  | apart many differ =>
    obtain ⟨upper, high, lower, low, differ⟩ := differ
    exact .apart (Nat.le_trans many (Table.length_le_insert _ _ _))
      ⟨upper, List.mem_cons_of_mem _ high, lower, List.mem_cons_of_mem _ low, differ⟩

theorem Reads.joined {o : Option Log.Destination} (reads : Reads (readDestination key) values o) :
    Joined (tablesOnTop values) ((RawSetting.stack none values).getD .missing) := by
  induction reads with
  | nothing => exact .none rfl
  | @more rest _ raw _ _ ok joined =>
    rw [tablesOnTop_append_singleton, stack_append_singleton, Option.getD_some]
    split
    next table =>
      obtain ⟨name, value, source, rfl⟩ := table_of_readDestination ok table
      exact joined.above
    next other =>
      have whole : raw.isTable = false := by simpa using other
      rw [above_of_not_table whole]
      exact .none whole

theorem Reads.stack_of_clash {o : Option Log.Destination}
    (reads : Reads (readDestination key) values o) (clash : Clash values) :
    (RawSetting.stack none values).map (readDestination key) = some (.error (noDestination key)) := by
  obtain ⟨upper, high, lower, low, differ⟩ := clash
  have joined := reads.joined
  generalize same : (RawSetting.stack none values).getD .missing = raw at joined
  generalize tablesOnTop values = tables at joined high low
  cases joined with
  | none => exact absurd high List.not_mem_nil
  | alike _ all => exact absurd ((all upper high).trans (all lower low).symm) differ
  | apart many =>
    cases there : RawSetting.stack none values with
    | none => simp [there] at same
    | some raw =>
      obtain rfl : raw = _ := by simpa [there] using same
      simp [readDestination_of_two many]

theorem Reads.stack_of_not_clash {o : Option Log.Destination}
    (reads : Reads (readDestination key) values o) (calm : ¬Clash values) :
    (RawSetting.stack none values).map (readDestination key) = o.map .ok := by
  have joined := reads.joined
  cases reads with
  | nothing => rfl
  | @more rest _ raw d _ ok =>
    rw [tablesOnTop_append_singleton] at joined
    rw [stack_append_singleton] at joined ⊢
    simp only [Option.getD_some, Option.map_some, Option.some.injEq] at joined ⊢
    cases form : raw.isTable with
    | false => rw [above_of_not_table form, ok]
    | true =>
      obtain ⟨name, value, source, rfl⟩ := table_of_readDestination ok form
      generalize (RawSetting.table [(name, value)] source).above
        ((RawSetting.stack none rest).getD .missing) = merged at joined
      rw [if_pos form] at joined
      cases joined with
      | alike _ all =>
        have same := all _ List.mem_cons_self
        obtain rfl : name = _ := by simpa [RawSetting.entries, Table.keys] using same
        exact ok
      | apart _ differ =>
        refine absurd ?_ calm
        rw [Clash, tablesOnTop_append_singleton, if_pos form]
        exact differ

end RawSetting

end Bayeux
