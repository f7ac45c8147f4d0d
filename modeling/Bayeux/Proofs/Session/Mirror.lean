import Bayeux.Proofs.Session.Changes
import Bayeux.Proofs.Session.Holders

set_option autoImplicit false

namespace Bayeux.Session

variable {s : Session} {ref : Ref}

theorem given?_of_argument {argument : Argument} {t : Session} {ref : Ref}
    (given : s.argument argument = some (t, ref)) : s.given? argument = some (t.value ref) := by
  cases argument with
  | handle name =>
    obtain ⟨found, here, same⟩ := Option.map_eq_some_iff.mp given
    cases same
    simp [given?, here]
  | fresh v =>
    cases given
    exact congrArg some (s.store.value_alloc_self v).symm

theorem given?_eq_none {argument : Argument} (refused : s.argument argument = none) :
    s.given? argument = none := by
  cases argument with
  | handle name =>
    have missing : s.handles.get? name = none := by simpa [Session.argument] using refused
    simp [given?, missing]
  | fresh v => simp [Session.argument] at refused

theorem both_own (ref : Ref) {message : Message} (listed : message ∈ s.messages.values)
    {e : Envelope} (live : e ∈ s.liveEnvelopes) :
    message.fields.values.count ref + (e.owned s.store).count ref ≤ s.owners.count ref := by
  have first := count_le_flatMap listed (·.fields.values) ref
  have second := count_le_flatMap live (·.owned s.store) ref
  simp only [owners, List.count_append]
  omega

theorem FieldChange.kept {fields fields' : Fields} {key : String} {t : Session} {v : Option Json}
    (change : s.FieldChange fields key t fields' v) (has : s.store.HasValue ref)
    (shared : fields.get? key = some ref → 2 ≤ s.owners.count ref) : t.value ref = s.value ref := by
  refine (change.advance.values ref has).resolve_right ?_
  rintro ⟨⟨exclusive, held⟩, -⟩
  rw [not_exclusive_of_count (shared (held has))] at exclusive
  exact Bool.false_ne_true exclusive

theorem FieldChange.get?_valuesOf {fields fields' : Fields} {key : String} {t : Session}
    {v : Option Json} (change : s.FieldChange fields key t fields' v)
    (kept : ∀ other ref, other ≠ key → fields.get? other = some ref → t.value ref = s.value ref)
    (name : String) : (t.store.valuesOf fields').get? name =
      if name = key then v else (s.store.valuesOf fields).get? name := by
  simp only [Store.valuesOf, Table.get?_mapValues]
  by_cases same : name = key
  · rw [if_pos same, same]
    exact change.result
  · rw [if_neg same, change.others name same]
    cases found : fields.get? name with
    | none => rfl
    | some ref => exact congrArg some (kept name ref same found)

theorem FieldChange.ext_values {fields fields' : Fields} {t : Session} {create : Bool}
    {edits : List MapEdit} (ok : FieldsOk s.store fields)
    (change : s.FieldChange fields FieldName.ext t fields'
      (Change.ext? (s.store.valuesOf fields) create edits))
    (kept : ∀ other ref, other ≠ FieldName.ext → fields.get? other = some ref →
      t.value ref = s.value ref) :
    t.store.valuesOf fields' = (Change.ext create edits).apply (s.store.valuesOf fields) := by
  have sorted : (s.store.valuesOf fields).Sorted := ok.sorted.mapValues _
  refine Table.Sorted.ext (change.ok.sorted.mapValues _) (Change.sorted_apply sorted _) fun name => ?_
  rw [change.get?_valuesOf kept name]
  cases made : Change.ext? (s.store.valuesOf fields) create edits with
  | some v => simp only [Change.apply, made, Table.get?_insert]
  | none =>
    have missing : (s.store.valuesOf fields).get? FieldName.ext = none := by
      simp only [Change.ext?, Option.map_eq_none_iff, Json.withMap] at made
      split at made
      · simp at made
      · exact made
    simp only [Change.apply, made]
    split
    next same => rw [same, missing]
    next => rfl

def HoldsMessage (s : Session) (name : String) (members : JsonMap) : Prop :=
  ∃ message, s.messages.get? name = some message ∧ s.store.valuesOf message.fields = members

theorem step_editMessage {name : String} {message : Message}
    (found : s.messages.get? name = some message) (edit : Edit) (into : Option String) :
    s.step (.editMessage name edit into) = s.editMessage name message edit into := by
  simp [Session.step, withMessage, found]

@[simp] theorem messages_keep (into : Option String) (ref : Option Ref) :
    (s.keep into ref).messages = s.messages := by
  unfold keep
  split <;> rfl

@[simp] theorem envelopes_keep (into : Option String) (ref : Option Ref) :
    (s.keep into ref).envelopes = s.envelopes := by
  unfold keep
  split <;> rfl

@[simp] theorem store_keep (into : Option String) (ref : Option Ref) :
    (s.keep into ref).store = s.store := by
  unfold keep
  split <;> rfl

@[simp] theorem outcome?_give (into : Option String) (ref : Option Ref) :
    (s.give into ref).2.outcome? = some (.previous (ref.map s.value)) := by
  cases ref <;> rfl

theorem valuesOf_insert (store : Store) (fields : Fields) (key : String) (ref : Ref) :
    store.valuesOf (fields.insert key ref) =
      (store.valuesOf fields).insert key (store.value ref) :=
  Table.mapValues_insert _ _ _ _

theorem get?_valuesOf (fields : Fields) (key : String) :
    (s.store.valuesOf fields).get? key = (fields.get? key).map s.value :=
  Table.get?_mapValues _ _ _

theorem valuesOf_quiet {fields : Fields} (ok : FieldsOk s.store fields) {store : Store}
    (step : Store.Advance .quiet s.store store) : store.valuesOf fields = s.store.valuesOf fields :=
  Table.mapValues_congr fun ref member => step.value_quiet (ok.listed ref member)

theorem change?_given {argument : Argument} {make : Json → Change} {change : Change}
    (made : (s.given? argument).map make = some change) :
    ∃ t ref, s.argument argument = some (t, ref) ∧ change = make (t.value ref) := by
  cases given : s.argument argument with
  | none => simp [given?_eq_none given] at made
  | some result =>
    obtain ⟨t, ref⟩ := result
    rw [given?_of_argument given, Option.map_some, Option.some.injEq] at made
    exact ⟨t, ref, rfl, made.symm⟩

theorem HoldsMessage.edit (wf : s.WellFormed) {name : String} {members : JsonMap}
    (holds : s.HoldsMessage name members) {edit : Edit} {change : Change}
    (made : s.change? edit = some change) (into : Option String) :
    (s.step (.editMessage name edit into)).1.HoldsMessage name (change.apply members) ∧
      (s.step (.editMessage name edit into)).2.outcome? = some (change.outcome members) := by
  obtain ⟨message, found, rfl⟩ := holds
  have listed := Table.mem_values_of_get? found
  have ok := wf.messages message listed
  rw [step_editMessage found]
  cases edit with
  | put key argument =>
    obtain ⟨t, ref, given, rfl⟩ := change?_given made
    obtain ⟨⟨store, rfl, step⟩, -⟩ := argument_sound wf given
    have same := valuesOf_quiet ok step
    simp only [editMessage, given, outcome?_give]
    refine ⟨⟨⟨message.fields.insert key ref⟩, ?_, ?_⟩, ?_⟩
    · simp [give, setMessage, Message.put]
    · simp only [give, store_keep, setMessage, valuesOf_insert, same]
      rfl
    · rw [Change.outcome, ← same]
      exact congrArg (fun old => some (Outcome.previous old)) (Table.get?_mapValues _ _ key).symm
  | assign key argument =>
    obtain ⟨t, ref, given, rfl⟩ := change?_given made
    obtain ⟨⟨store, rfl, step⟩, -⟩ := argument_sound wf given
    simp only [editMessage, given]
    refine ⟨⟨⟨message.fields.insert key ref⟩, ?_, ?_⟩, rfl⟩
    · simp [setMessage, Message.put]
    · simp only [setMessage, valuesOf_insert, valuesOf_quiet ok step]
      rfl
  | remove key =>
    cases made
    simp only [editMessage, outcome?_give]
    refine ⟨⟨⟨message.fields.erase key⟩, ?_, ?_⟩, ?_⟩
    · simp [give, setMessage, Message.remove]
    · simp only [give, store_keep, setMessage]
      exact Table.mapValues_erase _ _ _
    · rw [Change.outcome, get?_valuesOf]
      rfl
  | ext create edits =>
    cases made
    obtain ⟨changed, edited⟩ := editExt_correct wf ok create edits
    simp only [editMessage]
    generalize s.editExt message.fields create edits = result at changed edited
    obtain ⟨t, fields, members⟩ := result
    rw [← get?_valuesOf] at changed edited
    have kept (other : String) (ref : Ref) (differ : other ≠ FieldName.ext)
        (here : message.fields.get? other = some ref) : t.value ref = s.value ref := by
      refine changed.kept (ok.get? here) fun there => ?_
      have twice := Table.two_le_count differ here there
      have held := count_le_flatMap listed (·.fields.values) ref
      simp only [owners, List.count_append]
      omega
    have values := changed.ext_values ok kept
    exact ⟨⟨⟨fields⟩, Table.get?_insert_self _ _ _, values⟩,
      congrArg (fun members => some (Outcome.edited members)) edited⟩

-- The values of an open envelope: the payload is kept apart from the fields, and not if it is null.
structure OpenEnvelope (s : Session) (settings : Factory) (members : JsonMap) (e : Envelope) :
    Prop where
  live : e ∈ s.liveEnvelopes
  unfrozen : e.snapshot = none
  settings : (⟨e.threshold, e.ignoreNull, e.codec⟩ : Factory) = settings
  fields : s.store.valuesOf e.fields = members.erase FieldName.data
  payload : e.livePayload.map s.value = shownField FieldName.data (members.get? FieldName.data)

structure HoldsEnvelope (s : Session) (name : String) (chain : List Envelope) (settings : Factory)
    (members : JsonMap) (e : Envelope) : Prop extends s.OpenEnvelope settings members e where
  found : s.envelopes.get? name = some ⟨e, chain⟩
  unshared : s.isShared e = false
  live := live_head found

namespace OpenEnvelope

variable {settings : Factory} {members : JsonMap} {e : Envelope}

theorem owned (shows : s.OpenEnvelope settings members e) :
    e.owned s.store = e.fields.values ++ e.payload.owned := by
  simp [Envelope.owned, shows.unfrozen]

theorem livePayload_quiet (shows : s.OpenEnvelope settings members e) (wf : s.WellFormed)
    {store : Store} (step : Store.Advance .quiet s.store store) :
    e.livePayload.map store.value = shownField FieldName.data (members.get? FieldName.data) := by
  rw [← shows.payload]
  cases found : e.livePayload with
  | none => rfl
  | some ref =>
    have has : s.store.HasValue ref := (wf.envelopes e shows.live).payload ref
      (List.mem_append_left _ (Envelope.livePayload_owned found))
    exact congrArg some (step.value_quiet has)

theorem get?_field (shows : s.OpenEnvelope settings members e) {key : String}
    (other : key ≠ FieldName.data) : (e.fields.get? key).map s.value = members.get? key := by
  rw [← get?_valuesOf, shows.fields, Table.get?_erase_of_ne _ _ _ other]

theorem of_core {t : Session} {after : Envelope} (shows : s.OpenEnvelope settings members e)
    (live : after ∈ t.liveEnvelopes) (store : t.store = s.store) (core : after.core = e.core) :
    t.OpenEnvelope settings members after := by
  obtain ⟨fields, payload, snapshot, threshold, ignoreNull, codec⟩ :=
    (Envelope.core_eq_iff _ _).mp core
  have values : t.value = s.value := congrArg Store.value store
  exact
    { live
      unfrozen := snapshot.trans shows.unfrozen
      settings := by rw [threshold, ignoreNull, codec, shows.settings]
      fields := by rw [store, fields, shows.fields]
      payload := by
        rw [Envelope.livePayload, payload, values]
        exact shows.payload }

end OpenEnvelope

namespace HoldsEnvelope

variable {name : String} {chain : List Envelope} {settings : Factory} {members : JsonMap}
  {e : Envelope}

theorem step_edit (holds : s.HoldsEnvelope name chain settings members e) (edit : Edit)
    (into : Option String) :
    s.step (.editEnvelope name edit into) = s.editEnvelope name ⟨e, chain⟩ edit into := by
  rw [Session.step, withWritable_found holds.found holds.unshared]

theorem isShared_setEnvelope (holds : s.HoldsEnvelope name chain settings members e) {store : Store}
    {after : Envelope} (number : after.id = e.id) :
    ({ s with store }.setEnvelope name ⟨e, chain⟩ after).isShared after = false := by
  refine isShared_eq_false_iff.mpr fun linked member => number ▸ ?_
  rcases Table.mem_values_insert member with rfl | old
  · exact fun _ => not_in_chain holds.unshared holds.found
  · exact isShared_eq_false_iff.mp holds.unshared linked old

theorem written (holds : s.HoldsEnvelope name chain settings members e) {store : Store}
    {fields : Fields} {payload : Slot} {members' : JsonMap} {t : Session}
    (store_eq : t.store = store)
    (envelopes : t.envelopes = ({ s with store }.setEnvelope name ⟨e, chain⟩
      { e with fields, payload }).envelopes)
    (values : store.valuesOf fields = members'.erase FieldName.data)
    (shown : ({ e with payload } : Envelope).livePayload.map store.value =
      shownField FieldName.data (members'.get? FieldName.data)) :
    t.HoldsEnvelope name chain settings members' { e with fields, payload } :=
  { found := by
      rw [envelopes]
      exact Table.get?_insert_self _ _ _
    unshared := by
      rw [isShared, envelopes]
      exact holds.isShared_setEnvelope rfl
    unfrozen := holds.unfrozen
    settings := holds.settings
    fields := store_eq ▸ values
    payload := by
      subst store_eq
      exact shown }

theorem put (holds : s.HoldsEnvelope name chain settings members e) (wf : s.WellFormed)
    (sorted : members.Sorted) {store : Store} (step : Store.Advance .quiet s.store store)
    (key : String) (ref : Ref) :
    ∃ after old, e.put store key ref = .ok (after, old) ∧
      old.map store.value = shownField key (members.get? key) ∧
      ∀ t : Session, t.store = store →
        t.envelopes = ({ s with store }.setEnvelope name ⟨e, chain⟩ after).envelopes →
        t.HoldsEnvelope name chain settings (members.insert key (store.value ref)) after := by
  have ok := wf.envelopes e holds.live
  have open_ : e.isFrozen = false := (e.isFrozen_eq_false_iff).mpr holds.unfrozen
  have fields : store.valuesOf e.fields = members.erase FieldName.data :=
    (valuesOf_quiet ok.fields step).trans holds.fields
  have payload := holds.livePayload_quiet wf step
  simp only [Envelope.put, open_, Bool.false_eq_true, if_false]
  by_cases data : key = FieldName.data
  · subst data
    simp only [if_true]
    refine ⟨_, _, rfl, payload, fun t store_eq envelopes => ?_⟩
    apply holds.written store_eq envelopes
    · rw [fields, Table.erase_insert_self sorted]
    · rw [Table.get?_insert_self, Envelope.livePayload, Store.slotOf]
      cases null : (store.value ref).isNull <;>
        simp [shownField, Slot.upgrade, null, Option.filter]
  · simp only [data, if_false]
    refine ⟨_, _, rfl, ?_, fun t store_eq envelopes => ?_⟩
    · have old : (e.fields.get? key).map store.value = (store.valuesOf e.fields).get? key :=
        (Table.get?_mapValues _ _ key).symm
      rw [shownField, if_neg data, old, fields, Table.get?_erase_of_ne _ _ _ data]
    · apply holds.written store_eq envelopes
      · rw [valuesOf_insert, fields, Table.erase_insert_of_ne sorted data]
      · rw [Table.get?_insert_of_ne _ _ _ _ (Ne.symm data)]
        exact payload

theorem remove (holds : s.HoldsEnvelope name chain settings members e) (sorted : members.Sorted)
    (key : String) :
    ∃ after old, e.remove key = .ok (after, old) ∧
      old.map s.value = shownField key (members.get? key) ∧
      ∀ t : Session, t.store = s.store →
        t.envelopes = (s.setEnvelope name ⟨e, chain⟩ after).envelopes →
        t.HoldsEnvelope name chain settings (members.erase key) after := by
  have open_ : e.isFrozen = false := (e.isFrozen_eq_false_iff).mpr holds.unfrozen
  simp only [Envelope.remove, open_, Bool.false_eq_true, if_false]
  by_cases data : key = FieldName.data
  · subst data
    simp only [if_true]
    refine ⟨_, _, rfl, holds.payload, fun t store_eq envelopes => ?_⟩
    apply holds.written store_eq envelopes
    · rw [holds.fields, Table.erase_erase_self sorted]
    · rw [Table.get?_erase_self sorted]
      rfl
  · simp only [data, if_false]
    refine ⟨_, _, rfl, ?_, fun t store_eq envelopes => ?_⟩
    · rw [shownField, if_neg data]
      exact holds.get?_field data
    · apply holds.written store_eq envelopes
      · rw [Table.erase_comm sorted, ← holds.fields]
        exact Table.mapValues_erase _ _ _
      · rw [Table.get?_erase_of_ne _ _ _ (Ne.symm data)]
        exact holds.payload

theorem ext (holds : s.HoldsEnvelope name chain settings members e) (wf : s.WellFormed)
    (sorted : members.Sorted) (create : Bool) (edits : List MapEdit) :
    let result := s.editExt e.fields create edits
    (result.1.setEnvelope name ⟨e, chain⟩ { e with fields := result.2.1 }).HoldsEnvelope name chain
        settings ((Change.ext create edits).apply members) { e with fields := result.2.1 } ∧
      Outcome.edited result.2.2 = (Change.ext create edits).outcome members := by
  have ok := wf.envelopes e holds.live
  obtain ⟨changed, edited⟩ := editExt_correct wf ok.fields create edits
  generalize s.editExt e.fields create edits = result at changed edited
  obtain ⟨t, fields, answer⟩ := result
  dsimp only at changed edited ⊢
  rw [← get?_valuesOf] at changed edited
  have held (ref : Ref) :
      e.fields.values.count ref + e.payload.owned.count ref ≤ s.owners.count ref := by
    have := owned_le_owners ref holds.live
    rwa [holds.owned, List.count_append] at this
  have kept (other : String) (ref : Ref) (differ : other ≠ FieldName.ext)
      (here : e.fields.get? other = some ref) : t.value ref = s.value ref := by
    refine changed.kept (ok.fields.get? here) fun there => ?_
    have twice := Table.two_le_count differ here there
    have := held ref
    omega
  have keptPayload (ref : Ref) (owned : ref ∈ e.payload.owned) : t.value ref = s.value ref := by
    refine changed.kept (ok.payload ref (List.mem_append_left _ owned)) fun there => ?_
    have field := List.count_pos_iff.mpr (Table.mem_values_of_get? there)
    have payload := List.count_pos_iff.mpr owned
    have := held ref
    omega
  have values := changed.ext_values ok.fields kept
  rw [holds.fields, Change.apply_ext_erase sorted] at values
  rw [holds.fields] at edited
  have envelopes : (t.setEnvelope name ⟨e, chain⟩ { e with fields }).envelopes =
      ({ s with store := t.store }.setEnvelope name ⟨e, chain⟩ { e with fields }).envelopes := by
    rw [changed.only_store]
  refine ⟨holds.written rfl envelopes values ?_, ?_⟩
  · rw [Change.get?_apply_ext_of_ne (by decide), ← holds.payload]
    cases found : e.livePayload with
    | none => rfl
    | some ref => exact congrArg some (keptPayload ref (Envelope.livePayload_owned found))
  · rw [Table.get?_erase_of_ne _ _ _ (by decide)] at edited
    exact congrArg Outcome.edited edited

theorem edit (wf : s.WellFormed) (sorted : members.Sorted)
    (holds : s.HoldsEnvelope name chain settings members e) {edit : Edit} {change : Change}
    (made : s.change? edit = some change) (into : Option String) :
    (∃ after, (s.step (.editEnvelope name edit into)).1.HoldsEnvelope name chain settings
      (change.apply members) after) ∧
      (s.step (.editEnvelope name edit into)).2.outcome? =
        some (change.shown (change.outcome members)) := by
  have open_ : e.isFrozen = false := (e.isFrozen_eq_false_iff).mpr holds.unfrozen
  rw [holds.step_edit]
  simp only [editEnvelope, open_, Bool.false_eq_true, if_false]
  cases edit with
  | put key argument =>
    obtain ⟨t, ref, given, rfl⟩ := change?_given made
    obtain ⟨⟨store, rfl, step⟩, -⟩ := argument_sound wf given
    obtain ⟨after, old, put, previous, written⟩ := holds.put wf sorted step key ref
    simp only [given, put, outcome?_give]
    refine ⟨⟨after, written _ ?_ ?_⟩, congrArg (fun old => some (Outcome.previous old)) previous⟩
    · simp [give, setEnvelope]
    · simp [give]
  | assign key argument =>
    obtain ⟨t, ref, given, rfl⟩ := change?_given made
    obtain ⟨⟨store, rfl, step⟩, -⟩ := argument_sound wf given
    obtain ⟨after, old, put, -, written⟩ := holds.put wf sorted step key ref
    simp only [given, put]
    exact ⟨⟨after, written _ rfl rfl⟩, rfl⟩
  | remove key =>
    cases made
    obtain ⟨after, old, removed, previous, written⟩ := holds.remove sorted key
    simp only [removed, outcome?_give]
    refine ⟨⟨after, written _ ?_ ?_⟩, congrArg (fun old => some (Outcome.previous old)) previous⟩
    · simp [give, setEnvelope]
    · simp [give]
  | ext create edits =>
    cases made
    obtain ⟨edited, outcome⟩ := holds.ext wf sorted create edits
    exact ⟨⟨_, edited⟩, congrArg some outcome⟩

end HoldsEnvelope

end Bayeux.Session
