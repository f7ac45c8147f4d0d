import Bayeux.Proofs.Session.Shifts

set_option autoImplicit false

namespace Bayeux

-- The handle that a step drops, or that it may give to another value.
def Step.handle? : Step → Option String
  | .newValue name _ | .dropHandle name => some name
  | .editMessage _ (.put _ _) into | .editMessage _ (.remove _) into
  | .editEnvelope _ (.put _ _) into | .editEnvelope _ (.remove _) into
  | .getField _ _ into | .readField _ _ _ into | .readMap _ _ _ into => into
  | _ => none

-- The message that a step drops or replaces as a whole.
def Step.message? : Step → Option String
  | .newMessage name _ | .parseMessage name _ | .takeFields name | .cloneMessage _ name
  | .dropMessage name => some name
  | _ => none

-- The envelope that a step drops or replaces, with all that are associated.
def Step.envelope? : Step → Option String
  | .createEnvelope _ name | .wrapMessage _ _ name | .freezeMessage _ _ name | .newEnvelope name _ _ _
  | .envelopeOf name _ _ _ _ | .copyEnvelope _ _ name | .dropEnvelope name | .associate name _ =>
    some name
  | _ => none

def Edit.key : Edit → String
  | .put key _ | .assign key _ | .remove key => key
  | .ext _ _ => FieldName.ext

namespace Envelope

-- What an envelope has under a key.
def heldAt (e : Envelope) (key : String) : Option Ref :=
  if key = FieldName.data then e.livePayload else e.fields.get? key

-- The second envelope may have something else than the first under the key, namely `ref`.
structure Reslots (store : Store) (e after : Envelope) (key : String) (ref : Option Ref) : Prop where
  fresh : ∀ other ∈ after.owned store, ref = some other ∨ other ∈ e.owned store
  dropped : ∀ other ∈ e.owned store, other ∈ after.owned store ∨ e.heldAt key = some other

variable {store : Store} {e : Envelope}

theorem mem_owned_open (unfrozen : e.snapshot = none) {ref : Ref} :
    ref ∈ e.owned store ↔ ref ∈ e.fields.values ∨ ref ∈ e.payload.owned := by
  simp [owned, unfrozen]

theorem count_owned_open (unfrozen : e.snapshot = none) (ref : Ref) :
    (e.owned store).count ref = e.fields.values.count ref + e.payload.owned.count ref := by
  simp [owned, unfrozen]

theorem livePayload_of_owned {ref : Ref} (held : ref ∈ e.payload.owned) :
    e.livePayload = some ref := by
  cases payload : e.payload <;> simp_all [Slot.owned, livePayload, Slot.upgrade]

theorem setPayload_reslots (unfrozen : e.snapshot = none) {payload : Slot} {ref : Option Ref}
    (given : ∀ other ∈ payload.owned, ref = some other) :
    e.Reslots store { e with payload } FieldName.data ref := by
  refine ⟨fun other held => ?_, fun other held => ?_⟩ <;>
    simp only [owned, unfrozen, List.append_nil, List.mem_append] at held ⊢
  · exact held.elim (.inr ∘ .inl) fun held => .inl (given other held)
  · exact held.imp .inl fun held => by simpa [heldAt] using livePayload_of_owned held

theorem setFields_reslots (unfrozen : e.snapshot = none) {key : String} (apart : key ≠ FieldName.data)
    {fields : Fields} {ref : Option Ref}
    (given : ∀ other ∈ fields.values, ref = some other ∨ other ∈ e.fields.values)
    (dropped : ∀ other ∈ e.fields.values, other ∈ fields.values ∨ e.fields.get? key = some other) :
    e.Reslots store { e with fields } key ref := by
  refine ⟨fun other held => ?_, fun other held => ?_⟩ <;>
    simp only [owned, unfrozen, List.append_nil, List.mem_append] at held ⊢
  · exact held.elim (fun held => (given other held).imp_right .inl) (.inr ∘ .inr)
  · rw [heldAt, if_neg apart]
    exact held.elim (fun held => (dropped other held).imp_left .inl) (.inl ∘ .inr)

theorem put_reslots (store : Store) (unfrozen : e.snapshot = none) (key : String) (ref : Ref) :
    ∃ after, e.put store key ref = .ok (after, e.heldAt key) ∧
      e.Reslots store after key (some ref) := by
  have open_ : e.isFrozen = false := (e.isFrozen_eq_false_iff).mpr unfrozen
  by_cases data : key = FieldName.data
  · subst data
    refine ⟨{ e with payload := store.slotOf ref }, by simp [put, open_, heldAt],
      setPayload_reslots unfrozen fun other held => ?_⟩
    unfold Store.slotOf at held
    split at held
    · exact absurd held List.not_mem_nil
    · exact congrArg some (List.mem_singleton.mp held).symm
  · refine ⟨{ e with fields := e.fields.insert key ref }, by simp [put, open_, heldAt, data],
      setFields_reslots unfrozen data (fun other held => ?_)
        fun _ => Table.mem_values_insert_old key ref⟩
    exact (Table.mem_values_insert held).imp_left fun same => congrArg some same.symm

theorem remove_reslots (store : Store) (unfrozen : e.snapshot = none) (key : String) :
    ∃ after, e.remove key = .ok (after, e.heldAt key) ∧ e.Reslots store after key none := by
  have open_ : e.isFrozen = false := (e.isFrozen_eq_false_iff).mpr unfrozen
  by_cases data : key = FieldName.data
  · subst data
    exact ⟨{ e with payload := .absent }, by simp [remove, open_, heldAt],
      setPayload_reslots unfrozen fun _ held => absurd held List.not_mem_nil⟩
  · exact ⟨{ e with fields := e.fields.erase key }, by simp [remove, open_, heldAt, data],
      setFields_reslots unfrozen data (fun _ held => .inr (Table.mem_values_erase held))
        fun _ => Table.mem_values_erase_old key⟩

theorem owned_of_heldAt (unfrozen : e.snapshot = none) {key : String} {ref : Ref}
    (held : e.heldAt key = some ref) : ref ∈ e.owned store := by
  rw [mem_owned_open unfrozen]
  unfold heldAt at held
  split at held
  · exact .inr (livePayload_owned held)
  · exact .inl (Table.mem_values_of_get? held)

end Envelope

namespace Session

/-- Whether an edit replaces the value that it finds under its key. A map is edited where it is,
unless it is no map or has to move: it has one holder and is watched. -/
def Replaces (s : Session) (ref : Ref) : Edit → Prop
  | .ext create _ => (create ∧ (s.value ref).isObject = false) ∨
    (s.owners.count ref ≤ 1 ∧ ref ∈ s.watchers)
  | _ => True

/-- A step lets go of a value: under a name that it drops or uses again, in a field, or because a
snapshot gets its stored form. -/
inductive Releases (s : Session) (ref : Ref) (step : Step) : Prop where
  | handle {name : String} (named : step.handle? = some name) (held : s.handles.get? name = some ref)
  | message {name : String} {message : Message} (named : step.message? = some name)
    (found : s.messages.get? name = some message) (held : ref ∈ message.fields.values)
  | envelope {name : String} {linked : Linked} {e : Envelope} (named : step.envelope? = some name)
    (found : s.envelopes.get? name = some linked) (member : e ∈ linked.all)
    (held : ref ∈ e.owned s.store)
  | field {name : String} {message : Message} {edit : Edit} {into : Option String}
    (same : step = .editMessage name edit into) (found : s.messages.get? name = some message)
    (held : message.fields.get? edit.key = some ref) (replaces : s.Replaces ref edit)
  | slot {name : String} {linked : Linked} {edit : Edit} {into : Option String}
    (same : step = .editEnvelope name edit into) (found : s.envelopes.get? name = some linked)
    (unfrozen : linked.envelope.isFrozen = false)
    (held : linked.envelope.heldAt edit.key = some ref) (replaces : s.Replaces ref edit)
  | rendered {e : Envelope} {id : SnapshotId} (asked : s.rendered? step = some e)
    (taken : e.snapshot = some id) (pending : (s.store.snapshot id).stored = none)
    (done : ((s.step step).1.store.snapshot id).stored.isSome)
    (held : ref ∈ (s.store.snapshot id).payload.owned)

variable {s t : Session} {dead lost : Ref → Prop}

theorem keep_shifts (into : Option String) {ref : Option Ref}
    (fresh : ∀ found, ref = some found → ¬ dead found)
    (dropped : ∀ name old, into = some name → s.handles.get? name = some old → lost old) :
    Shifts dead lost s (s.keep into ref) := by
  unfold keep
  split
  next name found =>
    exact insertHandle_shifts name (fun gone => absurd gone (fresh found rfl)) fun old =>
      dropped name old rfl
  next => exact .refl _ _ s

-- Counts of holders when one message, or one envelope, is replaced.
theorem count_setMessage {name : String} {old : Message} (found : s.messages.get? name = some old)
    (message : Message) (ref : Ref) : s.owners.count ref + message.fields.values.count ref ≤
      (s.setMessage name message).owners.count ref + old.fields.values.count ref := by
  have := Table.count_flatMap_insert (·.fields.values) found message ref
  simp only [owners, setMessage, liveEnvelopes, List.count_append] at this ⊢
  omega

theorem count_setEnvelope {name : String} {linked : Linked}
    (found : s.envelopes.get? name = some linked) (e : Envelope) (ref : Ref) :
    s.owners.count ref + (e.owned s.store).count ref ≤
      (s.setEnvelope name linked e).owners.count ref + (linked.envelope.owned s.store).count ref := by
  have := Table.count_flatMap_insert (fun linked => linked.all.flatMap (·.owned s.store)) found
    { linked with envelope := e } ref
  simp only [Linked.all, List.flatMap_cons, List.count_append] at this
  simp only [owners, setEnvelope, liveEnvelopes, List.flatMap_assoc, List.count_append]
  simp only [Linked.all, List.flatMap_cons]
  omega

theorem watched_of_single {ref : Ref} (shared : s.isExclusive ref = false)
    (single : s.owners.count ref ≤ 1) : ref ∈ s.watchers := by
  simpa [isExclusive, single] using shared

section Ext

variable {fields : Fields} {create : Bool} {edits : List MapEdit} {ref : Ref}

theorem makeExclusive_ref (s : Session) (ref : Ref) : (s.makeExclusive ref).2 = ref ∨
    s.isExclusive ref = false ∧ ¬ s.store.HasValue (s.makeExclusive ref).2 := by
  unfold makeExclusive
  split
  · exact .inl rfl
  next shared => exact .inr ⟨by simpa using shared, s.store.alloc_new (s.value ref)⟩

theorem get?_editMap (key : String) : (s.editMap fields key edits).2.1.get? key =
    (fields.get? key).map fun ref => (s.makeExclusive ref).2 := by
  unfold editMap
  cases found : fields.get? key with
  | none => exact found
  | some ref =>
    dsimp only
    split <;> exact Table.get?_insert_self _ _ _

-- The extension is where it was, or it has moved to a new value because it was no map, or because
-- it may not change in place.
theorem editExt_moves (found : (s.editExt fields create edits).2.1.get? FieldName.ext = some ref) :
    fields.get? FieldName.ext = some ref ∨ ¬ s.store.HasValue ref ∧
      ∀ old, fields.get? FieldName.ext = some old →
        (create ∧ (s.value old).isObject = false) ∨ s.isExclusive old = false := by
  have edited (found : (s.editMap fields FieldName.ext edits).2.1.get? FieldName.ext = some ref) :
      fields.get? FieldName.ext = some ref ∨ ¬ s.store.HasValue ref ∧
        ∀ old, fields.get? FieldName.ext = some old →
          (create ∧ (s.value old).isObject = false) ∨ s.isExclusive old = false := by
    rw [get?_editMap] at found
    obtain ⟨old, here, rfl⟩ := Option.map_eq_some_iff.mp found
    rcases makeExclusive_ref s old with same | ⟨shared, new⟩
    · exact .inl (here.trans (congrArg some same.symm))
    · refine .inr ⟨new, fun other there => .inr ?_⟩
      rw [here, Option.some.injEq] at there
      exact there ▸ shared
  cases create with
  | false => exact edited found
  | true =>
    by_cases map : s.store.holdsMap fields FieldName.ext
    · simp only [editExt, createMap, map, if_true] at found
      exact edited found
    · simp only [editExt, createMap, map, if_true, Bool.false_eq_true, if_false] at found
      rw [get?_editMap, Table.get?_insert_self, Option.map_some, Option.some.injEq] at found
      refine .inr ⟨?_, fun old here => .inl ⟨rfl, ?_⟩⟩
      · rw [← found]
        rcases makeExclusive_ref (s.alloc (.object [])).1 (s.alloc (.object [])).2 with
          same | ⟨-, newer⟩
        · rw [same]
          exact s.store.alloc_new (.object [])
        · exact fun has => newer ((s.store.alloc_advance (.object [])).has_value has)
      · simpa [Store.holdsMap, here, Session.value] using map

-- A field that is gone was under the name of the extension, and only there.
theorem dropped_ext {fields' : Fields} (sorted : fields.Sorted)
    (others : ∀ other, other ≠ FieldName.ext → fields'.get? other = fields.get? other)
    (held : ref ∈ fields.values) (gone : ref ∉ fields'.values) :
    fields.get? FieldName.ext = some ref ∧ fields.values.count ref ≤ 1 := by
  have only (key : String) (found : fields.get? key = some ref) : key = FieldName.ext := by
    by_cases same : key = FieldName.ext
    · exact same
    · exact absurd (Table.mem_values_of_get? ((others key same).trans found)) gone
  obtain ⟨key, found⟩ := (Table.mem_values_iff sorted ref).mp held
  have erased : ref ∉ (fields.erase FieldName.ext).values := by
    intro member
    obtain ⟨other, found'⟩ := (Table.mem_values_iff (sorted.erase _) ref).mp member
    obtain ⟨differ, before⟩ := Table.get?_of_get?_erase sorted found'
    exact differ (only other before)
  have count := fields.count_values_le_erase FieldName.ext ref
  rw [List.count_eq_zero_of_not_mem erased] at count
  exact ⟨only key found ▸ found, count⟩

theorem editExt_values (wf : s.WellFormed) (ok : FieldsOk s.store fields) (create : Bool)
    (edits : List MapEdit) :
    let fields' := (s.editExt fields create edits).2.1
    (∀ ref ∈ fields'.values, ref ∈ fields.values ∨ ¬ s.store.HasValue ref) ∧
      ∀ ref ∈ fields.values, ref ∉ fields'.values →
        fields.get? FieldName.ext = some ref ∧ fields.values.count ref ≤ 1 ∧
          ((create ∧ (s.value ref).isObject = false) ∨ s.isExclusive ref = false) := by
  obtain ⟨change, -⟩ := editExt_correct wf ok create edits
  refine ⟨fun ref held => ?_, fun ref held gone => ?_⟩
  · obtain ⟨key, found⟩ := (Table.mem_values_iff change.ok.sorted ref).mp held
    by_cases same : key = FieldName.ext
    · rw [same] at found
      exact (editExt_moves found).imp Table.mem_values_of_get? And.left
    · exact .inl (Table.mem_values_of_get? ((change.others key same).symm.trans found))
  · obtain ⟨found, count⟩ := dropped_ext ok.sorted change.others held gone
    refine ⟨found, count, ?_⟩
    have filled : ((s.editExt fields create edits).2.1.get? FieldName.ext).isSome := by
      rw [← Option.isSome_map, change.result, found]
      cases create <;> simp [Json.withMap]
      split <;> rfl
    obtain ⟨new, there⟩ := Option.isSome_iff_exists.mp filled
    rcases editExt_moves there with before | ⟨-, moved⟩
    · rw [found, Option.some.injEq] at before
      exact absurd (Table.mem_values_of_get? there) (before ▸ gone)
    · exact moved ref found

end Ext

theorem owned_by_setMessage {name : String} {message : Message} {ref : Ref}
    (held : ref ∈ message.fields.values) : ref ∈ (s.setMessage name message).owners :=
  owned_by_message (Table.mem_values_of_get? (Table.get?_insert_self _ _ _)) held

theorem owned_by_setEnvelope {name : String} {linked : Linked} {e : Envelope} {ref : Ref}
    (held : ref ∈ e.owned s.store) : ref ∈ (s.setEnvelope name linked e).owners :=
  owned_by_envelope (s := s.setEnvelope name linked e)
    (live_head (Table.get?_insert_self _ _ _)) held

theorem reslot_shifts (sorted : s.envelopes.Sorted) {name : String} {linked : Linked}
    (found : s.envelopes.get? name = some linked) {e : Envelope} {key : String} {ref : Option Ref}
    (reslots : linked.envelope.Reslots s.store e key ref) (fresh : ∀ new, ref = some new → ¬ dead new)
    (old : ∀ other ∈ linked.envelope.owned s.store, ¬ dead other)
    (dropped : ∀ {other}, linked.envelope.heldAt key = some other → lost other) :
    Shifts dead lost s (s.setEnvelope name linked e) := by
  refine setEnvelope_shifts sorted found (fun other held gone => ?_) fun other held gone => ?_
  · exact absurd gone ((reslots.fresh other held).elim (fresh other) (old other))
  · exact dropped ((reslots.dropped other held).resolve_left fun still =>
      gone (owned_by_setEnvelope still))

section Edits

-- At first nothing that is held is dead, and what is dead is listed.
variable (spared : ∀ ref ∈ s.owners, ¬ dead ref) (listed : ∀ ref, dead ref → s.store.HasValue ref)

include spared listed

theorem argument_shifts {argument : Argument} {ref : Ref}
    (given : s.argument argument = some (t, ref)) :
    (∃ store, t = { s with store }) ∧ t.owners = s.owners ∧ ¬ dead ref := by
  cases argument with
  | handle name =>
    obtain ⟨found, here, same⟩ := Option.map_eq_some_iff.mp given
    cases same
    exact ⟨⟨s.store, rfl⟩, rfl, spared ref (owned_by_handle (Table.mem_values_of_get? here))⟩
  | fresh v =>
    cases given
    exact ⟨⟨_, rfl⟩, rfl, fun gone => s.store.alloc_new v (listed _ gone)⟩

section Messages

variable {name : String} {message : Message} (found : s.messages.get? name = some message)

include found

omit listed in
theorem spared_field {key : String} {ref : Ref} (held : message.fields.get? key = some ref) :
    ¬ dead ref :=
  spared ref (owned_by_message (Table.mem_values_of_get? found) (Table.mem_values_of_get? held))

theorem putMessage_shifts {argument : Argument} {ref : Ref}
    (given : s.argument argument = some (t, ref)) (key : String)
    (dropped : ∀ {other}, message.fields.get? key = some other → lost other) :
    Shifts dead lost s (t.setMessage name (message.put key ref).1) := by
  obtain ⟨⟨store, rfl⟩, owners, fresh⟩ := argument_shifts spared listed given
  refine (Shifts.of_owners_eq owners).trans (setMessage_shifts name (fun other held gone => ?_)
    fun before there other held gone => ?_)
  · rcases Table.mem_values_insert held with same | before
    · exact absurd (same ▸ gone) fresh
    · exact absurd gone (spared other (owned_by_message (Table.mem_values_of_get? found) before))
  · rw [show before = message from Option.some.inj (there.symm.trans found)] at held
    rcases Table.mem_values_insert_old key ref held with still | here
    · exact (gone (owned_by_setMessage still)).elim
    · exact dropped here

omit listed in
theorem removeMessage_shifts (key : String)
    (dropped : ∀ {other}, message.fields.get? key = some other → lost other) :
    Shifts dead lost s (s.setMessage name (message.remove key).1) := by
  refine setMessage_shifts name (fun other held gone => ?_) fun before there other held gone => ?_
  · have before := owned_by_message (Table.mem_values_of_get? found) (Table.mem_values_erase held)
    exact absurd gone (spared other before)
  · rw [show before = message from Option.some.inj (there.symm.trans found)] at held
    rcases Table.mem_values_erase_old key held with still | here
    · exact (gone (owned_by_setMessage still)).elim
    · exact dropped here

theorem extMessage_shifts (wf : s.WellFormed) (create : Bool) (edits : List MapEdit)
    (dropped : ∀ {other}, message.fields.get? FieldName.ext = some other →
      s.Replaces other (.ext create edits) → lost other) :
    let (t, fields, _) := s.editExt message.fields create edits
    Shifts dead lost s (t.setMessage name ⟨fields⟩) := by
  have member := Table.mem_values_of_get? found
  have ok := wf.messages message member
  obtain ⟨change, -⟩ := editExt_correct wf ok create edits
  obtain ⟨fresh, moved⟩ := editExt_values wf ok create edits
  generalize s.editExt message.fields create edits = result at change fresh moved
  obtain ⟨t, fields, edited⟩ := result
  dsimp only at change fresh moved ⊢
  have owners : t.owners = s.owners := by
    rw [change.only_store]
    exact owners_store wf change.advance fun _ => False.elim
  have found' : t.messages.get? name = some message := by
    rw [change.only_store]
    exact found
  refine (Shifts.of_owners_eq owners).trans (setMessage_shifts name (fun ref held gone => ?_)
    fun before there ref held gone => ?_)
  · rcases fresh ref held with before | new
    · exact absurd gone (spared ref (owned_by_message member before))
    · exact absurd (listed ref gone) new
  · rw [show before = message from Option.some.inj (there.symm.trans found')] at held
    have away : ref ∉ fields.values := fun still => gone (owned_by_setMessage still)
    obtain ⟨here, once, replaces⟩ := moved ref held away
    have count := count_setMessage found' ⟨fields⟩ ref
    rw [List.count_eq_zero_of_not_mem gone, List.count_eq_zero_of_not_mem away, owners] at count
    have single : s.owners.count ref ≤ 1 := by omega
    exact dropped here (replaces.imp_right fun shared => ⟨single, watched_of_single shared single⟩)

theorem editMessage_shifts (wf : s.WellFormed) (edit : Edit) (into : Option String) :
    Shifts dead (s.Releases · (.editMessage name edit into)) s
      (s.editMessage name message edit into).1 := by
  cases edit with
  | put key argument =>
    simp only [editMessage]
    split
    · exact .refl _ _ s
    next t ref given =>
      have written := putMessage_shifts spared listed found given key fun held =>
        (.field rfl found held trivial : s.Releases _ (.editMessage name (.put key argument) into))
      obtain ⟨⟨store, rfl⟩, -⟩ := argument_shifts spared listed given
      exact written.trans (keep_shifts into (fun _ => spared_field spared found)
        fun other ref same held => .handle same held)
  | assign key argument =>
    simp only [editMessage]
    split
    · exact .refl _ _ s
    next t ref given =>
      exact putMessage_shifts spared listed found given key fun held => .field rfl found held trivial
  | remove key =>
    have written := removeMessage_shifts spared found key fun held =>
      (.field rfl found held trivial : s.Releases _ (.editMessage name (.remove key) into))
    exact written.trans (keep_shifts into (fun _ => spared_field spared found)
      fun other ref same held => .handle same held)
  | ext create edits =>
    exact extMessage_shifts spared listed found wf create edits fun held replaces =>
      .field rfl found held replaces

end Messages

section Envelopes

variable {name : String} {linked : Linked} (found : s.envelopes.get? name = some linked)

include found

omit listed in
theorem spared_owned (unfrozen : linked.envelope.snapshot = none) {store : Store} {ref : Ref}
    (held : ref ∈ linked.envelope.owned store) : ¬ dead ref := by
  have live : linked.envelope ∈ s.liveEnvelopes := live_head found
  rw [Envelope.mem_owned_open unfrozen] at held
  exact spared ref (owned_by_envelope live ((Envelope.mem_owned_open unfrozen).mpr held))

theorem putEnvelope_shifts (sorted : s.envelopes.Sorted) (unfrozen : linked.envelope.snapshot = none)
    {argument : Argument} {ref : Ref} (given : s.argument argument = some (t, ref)) (key : String)
    (dropped : ∀ {other}, linked.envelope.heldAt key = some other → lost other) :
    ∃ after, linked.envelope.put t.store key ref = .ok (after, linked.envelope.heldAt key) ∧
      Shifts dead lost s (t.setEnvelope name linked after) := by
  obtain ⟨⟨store, rfl⟩, owners, fresh⟩ := argument_shifts spared listed given
  obtain ⟨after, put, reslots⟩ := Envelope.put_reslots store unfrozen key ref
  have written := reslot_shifts (s := { s with store }) sorted found reslots
    (fun new same => Option.some.inj same ▸ fresh)
    (fun other => spared_owned spared found unfrozen) dropped
  exact ⟨after, put, (Shifts.of_owners_eq owners).trans written⟩

theorem extEnvelope_shifts (wf : s.WellFormed) (unfrozen : linked.envelope.snapshot = none)
    (create : Bool) (edits : List MapEdit)
    (dropped : ∀ {other}, linked.envelope.fields.get? FieldName.ext = some other →
      s.Replaces other (.ext create edits) → lost other) :
    let (t, fields, _) := s.editExt linked.envelope.fields create edits
    Shifts dead lost s (t.setEnvelope name linked { linked.envelope with fields }) := by
  have ok := wf.envelopes linked.envelope (live_head found)
  obtain ⟨change, -⟩ := editExt_correct wf ok.fields create edits
  obtain ⟨fresh, moved⟩ := editExt_values wf ok.fields create edits
  generalize s.editExt linked.envelope.fields create edits = result at change fresh moved
  obtain ⟨t, fields, edited⟩ := result
  dsimp only at change fresh moved ⊢
  have owners : t.owners = s.owners := by
    rw [change.only_store]
    exact owners_store wf change.advance fun _ => False.elim
  have envelopes : t.envelopes = s.envelopes := by rw [change.only_store]
  have still : ({ linked.envelope with fields } : Envelope).snapshot = none := unfrozen
  have kept {ref : Ref} (held : ref ∈ linked.envelope.fields.values ∨
      ref ∈ linked.envelope.payload.owned) : ¬ dead ref := by
    have owned : ref ∈ linked.envelope.owned s.store := (Envelope.mem_owned_open unfrozen).mpr held
    exact spared_owned spared found unfrozen owned
  refine (Shifts.of_owners_eq owners).trans (setEnvelope_shifts (envelopes ▸ wf.sorted)
    (envelopes ▸ found) (fun ref held gone => ?_) fun ref held gone => ?_)
  · rcases (Envelope.mem_owned_open still).mp held with field | payload
    · exact absurd gone ((fresh ref field).elim (kept ∘ .inl) fun new gone => new (listed ref gone))
    · exact absurd gone (kept (.inr payload))
  · have away : ref ∉ Envelope.owned t.store { linked.envelope with fields } := fun kept =>
      gone (owned_by_setEnvelope kept)
    obtain ⟨out, bare⟩ := not_or.mp (mt (Envelope.mem_owned_open still).mpr away)
    have before := ((Envelope.mem_owned_open unfrozen).mp held).resolve_right bare
    obtain ⟨here, once, replaces⟩ := moved ref before out
    have count := count_setEnvelope (envelopes ▸ found) { linked.envelope with fields } ref
    rw [List.count_eq_zero_of_not_mem gone, List.count_eq_zero_of_not_mem away,
      Envelope.count_owned_open unfrozen, List.count_eq_zero_of_not_mem bare, owners] at count
    have single : s.owners.count ref ≤ 1 := by omega
    exact dropped here (replaces.imp_right fun shared => ⟨single, watched_of_single shared single⟩)

theorem editEnvelope_shifts (wf : s.WellFormed) (edit : Edit) (into : Option String) :
    Shifts dead (s.Releases · (.editEnvelope name edit into)) s
      (s.editEnvelope name linked edit into).1 := by
  unfold editEnvelope
  dsimp only
  split
  · exact .refl _ _ s
  next open_ =>
  have thawed : linked.envelope.isFrozen = false := by simpa using open_
  have unfrozen := (linked.envelope.isFrozen_eq_false_iff).mp thawed
  have kept {key : String} (ref : Ref) (held : linked.envelope.heldAt key = some ref) :
      ¬ dead ref := by
    have owned : ref ∈ linked.envelope.owned s.store := Envelope.owned_of_heldAt unfrozen held
    exact spared_owned spared found unfrozen owned
  cases edit with
  | put key argument =>
    dsimp only
    split
    · exact .refl _ _ s
    next t ref given =>
      obtain ⟨after, put, written⟩ :=
        putEnvelope_shifts spared listed found wf.sorted unfrozen given key fun held =>
          (.slot rfl found thawed held trivial :
            s.Releases _ (.editEnvelope name (.put key argument) into))
      obtain ⟨⟨store, rfl⟩, -⟩ := argument_shifts spared listed given
      simp only [put]
      exact written.trans (keep_shifts into kept fun other ref same held => .handle same held)
  | assign key argument =>
    dsimp only
    split
    · exact .refl _ _ s
    next t ref given =>
      obtain ⟨after, put, written⟩ :=
        putEnvelope_shifts spared listed found wf.sorted unfrozen given key fun held =>
          (.slot rfl found thawed held trivial :
            s.Releases _ (.editEnvelope name (.assign key argument) into))
      simp only [put]
      exact written
  | remove key =>
    obtain ⟨after, removed, reslots⟩ := Envelope.remove_reslots s.store unfrozen key
    simp only [removed]
    have written := reslot_shifts wf.sorted found reslots (fun _ same => nomatch same)
      (fun other => spared_owned spared found unfrozen) fun held =>
        (.slot rfl found thawed held trivial : s.Releases _ (.editEnvelope name (.remove key) into))
    exact written.trans (keep_shifts into kept fun other ref same held => .handle same held)
  | ext create edits =>
    have apart : FieldName.ext ≠ FieldName.data := by decide
    exact extEnvelope_shifts spared listed found wf unfrozen create edits fun held replaces =>
      .slot rfl found thawed ((if_neg apart).trans held) replaces

end Envelopes

end Edits

end Session

end Bayeux
