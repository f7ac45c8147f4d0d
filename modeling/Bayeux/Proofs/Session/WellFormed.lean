import Bayeux.Proofs.Store.Operations
import Bayeux.Proofs.Table
import Bayeux.Session.Basic

set_option autoImplicit false

namespace Bayeux

-- Fields that a message or an envelope may have.
structure FieldsOk (store : Store) (fields : Fields) : Prop where
  sorted : fields.Sorted
  listed : ∀ ref ∈ fields.values, store.HasValue ref

namespace FieldsOk

variable {store : Store} {fields : Fields}

theorem get? (ok : FieldsOk store fields) {key : String} {ref : Ref}
    (found : fields.get? key = some ref) : store.HasValue ref :=
  ok.listed ref (Table.mem_values_of_get? found)

theorem insert (ok : FieldsOk store fields) (key : String) {ref : Ref} (has : store.HasValue ref) :
    FieldsOk store (fields.insert key ref) :=
  ⟨ok.sorted.insert key ref, fun other member => by
    rcases Table.mem_values_insert member with same | old
    · exact same ▸ has
    · exact ok.listed other old⟩

theorem erase (ok : FieldsOk store fields) (key : String) : FieldsOk store (fields.erase key) :=
  ⟨ok.sorted.erase key, fun ref member => ok.listed ref (Table.mem_values_erase member)⟩

theorem mono {effect : Effect} {later : Store} (ok : FieldsOk store fields)
    (step : Store.Advance effect store later) : FieldsOk later fields :=
  ⟨ok.sorted, fun ref member => step.has_value (ok.listed ref member)⟩

end FieldsOk

namespace Envelope

-- What copies of an envelope have in common.
def core (e : Envelope) : Envelope := e.copy 0

def settings (e : Envelope) : Factory := ⟨e.threshold, e.ignoreNull, e.codec⟩

/-- The snapshot is one of the envelope: it has the same fields, and keeps the payload until it has
a stored form. -/
structure Captured (e : Envelope) (snapshot : Snapshot) : Prop where
  fields : snapshot.fields = e.fields
  payload : snapshot.payload.downgrade = e.frozenPayload
  held : snapshot.stored = none → snapshot.payload.watched = []
  released : ∀ stored, snapshot.stored = some stored → snapshot.payload.owned = []
  form : ∀ stored, snapshot.stored = some stored →
    ∃ text, stored = Stored.ofText text e.threshold.toNat

structure WellFormed (store : Store) (e : Envelope) : Prop where
  fields : FieldsOk store e.fields
  apart : e.fields.get? FieldName.data = none
  payload : ∀ ref ∈ e.payload.owned ++ e.payload.watched, store.HasValue ref
  codec : store.HasCodec e.codec
  unfrozen : e.snapshot = none →
    e.payload.watched = [] ∧ ∀ ref ∈ e.payload.owned, (store.value ref).isNull = false
  frozen : ∀ id, e.snapshot = some id →
    e.payload.owned = [] ∧ store.HasSnapshot id ∧ e.Captured (store.snapshot id)

theorem core_eq_iff (a b : Envelope) : a.core = b.core ↔ a.fields = b.fields ∧
    a.payload = b.payload ∧ a.snapshot = b.snapshot ∧ a.threshold = b.threshold ∧
    a.ignoreNull = b.ignoreNull ∧ a.codec = b.codec := by
  simp [core, copy]

theorem settings_eq_of_core_eq {a b : Envelope} (same : a.core = b.core) :
    a.settings = b.settings := by
  obtain ⟨-, -, -, threshold, ignoreNull, codec⟩ := (core_eq_iff a b).mp same
  simp [settings, threshold, ignoreNull, codec]

@[simp] theorem watched_frozenPayload (e : Envelope) :
    e.frozenPayload.watched = e.payload.watched := by
  cases payload : e.payload <;> simp only [frozenPayload, payload]
  all_goals split <;> rfl

@[simp] theorem core_copy (e : Envelope) (id : Nat) : (e.copy id).core = e.core := rfl

@[simp] theorem snapshot_core (e : Envelope) : e.core.snapshot = e.snapshot := rfl

theorem isFrozen_iff (e : Envelope) : e.isFrozen ↔ ∃ id, e.snapshot = some id :=
  Option.isSome_iff_exists

theorem isFrozen_eq_false_iff (e : Envelope) : e.isFrozen = false ↔ e.snapshot = none := by
  simp [isFrozen]

theorem Captured.of_core_eq {a b : Envelope} {snapshot : Snapshot} (same : a.core = b.core)
    (captured : a.Captured snapshot) : b.Captured snapshot := by
  obtain ⟨fields, payload, -, threshold, ignoreNull, -⟩ := (core_eq_iff a b).mp same
  have frozenPayload : a.frozenPayload = b.frozenPayload := by
    simp [Envelope.frozenPayload, payload, ignoreNull]
  exact
    { fields := captured.fields.trans fields
      payload := captured.payload.trans frozenPayload
      held := captured.held
      released := captured.released
      form := threshold ▸ captured.form }

theorem WellFormed.of_core_eq {store : Store} {a b : Envelope} (same : a.core = b.core)
    (wf : a.WellFormed store) : b.WellFormed store := by
  obtain ⟨fields, payload, snapshot, -, -, codec⟩ := (core_eq_iff a b).mp same
  exact
    { fields := fields ▸ wf.fields
      apart := fields ▸ wf.apart
      payload := payload ▸ wf.payload
      codec := codec ▸ wf.codec
      unfrozen := payload ▸ snapshot ▸ wf.unfrozen
      frozen := fun id taken => by
        obtain ⟨owned, has, captured⟩ := wf.frozen id (snapshot.trans taken)
        exact ⟨payload ▸ owned, has, captured.of_core_eq same⟩ }

end Envelope

namespace Slot

@[simp] theorem downgrade_downgrade (slot : Slot) : slot.downgrade.downgrade = slot.downgrade := by
  cases slot <;> rfl

theorem watched_downgrade (slot : Slot) : slot.downgrade.watched = slot.owned ++ slot.watched := by
  cases slot <;> rfl

theorem listed_of_upgrade {slot : Slot} {isAlive : Ref → Bool} {ref : Ref}
    (found : slot.upgrade isAlive = some ref) : ref ∈ slot.owned ++ slot.watched := by
  cases slot with
  | absent | null => simp [upgrade] at found
  | live other =>
    have same : other = ref := by simpa [upgrade] using found
    simp [owned, same]
  | weak other =>
    have same : isAlive other ∧ other = ref := by simpa [upgrade] using found
    simp [watched, same]

end Slot

theorem Envelope.Captured.slot {e : Envelope} {snapshot : Snapshot} (captured : e.Captured snapshot) :
    snapshot.payload.owned ++ snapshot.payload.watched = e.payload.watched := by
  rw [← Slot.watched_downgrade, captured.payload, e.watched_frozenPayload]

theorem Envelope.Captured.serialized {e : Envelope} {snapshot : Snapshot}
    (captured : e.Captured snapshot) (text : String) :
    e.Captured (snapshot.serialized (Stored.ofText text e.threshold.toNat)) :=
  { fields := captured.fields
    payload := by simpa [Snapshot.serialized] using captured.payload
    held := fun bare => by simp [Snapshot.serialized] at bare
    released := fun _ _ => by simp [Snapshot.serialized]
    form := fun stored here => ⟨text, by simpa [Snapshot.serialized] using here.symm⟩ }

namespace Session

/-- Everything that is held is in the store, envelopes are known by their numbers, and those that
share a snapshot are copies of each other. -/
structure WellFormed (s : Session) : Prop where
  handles : ∀ ref ∈ s.handles.values, s.store.HasValue ref
  probes : ∀ ref ∈ s.probes.values, s.store.HasValue ref
  messages : ∀ message ∈ s.messages.values, FieldsOk s.store message.fields
  codecs : ∀ id ∈ s.codecs.values, s.store.HasCodec id
  factories : ∀ factory ∈ s.factories.values, s.store.HasCodec factory.codec
  sorted : s.envelopes.Sorted
  envelopes : ∀ e ∈ s.liveEnvelopes, e.WellFormed s.store
  ids : ∀ e ∈ s.liveEnvelopes, e.id < s.nextId
  unique : ∀ e ∈ s.liveEnvelopes, ∀ other ∈ s.liveEnvelopes, e.id = other.id → e = other
  heads : ∀ name other a b, s.envelopes.get? name = some a → s.envelopes.get? other = some b →
    a.envelope.id = b.envelope.id → name = other
  twins : ∀ e ∈ s.liveEnvelopes, ∀ other ∈ s.liveEnvelopes, e.isFrozen →
    e.snapshot = other.snapshot → e.core = other.core

theorem mem_all (linked : Linked) (e : Envelope) :
    e ∈ linked.all ↔ e = linked.envelope ∨ e ∈ linked.chain := by
  simp [Linked.all]

theorem mem_liveEnvelopes {s : Session} (sorted : s.envelopes.Sorted) (e : Envelope) :
    e ∈ s.liveEnvelopes ↔ ∃ name linked, s.envelopes.get? name = some linked ∧ e ∈ linked.all := by
  simp only [liveEnvelopes, List.mem_flatMap]
  constructor
  · rintro ⟨linked, listed, member⟩
    obtain ⟨name, found⟩ := (Table.mem_values_iff sorted linked).mp listed
    exact ⟨name, linked, found, member⟩
  · rintro ⟨name, linked, found, member⟩
    exact ⟨linked, Table.mem_values_of_get? found, member⟩

theorem live_of_get? {s : Session} {name : String} {linked : Linked}
    (found : s.envelopes.get? name = some linked) {e : Envelope} (member : e ∈ linked.all) :
    e ∈ s.liveEnvelopes :=
  List.mem_flatMap.mpr ⟨linked, Table.mem_values_of_get? found, member⟩

theorem live_head {s : Session} {name : String} {linked : Linked}
    (found : s.envelopes.get? name = some linked) : linked.envelope ∈ s.liveEnvelopes :=
  live_of_get? found ((mem_all linked _).mpr (.inl rfl))

theorem mem_all_of_at? {linked start : Linked} {hops : Nat} (found : start.at? hops = some linked)
    {e : Envelope} (member : e ∈ linked.all) : e ∈ start.all := by
  apply List.mem_of_mem_drop (i := hops)
  simp only [Linked.at?] at found
  cases rest : start.all.drop hops with
  | nil => simp [rest] at found
  | cons first more =>
    simp only [rest, Option.some.injEq] at found
    subst found
    exact member

theorem empty_wellFormed : empty.WellFormed := by
  constructor <;> simp [empty, liveEnvelopes, Table.values]

namespace WellFormed

variable {s : Session}

theorem mem_owners {ref : Ref} : ref ∈ s.owners ↔ ref ∈ s.handles.values ∨
    (∃ message ∈ s.messages.values, ref ∈ message.fields.values) ∨
    ∃ e ∈ s.liveEnvelopes, ref ∈ e.owned s.store := by
  simp [owners]

theorem mem_watchers {ref : Ref} : ref ∈ s.watchers ↔ ref ∈ s.probes.values ∨
    ∃ e ∈ s.liveEnvelopes, ref ∈ e.watched s.store := by
  simp [watchers]

theorem listed_envelope (wf : s.WellFormed) {e : Envelope} (live : e ∈ s.liveEnvelopes) {ref : Ref}
    (held : ref ∈ e.owned s.store ++ e.watched s.store) : s.store.HasValue ref := by
  have ok := wf.envelopes e live
  cases taken : e.snapshot with
  | none =>
    simp only [Envelope.owned, Envelope.watched, taken, List.append_nil, List.mem_append] at held
    rcases held with (field | live) | weak
    · exact ok.fields.listed ref field
    · exact ok.payload ref (List.mem_append_left _ live)
    · exact ok.payload ref (List.mem_append_right _ weak)
  | some id =>
    obtain ⟨-, -, captured⟩ := ok.frozen id taken
    simp only [Envelope.owned, Envelope.watched, taken, Snapshot.owned, captured.fields,
      List.mem_append] at held
    have payload : ref ∈ (s.store.snapshot id).payload.owned ∨
        ref ∈ (s.store.snapshot id).payload.watched → s.store.HasValue ref := fun kept =>
      ok.payload ref (List.mem_append_right _ (captured.slot ▸ List.mem_append.mpr kept))
    rcases held with ((field | live) | field | kept) | weak | weak
    · exact ok.fields.listed ref field
    · exact ok.payload ref (List.mem_append_left _ live)
    · exact ok.fields.listed ref field
    · exact payload (.inl kept)
    · exact ok.payload ref (List.mem_append_right _ weak)
    · exact payload (.inr weak)

theorem listed_owner (wf : s.WellFormed) {ref : Ref} (owned : ref ∈ s.owners) :
    s.store.HasValue ref := by
  rcases mem_owners.mp owned with handle | ⟨message, listed, member⟩ | ⟨e, live, member⟩
  · exact wf.handles ref handle
  · exact (wf.messages message listed).listed ref member
  · exact wf.listed_envelope live (List.mem_append_left _ member)

theorem listed_watcher (wf : s.WellFormed) {ref : Ref} (watched : ref ∈ s.watchers) :
    s.store.HasValue ref := by
  rcases mem_watchers.mp watched with probe | ⟨e, live, member⟩
  · exact wf.probes ref probe
  · exact wf.listed_envelope live (List.mem_append_right _ member)

-- A value that nobody refers to may change in place.
theorem isExclusive_of_new (wf : s.WellFormed) {ref : Ref} (new : ¬ s.store.HasValue ref) :
    s.isExclusive ref := by
  have unowned : ref ∉ s.owners := fun owned => new (wf.listed_owner owned)
  have unwatched : ref ∉ s.watchers := fun watched => new (wf.listed_watcher watched)
  simp [isExclusive, List.count_eq_zero_of_not_mem unowned, unwatched]

end WellFormed

end Session

end Bayeux
