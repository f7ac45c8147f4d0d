import Bayeux.Proofs.Session.WellFormed
import Bayeux.Session.Step

set_option autoImplicit false

namespace Bayeux

namespace Envelope

theorem WellFormed.advance {effect : Effect} {a b : Store} {e : Envelope} (wf : e.WellFormed a)
    (step : Store.Advance effect a b)
    (captured : ∀ id, e.snapshot = some id → e.Captured (b.snapshot id)) : e.WellFormed b :=
  { fields := wf.fields.mono step
    apart := wf.apart
    payload := fun ref member => step.has_value (wf.payload ref member)
    codec := step.has_codec wf.codec
    unfrozen := fun open_ => by
      obtain ⟨watched, notNull⟩ := wf.unfrozen open_
      refine ⟨watched, fun ref member => ?_⟩
      have has := wf.payload ref (by simp [member])
      rw [step.isNull_value has, notNull ref member]
    frozen := fun id taken => by
      obtain ⟨owned, has, -⟩ := wf.frozen id taken
      exact ⟨owned, step.has_snapshot has, captured id taken⟩ }

theorem WellFormed.mono {effect : Effect} {a b : Store} {e : Envelope} (wf : e.WellFormed a)
    (step : Store.Advance effect a b) (calm : ∀ id, ¬ effect.serializes id) : e.WellFormed b :=
  wf.advance step fun id taken => by
    obtain ⟨-, has, captured⟩ := wf.frozen id taken
    exact step.snapshot_same has (calm id) ▸ captured

end Envelope

namespace Session

/-- The second session comes later: a frozen envelope is what it was, and an envelope that has a
snapshot of the first session is a copy of one that was there. -/
structure Advance (effect : Effect) (s t : Session) : Prop where
  store : Store.Advance effect s.store t.store
  nextId : s.nextId ≤ t.nextId
  by_id : ∀ e ∈ t.liveEnvelopes, e.id < s.nextId →
    ∃ old ∈ s.liveEnvelopes, old.id = e.id ∧ (old.isFrozen → e.core = old.core)
  by_snapshot : ∀ e ∈ t.liveEnvelopes, ∀ id, e.snapshot = some id → s.store.HasSnapshot id →
    ∃ old ∈ s.liveEnvelopes, old.snapshot = some id ∧ e.core = old.core

namespace Advance

variable {effect larger : Effect} {s t u : Session}

theorem of_store (store : Store.Advance effect s.store t.store) (envelopes : t.envelopes = s.envelopes)
    (nextId : t.nextId = s.nextId) : Advance effect s t := by
  have live : t.liveEnvelopes = s.liveEnvelopes := by simp [liveEnvelopes, envelopes]
  exact
    { store := store
      nextId := Nat.le_of_eq nextId.symm
      by_id := fun e member _ => ⟨e, live ▸ member, rfl, fun _ => rfl⟩
      by_snapshot := fun e member id taken _ => ⟨e, live ▸ member, taken, rfl⟩ }

theorem refl (effect : Effect) (s : Session) : Advance effect s s :=
  of_store (.refl effect s.store) rfl rfl

theorem weaken (within : effect.Within larger) (step : Advance effect s t) : Advance larger s t :=
  { step with store := step.store.weaken within }

theorem trans (first : Advance effect s t) (second : Advance effect t u) : Advance effect s u :=
  { store := first.store.trans second.store
    nextId := Nat.le_trans first.nextId second.nextId
    by_id := fun e member known => by
      obtain ⟨between, live, same, kept⟩ :=
        second.by_id e member (Nat.lt_of_lt_of_le known first.nextId)
      obtain ⟨old, live', same', kept'⟩ := first.by_id between live (same ▸ known)
      refine ⟨old, live', same'.trans same, fun frozen => ?_⟩
      have core := kept' frozen
      have stillFrozen : between.isFrozen := by
        rw [Envelope.isFrozen, ← Envelope.snapshot_core, core]
        exact frozen
      exact (kept stillFrozen).trans core
    by_snapshot := fun e member id taken has => by
      obtain ⟨between, live, taken', core⟩ :=
        second.by_snapshot e member id taken (first.store.has_snapshot has)
      obtain ⟨old, live', taken'', core'⟩ := first.by_snapshot between live id taken' has
      exact ⟨old, live', taken'', core.trans core'⟩ }

end Advance

structure Sound (effect : Effect) (s t : Session) : Prop where
  wf : t.WellFormed
  advance : Advance effect s t

namespace Sound

variable {effect larger : Effect} {s t u : Session}

theorem refl (effect : Effect) (wf : s.WellFormed) : Sound effect s s := ⟨wf, .refl effect s⟩

theorem weaken (within : effect.Within larger) (step : Sound effect s t) : Sound larger s t :=
  ⟨step.wf, step.advance.weaken within⟩

theorem of_quiet (step : Sound .quiet s t) : Sound effect s t := step.weaken (.of_quiet effect)

theorem trans (first : Sound effect s t) (second : Sound effect t u) : Sound effect s u :=
  ⟨second.wf, first.advance.trans second.advance⟩

end Sound

section Primitives

variable {s : Session} (wf : s.WellFormed)

include wf

theorem advance_sound {effect : Effect} {store : Store} (step : Store.Advance effect s.store store)
    (captured : ∀ e ∈ s.liveEnvelopes, ∀ id, e.snapshot = some id → e.Captured (store.snapshot id)) :
    Sound effect s { s with store } :=
  { wf :=
      { wf with
        handles := fun ref member => step.has_value (wf.handles ref member)
        probes := fun ref member => step.has_value (wf.probes ref member)
        messages := fun message member => (wf.messages message member).mono step
        codecs := fun id member => step.has_codec (wf.codecs id member)
        factories := fun factory member => step.has_codec (wf.factories factory member)
        envelopes := fun e member => (wf.envelopes e member).advance step (captured e member) }
    advance := .of_store step rfl rfl }

theorem store_sound {effect : Effect} {store : Store} (step : Store.Advance effect s.store store)
    (calm : ∀ id, ¬ effect.serializes id) : Sound effect s { s with store } :=
  advance_sound wf step fun e live id taken => by
    obtain ⟨-, has, captured⟩ := (wf.envelopes e live).frozen id taken
    exact step.snapshot_same has (calm id) ▸ captured

theorem quiet_sound {store : Store} (step : Store.Advance .quiet s.store store) :
    Sound .quiet s { s with store } :=
  store_sound wf step fun _ => False.elim

theorem alloc_sound (v : Json) : Sound .quiet s (s.alloc v).1 :=
  quiet_sound wf (s.store.alloc_advance v)

theorem handles_sound {handles : Table Ref} (listed : ∀ ref ∈ handles.values, s.store.HasValue ref) :
    Sound .quiet s { s with handles } :=
  ⟨{ wf with handles := listed }, .of_store (.refl _ _) rfl rfl⟩

theorem insertHandle_sound (name : String) {ref : Ref} (has : s.store.HasValue ref) :
    Sound .quiet s { s with handles := s.handles.insert name ref } :=
  handles_sound wf fun other member => by
    rcases Table.mem_values_insert member with same | old
    · exact same ▸ has
    · exact wf.handles other old

theorem insertProbe_sound (name : String) {ref : Ref} (has : s.store.HasValue ref) :
    Sound .quiet s { s with probes := s.probes.insert name ref } :=
  { wf :=
      { wf with
        probes := fun other member => by
          rcases Table.mem_values_insert member with same | old
          · exact same ▸ has
          · exact wf.probes other old }
    advance := .of_store (.refl _ _) rfl rfl }

theorem messages_sound {messages : Table Message}
    (ok : ∀ message ∈ messages.values, FieldsOk s.store message.fields) :
    Sound .quiet s { s with messages } :=
  ⟨{ wf with messages := ok }, .of_store (.refl _ _) rfl rfl⟩

theorem setMessage_sound (name : String) {message : Message} (ok : FieldsOk s.store message.fields) :
    Sound .quiet s (s.setMessage name message) :=
  messages_sound wf fun other member => by
    rcases Table.mem_values_insert member with same | old
    · exact same ▸ ok
    · exact wf.messages other old

theorem eraseMessage_sound (name : String) :
    Sound .quiet s { s with messages := s.messages.erase name } :=
  messages_sound wf fun other member => wf.messages other (Table.mem_values_erase member)

theorem insertCodec_sound (name : String) {id : CodecId} (has : s.store.HasCodec id) :
    Sound .quiet s { s with codecs := s.codecs.insert name id } :=
  { wf :=
      { wf with
        codecs := fun other member => by
          rcases Table.mem_values_insert member with same | old
          · exact same ▸ has
          · exact wf.codecs other old }
    advance := .of_store (.refl _ _) rfl rfl }

theorem insertFactory_sound (name : String) {factory : Factory} (has : s.store.HasCodec factory.codec) :
    Sound .quiet s { s with factories := s.factories.insert name factory } :=
  { wf :=
      { wf with
        factories := fun other member => by
          rcases Table.mem_values_insert member with same | old
          · exact same ▸ has
          · exact wf.factories other old }
    advance := .of_store (.refl _ _) rfl rfl }

theorem report_sound (level : Log.Level) (message : String) : Sound .quiet s (s.report level message) :=
  ⟨{ wf with }, .of_store (.refl _ _) rfl rfl⟩

end Primitives

section Holders

variable {s : Session} (wf : s.WellFormed) {effect : Effect} {store : Store}
  (step : Store.Advance effect s.store store) (calm : ∀ id, ¬ effect.serializes id)

include wf step calm

theorem snapshot_of_live {e : Envelope} (live : e ∈ s.liveEnvelopes) {id : SnapshotId}
    (taken : e.snapshot = some id) : store.snapshot id = s.store.snapshot id :=
  step.snapshot_same ((wf.envelopes e live).frozen id taken).2.1 (calm id)

theorem held_of_live {e : Envelope} (live : e ∈ s.liveEnvelopes) :
    e.owned store = e.owned s.store ∧ e.watched store = e.watched s.store := by
  cases taken : e.snapshot with
  | none => simp [Envelope.owned, Envelope.watched, taken]
  | some id =>
    have same := snapshot_of_live wf step calm live taken
    simp [Envelope.owned, Envelope.watched, taken, same]

theorem owners_store : { s with store }.owners = s.owners := by
  have same : s.liveEnvelopes.map (·.owned store) = s.liveEnvelopes.map (·.owned s.store) :=
    List.map_congr_left fun e live => (held_of_live wf step calm live).1
  exact congrArg (s.handles.values ++ s.messages.values.flatMap (·.fields.values) ++ ·.flatten) same

theorem watchers_store : { s with store }.watchers = s.watchers := by
  have same : s.liveEnvelopes.map (·.watched store) = s.liveEnvelopes.map (·.watched s.store) :=
    List.map_congr_left fun e live => (held_of_live wf step calm live).2
  exact congrArg (s.probes.values ++ ·.flatten) same

theorem isExclusive_store (ref : Ref) : { s with store }.isExclusive ref = s.isExclusive ref := by
  simp only [isExclusive, owners_store wf step calm, watchers_store wf step calm]

end Holders

end Session

end Bayeux
