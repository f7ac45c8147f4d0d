import Bayeux.Store.Basic

set_option autoImplicit false

namespace Bayeux

namespace Store

def HasValue (store : Store) (ref : Ref) : Prop := ref.index < store.values.size

def HasSnapshot (store : Store) (id : SnapshotId) : Prop := id.index < store.snapshots.size

def HasCodec (store : Store) (id : CodecId) : Prop := id.index < store.codecs.size

-- The identifier that the next snapshot gets.
def nextSnapshot (store : Store) : SnapshotId := ⟨store.snapshots.size⟩

end Store

-- What may happen to a store besides that something is added to it.
structure Effect where
  edits : Ref → Prop
  serializes : SnapshotId → Prop
  generates : Prop
  freezes : Prop

namespace Effect

def quiet : Effect := ⟨fun _ => False, fun _ => False, False, False⟩

def any : Effect := ⟨fun _ => True, fun _ => True, True, True⟩

structure Within (small large : Effect) : Prop where
  edits : ∀ ref, small.edits ref → large.edits ref
  serializes : ∀ id, small.serializes id → large.serializes id
  generates : small.generates → large.generates
  freezes : small.freezes → large.freezes

theorem Within.of_quiet (effect : Effect) : quiet.Within effect :=
  ⟨fun _ => False.elim, fun _ => False.elim, False.elim, False.elim⟩

theorem Within.to_any (effect : Effect) : effect.Within any :=
  ⟨fun _ _ => trivial, fun _ _ => trivial, fun _ => trivial, fun _ => trivial⟩

end Effect

namespace Store

/-- What is in the first store is in the second, and has changed at most as the effect allows. -/
structure Advance (effect : Effect) (a b : Store) : Prop where
  values_size : a.values.size ≤ b.values.size
  codecs_size : a.codecs.size ≤ b.codecs.size
  snapshots_size : a.snapshots.size ≤ b.snapshots.size
  snapshots_new : a.snapshots.size < b.snapshots.size → effect.freezes
  values : ∀ ref, a.HasValue ref → b.value ref = a.value ref ∨
    (effect.edits ref ∧ (a.value ref).isObject ∧ (b.value ref).isObject)
  snapshots : ∀ id, a.HasSnapshot id → b.snapshot id = a.snapshot id ∨
    (effect.serializes id ∧ (a.snapshot id).stored = none ∧
      ∃ stored, b.snapshot id = (a.snapshot id).serialized stored)
  codecs : ∀ id, a.HasCodec id → (b.codec id).behavior = (a.codec id).behavior ∧
    ∃ calls, (b.codec id).calls = calls ++ (a.codec id).calls ∧
      (¬ effect.generates → ∀ call ∈ calls, call.isGenerate = false)

namespace Advance

variable {effect larger : Effect} {a b c : Store}

theorem refl (effect : Effect) (a : Store) : Advance effect a a :=
  { values_size := Nat.le_refl _
    codecs_size := Nat.le_refl _
    snapshots_size := Nat.le_refl _
    snapshots_new := fun more => absurd more (Nat.lt_irrefl _)
    values := fun _ _ => .inl rfl
    snapshots := fun _ _ => .inl rfl
    codecs := fun _ _ => ⟨rfl, [], rfl, by simp⟩ }

theorem weaken (within : effect.Within larger) (step : Advance effect a b) : Advance larger a b :=
  { values_size := step.values_size
    codecs_size := step.codecs_size
    snapshots_size := step.snapshots_size
    snapshots_new := fun more => within.freezes (step.snapshots_new more)
    values := fun ref has => (step.values ref has).imp_right fun ⟨edited, objects⟩ =>
      ⟨within.edits ref edited, objects⟩
    snapshots := fun id has => (step.snapshots id has).imp_right fun ⟨done, rest⟩ =>
      ⟨within.serializes id done, rest⟩
    codecs := fun id has =>
      let ⟨same, calls, grown, silent⟩ := step.codecs id has
      ⟨same, calls, grown, fun mute => silent fun loud => mute (within.generates loud)⟩ }

theorem has_value (step : Advance effect a b) {ref : Ref} (has : a.HasValue ref) : b.HasValue ref :=
  Nat.lt_of_lt_of_le has step.values_size

theorem has_snapshot (step : Advance effect a b) {id : SnapshotId} (has : a.HasSnapshot id) :
    b.HasSnapshot id :=
  Nat.lt_of_lt_of_le has step.snapshots_size

theorem has_codec (step : Advance effect a b) {id : CodecId} (has : a.HasCodec id) : b.HasCodec id :=
  Nat.lt_of_lt_of_le has step.codecs_size

theorem values_trans (first : Advance effect a b) (second : Advance effect b c) (ref : Ref)
    (has : a.HasValue ref) : c.value ref = a.value ref ∨
      (effect.edits ref ∧ (a.value ref).isObject ∧ (c.value ref).isObject) := by
  rcases first.values ref has with same | ⟨edited, before, between⟩ <;>
    rcases second.values ref (first.has_value has) with still | ⟨edited', between', after⟩
  · exact .inl (still.trans same)
  · exact .inr ⟨edited', same ▸ between', after⟩
  · exact .inr ⟨edited, before, still ▸ between⟩
  · exact .inr ⟨edited, before, after⟩

theorem snapshots_trans (first : Advance effect a b) (second : Advance effect b c)
    (id : SnapshotId) (has : a.HasSnapshot id) : c.snapshot id = a.snapshot id ∨
      (effect.serializes id ∧ (a.snapshot id).stored = none ∧
        ∃ stored, c.snapshot id = (a.snapshot id).serialized stored) := by
  rcases first.snapshots id has with same | ⟨done, bare, stored, here⟩ <;>
    rcases second.snapshots id (first.has_snapshot has) with still | ⟨done', bare', stored', there⟩
  · exact .inl (still.trans same)
  · exact .inr ⟨done', same ▸ bare', stored', same ▸ there⟩
  · exact .inr ⟨done, bare, stored, still.trans here⟩
  · rw [here] at bare'
    simp [Snapshot.serialized] at bare'

theorem codecs_trans (first : Advance effect a b) (second : Advance effect b c) (id : CodecId)
    (has : a.HasCodec id) : (c.codec id).behavior = (a.codec id).behavior ∧
      ∃ calls, (c.codec id).calls = calls ++ (a.codec id).calls ∧
        (¬ effect.generates → ∀ call ∈ calls, call.isGenerate = false) := by
  obtain ⟨same, calls, grown, silent⟩ := first.codecs id has
  obtain ⟨same', calls', grown', silent'⟩ := second.codecs id (first.has_codec has)
  refine ⟨same'.trans same, calls' ++ calls, ?_, ?_⟩
  · rw [grown', grown, List.append_assoc]
  · intro mute call member
    rcases List.mem_append.mp member with late | early
    · exact silent' mute call late
    · exact silent mute call early

theorem trans (first : Advance effect a b) (second : Advance effect b c) : Advance effect a c :=
  { values_size := Nat.le_trans first.values_size second.values_size
    codecs_size := Nat.le_trans first.codecs_size second.codecs_size
    snapshots_size := Nat.le_trans first.snapshots_size second.snapshots_size
    snapshots_new := fun more => by
      by_cases early : a.snapshots.size < b.snapshots.size
      · exact first.snapshots_new early
      · exact second.snapshots_new (by omega)
    values := values_trans first second
    snapshots := snapshots_trans first second
    codecs := codecs_trans first second }

theorem value_quiet (step : Advance .quiet a b) {ref : Ref} (has : a.HasValue ref) :
    b.value ref = a.value ref :=
  (step.values ref has).resolve_right fun changed => changed.1

theorem snapshot_same (step : Advance effect a b) {id : SnapshotId} (has : a.HasSnapshot id)
    (unchanged : ¬ effect.serializes id) : b.snapshot id = a.snapshot id :=
  (step.snapshots id has).resolve_right fun changed => unchanged changed.1

theorem isNull_value (step : Advance effect a b) {ref : Ref} (has : a.HasValue ref) :
    (b.value ref).isNull = (a.value ref).isNull := by
  rcases step.values ref has with same | ⟨_, before, after⟩
  · rw [same]
  · have notNull (v : Json) (object : v.isObject) : v.isNull = false := by
      cases v <;> simp_all [Json.isObject, Json.isNull]
    rw [notNull _ before, notNull _ after]

end Advance

end Store

end Bayeux
