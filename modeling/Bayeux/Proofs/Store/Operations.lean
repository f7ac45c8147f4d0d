import Bayeux.Message.Basic
import Bayeux.Proofs.Gzip.RoundTrip
import Bayeux.Proofs.Store.Advance

set_option autoImplicit false

namespace Bayeux.Stored

variable (text : String) (threshold : Nat)

-- Compressed or not, the text and its bytes can be had from the stored form.
@[simp] theorem text_ofText : (ofText text threshold).text = .ok text := by
  unfold ofText
  split
  · exact Codec.gunzipText_compress text
  · rfl

@[simp] theorem bytes_ofText : (ofText text threshold).bytes = .ok text.toUTF8 := by
  unfold ofText
  split
  · exact Codec.gunzip_compress _
  · rfl

@[simp] theorem isZipped_ofText :
    (ofText text threshold).isZipped = decide (threshold < text.utf8ByteSize) := by
  unfold ofText
  split <;> simp_all [isZipped]

end Bayeux.Stored

namespace Bayeux.Store

variable (store : Store)

theorem value_alloc {ref : Ref} (has : store.HasValue ref) (v : Json) :
    (store.alloc v).1.value ref = store.value ref := by
  have old : ref.index < store.values.size := has
  simp [alloc, value, Array.getElem?_push, Nat.ne_of_lt old]

@[simp] theorem value_alloc_self (v : Json) : (store.alloc v).1.value (store.alloc v).2 = v := by
  simp [alloc, value]

theorem has_value_alloc (v : Json) : (store.alloc v).1.HasValue (store.alloc v).2 := by
  simp [alloc, HasValue]

theorem alloc_new (v : Json) : ¬ store.HasValue (store.alloc v).2 := by
  simp [alloc, HasValue]

theorem alloc_advance (v : Json) : Advance .quiet store (store.alloc v).1 :=
  { Advance.refl .quiet store with
    values_size := by simp [alloc]
    values := fun _ has => .inl (store.value_alloc has v) }

@[simp] theorem value_setValue_self {ref : Ref} (has : store.HasValue ref) (v : Json) :
    (store.setValue ref v).value ref = v := by
  have inside : ref.index < store.values.size := has
  simp [setValue, value, inside]

theorem value_setValue_of_ne {ref other : Ref} (differ : other ≠ ref) (v : Json) :
    (store.setValue ref v).value other = store.value other := by
  have apart : ref.index ≠ other.index := by
    intro same
    cases ref
    cases other
    simp_all
  simp [setValue, value, apart]

theorem setValue_advance {ref : Ref} {v : Json} (has : store.HasValue ref)
    (before : (store.value ref).isObject) (after : v.isObject) :
    Advance { Effect.quiet with edits := (· = ref) } store (store.setValue ref v) :=
  { Advance.refl _ store with
    values_size := by simp [setValue]
    values := fun other _ => by
      by_cases same : other = ref
      · subst same
        rw [value_setValue_self store has]
        exact .inr ⟨rfl, before, after⟩
      · exact .inl (store.value_setValue_of_ne same v) }

theorem snapshot_addSnapshot {id : SnapshotId} (has : store.HasSnapshot id) (snapshot : Snapshot) :
    (store.addSnapshot snapshot).1.snapshot id = store.snapshot id := by
  have old : id.index < store.snapshots.size := has
  simp [addSnapshot, Store.snapshot, Array.getElem?_push, Nat.ne_of_lt old]

@[simp] theorem snapshot_addSnapshot_self (snapshot : Snapshot) :
    (store.addSnapshot snapshot).1.snapshot store.nextSnapshot = snapshot := by
  simp [addSnapshot, Store.snapshot, nextSnapshot]

theorem addSnapshot_advance (snapshot : Snapshot) :
    Advance { Effect.quiet with freezes := True } store (store.addSnapshot snapshot).1 :=
  { Advance.refl _ store with
    snapshots_size := by simp [addSnapshot]
    snapshots_new := fun _ => trivial
    snapshots := fun _ has => .inl (store.snapshot_addSnapshot has snapshot) }

@[simp] theorem snapshot_setSnapshot_self {id : SnapshotId} (has : store.HasSnapshot id)
    (snapshot : Snapshot) : (store.setSnapshot id snapshot).snapshot id = snapshot := by
  have inside : id.index < store.snapshots.size := has
  simp [setSnapshot, Store.snapshot, inside]

theorem snapshot_setSnapshot_of_ne {id other : SnapshotId} (differ : other ≠ id)
    (snapshot : Snapshot) : (store.setSnapshot id snapshot).snapshot other = store.snapshot other := by
  have apart : id.index ≠ other.index := by
    intro same
    cases id
    cases other
    simp_all
  simp [setSnapshot, Store.snapshot, apart]

theorem setSnapshot_advance {id : SnapshotId} (has : store.HasSnapshot id)
    (bare : (store.snapshot id).stored = none) (stored : Stored) :
    Advance { Effect.quiet with serializes := (· = id) } store
      (store.setSnapshot id ((store.snapshot id).serialized stored)) :=
  { Advance.refl _ store with
    snapshots_size := by simp [setSnapshot]
    snapshots_new := fun more => by simp [setSnapshot] at more
    snapshots := fun other _ => by
      by_cases same : other = id
      · subst same
        rw [snapshot_setSnapshot_self store has]
        exact .inr ⟨rfl, bare, stored, rfl⟩
      · exact .inl (store.snapshot_setSnapshot_of_ne same _) }

theorem codec_setCodec_self {id : CodecId} (has : store.HasCodec id) (codec : LiveCodec) :
    (store.setCodec id codec).codec id = codec := by
  have inside : id.index < store.codecs.size := has
  simp [setCodec, Store.codec, inside]

theorem codec_setCodec_of_ne {id other : CodecId} (differ : other ≠ id) (codec : LiveCodec) :
    (store.setCodec id codec).codec other = store.codec other := by
  have apart : id.index ≠ other.index := by
    intro same
    cases id
    cases other
    simp_all
  simp [setCodec, Store.codec, apart]

theorem setCodec_advance {effect : Effect} {id : CodecId} (has : store.HasCodec id)
    (call : CodecCall) (allowed : call.isGenerate → effect.generates) :
    Advance effect store (store.setCodec id
      { store.codec id with calls := call :: (store.codec id).calls }) :=
  { Advance.refl _ store with
    codecs_size := by simp [setCodec]
    codecs := fun other _ => by
      by_cases same : other = id
      · subst same
        rw [codec_setCodec_self store has]
        refine ⟨rfl, [call], rfl, ?_⟩
        intro mute other member
        rw [List.mem_singleton.mp member]
        cases loud : call.isGenerate with
        | false => rfl
        | true => exact absurd (allowed loud) mute
      · rw [store.codec_setCodec_of_ne same]
        exact ⟨rfl, [], rfl, by simp⟩ }

theorem generate_advance {id : CodecId} (has : store.HasCodec id) (fields : JsonMap) :
    Advance { Effect.quiet with generates := True } store (store.generate id fields).1 :=
  store.setCodec_advance has _ fun _ => trivial

theorem parse_advance {id : CodecId} (has : store.HasCodec id) (text : String) :
    Advance .quiet store (store.parse id text).1 :=
  store.setCodec_advance has _ fun loud => absurd loud (by simp [CodecCall.isGenerate])

theorem addCodec_advance (codec : LiveCodec) : Advance .quiet store (store.addCodec codec).1 :=
  { Advance.refl _ store with
    codecs_size := by simp [addCodec]
    codecs := fun id has => by
      have old : id.index < store.codecs.size := has
      have same : (store.addCodec codec).1.codec id = store.codec id := by
        simp [addCodec, Store.codec, Array.getElem?_push, Nat.ne_of_lt old]
      rw [same]
      exact ⟨rfl, [], rfl, by simp⟩ }

end Bayeux.Store
