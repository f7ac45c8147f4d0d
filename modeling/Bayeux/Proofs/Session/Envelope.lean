import Bayeux.Proofs.Session.Advance

set_option autoImplicit false

namespace Bayeux

variable {store : Store} {e : Envelope}

theorem Store.slotOf_listed {ref other : Ref} (has : store.HasValue ref)
    (member : other ∈ (store.slotOf ref).owned ++ (store.slotOf ref).watched) :
    store.HasValue other := by
  unfold Store.slotOf at member
  split at member
  · simp [Slot.owned, Slot.watched] at member
  · simp only [Slot.owned, Slot.watched, List.append_nil, List.mem_singleton] at member
    exact member ▸ has

theorem Store.slotOf_open (ref : Ref) : (store.slotOf ref).watched = [] ∧
    ∀ other ∈ (store.slotOf ref).owned, (store.value other).isNull = false := by
  unfold Store.slotOf
  split
  · simp [Slot.owned, Slot.watched]
  next notNull =>
    simp only [Slot.owned, Slot.watched, List.mem_singleton, forall_eq, true_and]
    simpa using notNull

namespace Envelope

theorem livePayload_owned {ref : Ref} (found : e.livePayload = some ref) : ref ∈ e.payload.owned := by
  cases payload : e.payload <;> simp_all [livePayload, Slot.upgrade, Slot.owned]

namespace WellFormed

theorem rewrite (wf : e.WellFormed store) (unfrozen : e.snapshot = none) {fields : Fields}
    {payload : Slot} (ok : FieldsOk store fields) (apart : fields.get? FieldName.data = none)
    (listed : ∀ ref ∈ payload.owned ++ payload.watched, store.HasValue ref)
    (open_ : payload.watched = [] ∧ ∀ ref ∈ payload.owned, (store.value ref).isNull = false) :
    { e with fields, payload }.WellFormed store :=
  { fields := ok
    apart := apart
    payload := listed
    codec := wf.codec
    unfrozen := fun _ => open_
    frozen := fun id taken => by simp [unfrozen] at taken }

theorem setFields (wf : e.WellFormed store) (unfrozen : e.snapshot = none) {fields : Fields}
    (ok : FieldsOk store fields) (apart : fields.get? FieldName.data = none) :
    { e with fields }.WellFormed store :=
  wf.rewrite unfrozen ok apart wf.payload (wf.unfrozen unfrozen)

theorem setPayload (wf : e.WellFormed store) (unfrozen : e.snapshot = none) {payload : Slot}
    (listed : ∀ ref ∈ payload.owned ++ payload.watched, store.HasValue ref)
    (open_ : payload.watched = [] ∧ ∀ ref ∈ payload.owned, (store.value ref).isNull = false) :
    { e with payload }.WellFormed store :=
  wf.rewrite unfrozen wf.fields wf.apart listed open_

end WellFormed

theorem new_wellFormed (id : Nat) (threshold : UInt64) (ignoreNull : Bool) {codec : CodecId}
    (has : store.HasCodec codec) : (new id threshold ignoreNull codec).WellFormed store :=
  { fields := ⟨Table.sorted_nil, by simp [new, Table.values]⟩
    apart := rfl
    payload := by simp [new, Slot.owned, Slot.watched]
    codec := has
    unfrozen := fun _ => by simp [new, Slot.owned, Slot.watched]
    frozen := fun _ taken => by simp [new] at taken }

theorem ofMessage_wellFormed (id : Nat) {message : Message} (ok : FieldsOk store message.fields)
    (threshold : UInt64) (ignoreNull : Bool) {codec : CodecId} (has : store.HasCodec codec) :
    (ofMessage store id message threshold ignoreNull codec).WellFormed store := by
  apply (new_wellFormed id threshold ignoreNull has).rewrite rfl (ok.erase _)
    (Table.get?_erase_self ok.sorted _)
  · intro ref member
    split at member
    next found => exact Store.slotOf_listed (ok.get? found) member
    next => simp [Slot.owned, Slot.watched] at member
  · split
    · exact Store.slotOf_open _
    · simp [Slot.owned, Slot.watched]

structure Rewrites (store : Store) (e after : Envelope) (old : Option Ref) : Prop where
  wf : after.WellFormed store
  number : after.id = e.id
  unfrozen : after.snapshot = none
  old : ∀ ref, old = some ref → store.HasValue ref

theorem put_rewrites (wf : e.WellFormed store) (unfrozen : e.snapshot = none) (key : String) {ref : Ref}
    (has : store.HasValue ref) :
    ∃ after old, e.put store key ref = .ok (after, old) ∧ e.Rewrites store after old := by
  have open_ : e.isFrozen = false := (e.isFrozen_eq_false_iff).mpr unfrozen
  simp only [put, open_, Bool.false_eq_true, if_false]
  split
  · refine ⟨_, _, rfl, wf.setPayload unfrozen (fun _ => Store.slotOf_listed has)
      (Store.slotOf_open ref), rfl, unfrozen, ?_⟩
    intro other found
    exact wf.payload other (List.mem_append_left _ (livePayload_owned found))
  next other =>
    refine ⟨_, _, rfl, wf.setFields unfrozen (wf.fields.insert key has) ?_, rfl, unfrozen, ?_⟩
    · rw [Table.get?_insert_of_ne _ _ _ _ (Ne.symm other)]
      exact wf.apart
    · exact fun ref found => wf.fields.get? found

theorem remove_rewrites (wf : e.WellFormed store) (unfrozen : e.snapshot = none) (key : String) :
    ∃ after old, e.remove key = .ok (after, old) ∧ e.Rewrites store after old := by
  have open_ : e.isFrozen = false := (e.isFrozen_eq_false_iff).mpr unfrozen
  simp only [remove, open_, Bool.false_eq_true, if_false]
  split
  · refine ⟨_, _, rfl, wf.setPayload unfrozen (by simp [Slot.owned, Slot.watched])
      (by simp [Slot.owned, Slot.watched]), rfl, unfrozen, ?_⟩
    intro other found
    exact wf.payload other (List.mem_append_left _ (livePayload_owned found))
  next other =>
    refine ⟨_, _, rfl, wf.setFields unfrozen (wf.fields.erase key) ?_, rfl, unfrozen, ?_⟩
    · rw [Table.get?_erase_of_ne _ _ _ (Ne.symm other)]
      exact wf.apart
    · exact fun ref found => wf.fields.get? found

def sealed (e : Envelope) (id : SnapshotId) : Envelope :=
  { e with payload := e.payload.downgrade, snapshot := some id }

def capture (e : Envelope) : Snapshot := ⟨e.fields, e.frozenPayload, none⟩

theorem freeze_eq (unfrozen : e.snapshot = none) : e.freeze store =
    ((store.addSnapshot e.capture).1, e.sealed store.nextSnapshot) := by
  simp [freeze, isFrozen, unfrozen, Store.addSnapshot, sealed, capture, Store.nextSnapshot]

theorem sealed_captured (e : Envelope) (id : SnapshotId) (open_ : e.payload.watched = []) :
    (e.sealed id).Captured e.capture :=
  { fields := rfl
    payload := by
      cases payload : e.payload <;> cases ignored : e.ignoreNull <;>
        simp [capture, sealed, frozenPayload, payload, ignored, Slot.downgrade]
    held := fun _ => by simpa [capture] using open_
    released := fun _ done => by simp [capture] at done
    form := fun _ done => by simp [capture] at done }

theorem sealed_wellFormed (wf : e.WellFormed store) (unfrozen : e.snapshot = none) :
    (e.sealed store.nextSnapshot).WellFormed (store.addSnapshot e.capture).1 :=
  { fields := wf.fields.mono (store.addSnapshot_advance _)
    apart := wf.apart
    payload := fun ref member => by
      simp only [sealed, Slot.owned_downgrade, Slot.watched_downgrade, List.nil_append] at member
      exact wf.payload ref member
    codec := wf.codec
    unfrozen := fun open_ => by simp [sealed] at open_
    frozen := fun id taken => by
      have same : store.nextSnapshot = id := Option.some.inj taken
      subst same
      refine ⟨Slot.owned_downgrade _,
        by simp [Store.HasSnapshot, Store.nextSnapshot, Store.addSnapshot], ?_⟩
      rw [store.snapshot_addSnapshot_self]
      exact e.sealed_captured _ (wf.unfrozen unfrozen).1 }

end Envelope

end Bayeux
