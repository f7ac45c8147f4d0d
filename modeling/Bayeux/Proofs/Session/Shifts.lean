import Bayeux.Proofs.Session.Attempts

set_option autoImplicit false

namespace Bayeux

namespace Session

variable {s : Session} {ref : Ref}

theorem owned_by_handle (held : ref ∈ s.handles.values) : ref ∈ s.owners :=
  WellFormed.mem_owners.mpr (.inl held)

theorem owned_by_message {message : Message} (listed : message ∈ s.messages.values)
    (held : ref ∈ message.fields.values) : ref ∈ s.owners :=
  WellFormed.mem_owners.mpr (.inr (.inl ⟨message, listed, held⟩))

theorem owned_by_envelope {e : Envelope} (live : e ∈ s.liveEnvelopes) (held : ref ∈ e.owned s.store) :
    ref ∈ s.owners :=
  WellFormed.mem_owners.mpr (.inr (.inr ⟨e, live, held⟩))

/-- What is held in the first session is held in the second or is `lost`, and nothing that is `dead`
is held anew. -/
structure Shifts (dead lost : Ref → Prop) (s t : Session) : Prop where
  kept : ∀ ref ∈ s.owners, ref ∉ t.owners → lost ref
  old : ∀ ref ∈ t.owners, dead ref → ref ∈ s.owners

variable {dead lost : Ref → Prop} {t u : Session}

namespace Shifts

theorem of_owners_eq (same : t.owners = s.owners) : Shifts dead lost s t :=
  ⟨fun _ owned gone => (gone (same ▸ owned)).elim, fun _ owned _ => same ▸ owned⟩

theorem refl (dead lost : Ref → Prop) (s : Session) : Shifts dead lost s s := of_owners_eq rfl

theorem trans (first : Shifts dead lost s t) (second : Shifts dead lost t u) :
    Shifts dead lost s u := by
  refine ⟨fun ref owned gone => ?_, fun ref owned has => first.old ref (second.old ref owned has) has⟩
  by_cases between : ref ∈ t.owners
  · exact second.kept ref between gone
  · exact first.kept ref owned between

end Shifts

section Tables

theorem handles_shifts {handles : Table Ref}
    (fresh : ∀ ref ∈ handles.values, dead ref → ref ∈ s.owners)
    (dropped : ∀ ref ∈ s.handles.values, ref ∈ handles.values ∨ lost ref) :
    Shifts dead lost s { s with handles } := by
  refine ⟨fun ref owned gone => ?_, fun ref owned has => ?_⟩
  · rcases WellFormed.mem_owners.mp owned with handle | rest
    · exact (dropped ref handle).resolve_left fun kept => gone (owned_by_handle kept)
    · exact (gone (WellFormed.mem_owners.mpr (.inr rest))).elim
  · rcases WellFormed.mem_owners.mp owned with handle | rest
    · exact fresh ref handle has
    · exact WellFormed.mem_owners.mpr (.inr rest)

theorem insertHandle_shifts (name : String) {ref : Ref} (fresh : dead ref → ref ∈ s.owners)
    (dropped : ∀ old, s.handles.get? name = some old → lost old) :
    Shifts dead lost s { s with handles := s.handles.insert name ref } := by
  refine handles_shifts (fun other member has => ?_) fun other held =>
    (Table.mem_values_insert_old name ref held).imp_right (dropped other)
  rcases Table.mem_values_insert member with same | before
  · exact same ▸ fresh (same ▸ has)
  · exact owned_by_handle before

theorem eraseHandle_shifts (name : String)
    (dropped : ∀ old, s.handles.get? name = some old → lost old) :
    Shifts dead lost s { s with handles := s.handles.erase name } :=
  handles_shifts (fun _ member _ => owned_by_handle (Table.mem_values_erase member)) fun other held =>
    (Table.mem_values_erase_old name held).imp_right (dropped other)

theorem messages_shifts {messages : Table Message}
    (fresh : ∀ message ∈ messages.values, ∀ ref ∈ message.fields.values, dead ref → ref ∈ s.owners)
    (dropped : ∀ message ∈ s.messages.values, message ∈ messages.values ∨
      ∀ ref ∈ message.fields.values, ref ∉ { s with messages }.owners → lost ref) :
    Shifts dead lost s { s with messages } := by
  refine ⟨fun ref owned gone => ?_, fun ref owned has => ?_⟩
  · rcases WellFormed.mem_owners.mp owned with handle | ⟨message, listed, held⟩ | ⟨e, live, held⟩
    · exact (gone (owned_by_handle handle)).elim
    · rcases dropped message listed with kept | dropped
      · exact (gone (owned_by_message kept held)).elim
      · exact dropped ref held gone
    · exact (gone (owned_by_envelope live held)).elim
  · rcases WellFormed.mem_owners.mp owned with handle | ⟨message, listed, held⟩ | ⟨e, live, held⟩
    · exact owned_by_handle handle
    · exact fresh message listed ref held has
    · exact owned_by_envelope live held

theorem setMessage_shifts (name : String) {message : Message}
    (fresh : ∀ ref ∈ message.fields.values, dead ref → ref ∈ s.owners)
    (dropped : ∀ old, s.messages.get? name = some old → ∀ ref ∈ old.fields.values,
      ref ∉ (s.setMessage name message).owners → lost ref) :
    Shifts dead lost s (s.setMessage name message) := by
  refine messages_shifts (fun other member ref held has => ?_) fun other listed =>
    (Table.mem_values_insert_old name message listed).imp_right (dropped other)
  rcases Table.mem_values_insert member with same | before
  · exact fresh ref (same ▸ held) has
  · exact owned_by_message before held

theorem eraseMessage_shifts (name : String)
    (dropped : ∀ old, s.messages.get? name = some old → ∀ ref ∈ old.fields.values, lost ref) :
    Shifts dead lost s { s with messages := s.messages.erase name } :=
  messages_shifts (fun _ member _ held _ => owned_by_message (Table.mem_values_erase member) held)
    fun other listed => (Table.mem_values_erase_old name listed).imp_right fun found ref held _ =>
      dropped other found ref held

variable (sorted : s.envelopes.Sorted)

include sorted

theorem envelopes_shifts {envelopes : Table Linked} (name : String)
    (others : ∀ other, other ≠ name → envelopes.get? other = s.envelopes.get? other)
    (sorted' : envelopes.Sorted)
    (fresh : ∀ linked, envelopes.get? name = some linked → ∀ e ∈ linked.all,
      ∀ ref ∈ e.owned s.store, dead ref → ref ∈ s.owners)
    (dropped : ∀ old, s.envelopes.get? name = some old → ∀ e ∈ old.all,
      ∀ ref ∈ e.owned s.store, ref ∉ { s with envelopes }.owners → lost ref) :
    Shifts dead lost s { s with envelopes } := by
  refine ⟨fun ref owned gone => ?_, fun ref owned has => ?_⟩
  · rcases WellFormed.mem_owners.mp owned with handle | ⟨message, listed, held⟩ | ⟨e, live, held⟩
    · exact (gone (owned_by_handle handle)).elim
    · exact (gone (owned_by_message listed held)).elim
    · obtain ⟨other, linked, found, member⟩ := (mem_liveEnvelopes sorted e).mp live
      by_cases same : other = name
      · exact dropped linked (same ▸ found) e member ref held gone
      · have still : { s with envelopes }.envelopes.get? other = some linked :=
          (others other same).trans found
        exact (gone (owned_by_envelope (live_of_get? still member) held)).elim
  · rcases WellFormed.mem_owners.mp owned with handle | ⟨message, listed, held⟩ | ⟨e, live, held⟩
    · exact owned_by_handle handle
    · exact owned_by_message listed held
    · have sorted' : { s with envelopes }.envelopes.Sorted := sorted'
      obtain ⟨other, linked, found, member⟩ := (mem_liveEnvelopes sorted' e).mp live
      by_cases same : other = name
      · exact fresh linked (same ▸ found) e member ref held has
      · exact owned_by_envelope (live_of_get? ((others other same).symm.trans found) member) held

theorem insertEnvelope_shifts (name : String) {linked : Linked}
    (fresh : ∀ e ∈ linked.all, ∀ ref ∈ e.owned s.store, dead ref → ref ∈ s.owners)
    (dropped : ∀ old, s.envelopes.get? name = some old → ∀ e ∈ old.all, ∀ ref ∈ e.owned s.store,
      ref ∉ { s with envelopes := s.envelopes.insert name linked }.owners → lost ref) :
    Shifts dead lost s { s with envelopes := s.envelopes.insert name linked } := by
  refine envelopes_shifts sorted name (fun other differ => Table.get?_insert_of_ne _ _ _ _ differ)
    (sorted.insert name linked) (fun found same => ?_) dropped
  rw [Table.get?_insert_self, Option.some.injEq] at same
  exact same ▸ fresh

theorem eraseEnvelope_shifts (name : String)
    (dropped : ∀ old, s.envelopes.get? name = some old → ∀ e ∈ old.all, ∀ ref ∈ e.owned s.store,
      lost ref) : Shifts dead lost s { s with envelopes := s.envelopes.erase name } := by
  refine envelopes_shifts sorted name (fun other differ => Table.get?_erase_of_ne _ _ _ differ)
    (sorted.erase name) (fun found same => ?_) fun old found e member ref held _ =>
      dropped old found e member ref held
  rw [Table.get?_erase_self sorted] at same
  exact nomatch same

-- The other envelopes under the name stay.
theorem setEnvelope_shifts {name : String} {linked : Linked}
    (found : s.envelopes.get? name = some linked) {e : Envelope}
    (fresh : ∀ ref ∈ e.owned s.store, dead ref → ref ∈ s.owners)
    (dropped : ∀ ref ∈ linked.envelope.owned s.store,
      ref ∉ (s.setEnvelope name linked e).owners → lost ref) :
    Shifts dead lost s (s.setEnvelope name linked e) := by
  refine insertEnvelope_shifts sorted name (fun other member ref held has => ?_)
    fun old found' other member ref held gone => ?_
  · rcases (mem_all _ other).mp member with rfl | chained
    · exact fresh ref held has
    · exact owned_by_envelope (live_of_get? found ((mem_all _ other).mpr (.inr chained))) held
  · rw [found, Option.some.injEq] at found'
    subst found'
    rcases (mem_all _ other).mp member with rfl | chained
    · exact dropped ref held gone
    · have still : (s.setEnvelope name linked e).envelopes.get? name =
          some { linked with envelope := e } := Table.get?_insert_self _ _ _
      have live := live_of_get? still ((mem_all _ other).mpr (.inr chained))
      exact (gone (owned_by_envelope live held)).elim

end Tables

section Stores

variable (wf : s.WellFormed) {effect : Effect} {store : Store}
  (step : Store.Advance effect s.store store)

include wf step

-- A snapshot lets go of its payload when it gets a stored form.
theorem snapshots_shifts (dropped : ∀ e ∈ s.liveEnvelopes, ∀ id, e.snapshot = some id →
      effect.serializes id → (s.store.snapshot id).stored = none → (store.snapshot id).stored.isSome →
      ∀ ref ∈ (s.store.snapshot id).payload.owned, lost ref) :
    Shifts dead lost s { s with store } := by
  have changed (e : Envelope) (live : e ∈ s.liveEnvelopes) (id : SnapshotId)
      (taken : e.snapshot = some id) := step.snapshots id ((wf.envelopes e live).frozen id taken).2.1
  refine ⟨fun ref owned gone => ?_, fun ref owned _ => ?_⟩
  · rcases WellFormed.mem_owners.mp owned with handle | ⟨message, listed, held⟩ | ⟨e, live, held⟩
    · exact (gone (owned_by_handle handle)).elim
    · exact (gone (owned_by_message listed held)).elim
    · have lost' : ref ∉ e.owned store := fun held => gone (owned_by_envelope live held)
      cases taken : e.snapshot with
      | none =>
        simp only [Envelope.owned, taken] at held lost'
        exact (lost' held).elim
      | some id =>
        simp only [Envelope.owned, taken] at held lost'
        rcases changed e live id taken with same | ⟨allowed, bare, stored, after⟩
        · exact (lost' (same ▸ held)).elim
        · refine dropped e live id taken allowed bare (by simp [after, Snapshot.serialized]) ref ?_
          simp only [after, Snapshot.owned, Snapshot.serialized, Slot.owned_downgrade,
            List.append_nil, List.mem_append, not_or] at held lost'
          exact (held.resolve_left (not_or.mpr lost'.1)).resolve_left lost'.2
  · rcases WellFormed.mem_owners.mp owned with handle | ⟨message, listed, held⟩ | ⟨e, live, held⟩
    · exact owned_by_handle handle
    · exact owned_by_message listed held
    · refine owned_by_envelope live ?_
      cases taken : e.snapshot with
      | none => simpa only [Envelope.owned, taken] using held
      | some id =>
        simp only [Envelope.owned, taken] at held ⊢
        rcases changed e live id taken with same | ⟨-, -, stored, after⟩
        · exact same ▸ held
        · simp only [after, Snapshot.owned, Snapshot.serialized, Slot.owned_downgrade,
            List.append_nil, List.mem_append] at held ⊢
          exact held.imp_right .inl

theorem store_shifts (calm : ∀ id, ¬ effect.serializes id) : Shifts dead lost s { s with store } :=
  .of_owners_eq (owners_store wf step calm)

end Stores

end Session

end Bayeux
