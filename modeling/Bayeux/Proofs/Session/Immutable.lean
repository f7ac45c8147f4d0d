import Bayeux.Proofs.Session.Freezing

set_option autoImplicit false

namespace Bayeux.Session

variable {s start : Session} {e origin : Envelope} {log : List Attempt}

-- The fields hold the same references as others did in a store, and these have the same values.
structure SameFields (store : Store) (fields : Fields) (s : Session) (e : Envelope) : Prop where
  getField : ∀ key, key ≠ FieldName.data → s.getField e key = (s, fields.get? key)
  value : ∀ key ref, fields.get? key = some ref → s.value ref = store.value ref
  stringField : ∀ key, s.store.stringField e.fields key = store.stringField fields key
  mapField : ∀ key, s.store.mapField e.fields key = store.mapField fields key

theorem Carries.sameFields (carries : Carries start origin s log) (live : e ∈ s.liveEnvelopes)
    (taken : e.snapshot = some start.store.nextSnapshot) :
    SameFields start.store origin.fields s e := by
  have fields : e.fields = origin.fields :=
    ((Envelope.core_eq_iff _ _).mp (carries.family e live taken)).1
  have value (key : String) (ref : Ref) (found : origin.fields.get? key = some ref) :
      s.store.value ref = start.store.value ref :=
    carries.values e live taken ref (List.mem_append_left _ (Table.mem_values_of_get? found))
  have bind {α : Type} (view : Json → Option α) (key : String) :
      ((origin.fields.get? key).bind fun ref => view (s.store.value ref)) =
        (origin.fields.get? key).bind fun ref => view (start.store.value ref) := by
    cases found : origin.fields.get? key with
    | none => rfl
    | some ref => simp only [Option.bind_some, value key ref found]
  constructor
  · intro key other
    simp [Session.getField, other, fields]
  · exact value
  · intro key
    rw [Store.stringField, fields]
    exact bind Json.string? key
  · intro key
    rw [Store.mapField, fields]
    exact bind Json.members? key

/-- What is frozen keeps its fields whatever is done later, and every attempt to render it gets what
it was when it was frozen: one attempt for each render until something is stored. -/
theorem frozen_stays (steps later : List Step) {e : Envelope}
    (live : e ∈ (reached steps).liveEnvelopes) (frozen : e.isFrozen) :
    ∃ freezing : Freezing steps, e.snapshot = some freezing.snapshot ∧
      (∀ now ∈ (reached (steps ++ later)).liveEnvelopes,
        now.id = e.id ∨ now.snapshot = e.snapshot →
          SameFields freezing.done.store freezing.origin.fields (reached (steps ++ later)) now) ∧
      freezing.origin.fields.get? FieldName.data = none ∧
      (∀ attempt ∈ (freezing.extend later).attempts,
        attempt.fields = freezing.origin.content freezing.start.store) ∧
      ∀ now ∈ (reached (steps ++ later)).liveEnvelopes, now.snapshot = e.snapshot →
        ∀ form, (freezing.extend later).AsksOnce now form := by
  obtain ⟨freezing, taken⟩ := exists_freezing steps live frozen
  have carries := (freezing.extend later).carries
  refine ⟨freezing, taken, ?_, freezing.origin_wellFormed.apart, fun attempt member => ?_,
    fun now live' same => (freezing.extend later).asksOnce live' (same.trans taken)⟩
  · intro now live' same
    have snapshot : now.snapshot = e.snapshot := by
      rcases same with number | snapshot
      · have wf := reached_wellFormed steps
        have advance := (after_sound wf later).advance
        rw [reached_append] at live'
        obtain ⟨old, oldLive, oldNumber, kept⟩ :=
          advance.by_id now live' (number ▸ wf.ids e live)
        have itself : old = e := wf.unique old oldLive e live (oldNumber.trans number)
        subst itself
        exact ((Envelope.core_eq_iff _ _).mp (kept frozen)).2.2.1
      · exact snapshot
    obtain ⟨getField, value, stringField, mapField⟩ :=
      carries.sameFields live' (snapshot.trans taken)
    rw [freezing.store_done]
    exact ⟨getField, value, stringField, mapField⟩
  · obtain ⟨failures, shape⟩ := carries.log
    rw [shape] at member
    exact fields_of_mem_attemptsOf member

-- The message is edited, an open copy shares its map, and the frozen envelope refuses a write.
def editedRun : List Step :=
  [.newCodec "codec" [] [],
    .newMessage "message" [("data", .null), ("ext", .object [("ack", .bool true)])],
    .envelopeOf "envelope" "message" "codec" 1000 false,
    .copyEnvelope "envelope" 0 "copy",
    .freeze "envelope"]

def editedLater : List Step :=
  [.editMessage "message" (.ext false [.clear]) none,
    .editEnvelope "copy" (.ext false [.delete "ack"]) none,
    .editEnvelope "envelope" (.remove "ext") none,
    .render "envelope" 0 .text]

def editedEnvelope : Envelope :=
  { Envelope.new 0 1000 false ⟨0⟩ with
    fields := [("ext", ⟨1⟩)]
    payload := .null
    snapshot := some ⟨0⟩ }

theorem editedRun_stays :
    (editedEnvelope ∈ (reached editedRun).liveEnvelopes ∧ editedEnvelope.isFrozen) ∧
      editedEnvelope ∈ (reached (editedRun ++ editedLater)).liveEnvelopes ∧
      ∃ freezing : Freezing editedRun, editedEnvelope.snapshot = some freezing.snapshot ∧
        SameFields freezing.done.store freezing.origin.fields (reached (editedRun ++ editedLater))
          editedEnvelope := by
  have live : editedEnvelope ∈ (reached editedRun).liveEnvelopes := by decide +kernel
  have still : editedEnvelope ∈ (reached (editedRun ++ editedLater)).liveEnvelopes := by
    decide +kernel
  obtain ⟨freezing, taken, stays, -⟩ := frozen_stays editedRun editedLater live rfl
  exact ⟨⟨live, rfl⟩, still, freezing, taken, stays editedEnvelope still (.inl rfl)⟩

end Bayeux.Session
