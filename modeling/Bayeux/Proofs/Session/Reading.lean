import Bayeux.Proofs.Session.Freezing

set_option autoImplicit false

namespace Bayeux

-- The payload in what a codec has read: none where it is missing or null.
def payloadIn? (answer : Except CodecError JsonMap) : Option Json :=
  (answer.toOption.bind (·.get? FieldName.data)).filter (!·.isNull)

namespace Session

-- The codec is called once, to parse the text, and the payload in its answer is a fresh value.
structure ReadBack (s : Session) (codec : CodecId) (text : String)
    (result : Session × Option Ref) : Prop where
  call : ∃ answer, (result.1.store.codec codec).calls =
    .parse text answer :: (s.store.codec codec).calls ∧
      result.2.map result.1.value = payloadIn? answer
  others : ∀ other, other ≠ codec → result.1.store.codec other = s.store.codec other
  fresh : ∀ ref, result.2 = some ref → ¬ s.store.HasValue ref

variable {s start : Session} {e origin : Envelope} {log : List Attempt}

section Reread

variable {codec : CodecId} {stored : Stored} {text : String} (readable : stored.text = .ok text)

include readable

theorem reread_codec (other : CodecId) :
    (s.reread codec stored).1.store.codec other = (s.store.parse codec text).1.codec other := by
  unfold reread
  rw [readable]
  dsimp only
  repeat' split
  all_goals rfl

theorem reread_value : (s.reread codec stored).2.map (s.reread codec stored).1.value =
    payloadIn? (s.store.parse codec text).2 := by
  unfold reread
  rw [readable]
  dsimp only
  split
  next error failed => simp [payloadIn?, failed, Except.toOption]
  next members found =>
    split
    next missing => simp [payloadIn?, found, missing, Except.toOption]
    next v present =>
      split
      next null => simp [payloadIn?, found, present, null, Except.toOption, Option.filter]
      next notNull =>
        simp [payloadIn?, found, present, notNull, Except.toOption, Option.filter, alloc, Session.value]

theorem reread_fresh {ref : Ref} (found : (s.reread codec stored).2 = some ref) :
    ¬ s.store.HasValue ref := by
  revert found
  unfold reread
  rw [readable]
  dsimp only
  split
  · simp
  · split
    · simp
    next v _ =>
      split
      · simp
      · intro same
        rw [← Option.some.inj same]
        exact Store.alloc_new (s.store.parse codec text).1 v

theorem reread_correct (has : s.store.HasCodec codec) :
    s.ReadBack codec text (s.reread codec stored) := by
  refine ⟨⟨(s.store.parse codec text).2, ?_, reread_value readable⟩, fun other differ => ?_,
    fun ref => reread_fresh readable⟩
  · rw [reread_codec readable]
    simp only [Store.parse, s.store.codec_setCodec_self has]
    rfl
  · rw [reread_codec readable]
    exact s.store.codec_setCodec_of_ne differ _

end Reread

namespace Carries

variable (carries : Carries start origin s log)
  (taken : e.snapshot = some start.store.nextSnapshot)

include carries taken

-- Before an attempt succeeds the snapshot keeps the payload alive.
theorem alive (live : e ∈ s.liveEnvelopes) {ref : Ref} (payload : origin.payload = .live ref)
    (pending : rendering? log = none) : s.isAlive ref := by
  have owned : ref ∈ e.owned s.store := by
    simp [Envelope.owned, taken, carries.snapshot, pending, Envelope.snapshotAfter, Envelope.capture,
      Snapshot.owned, Envelope.frozenPayload, payload, Slot.owned]
  have owner : ref ∈ s.owners := WellFormed.mem_owners.mpr (.inr (.inr ⟨e, live, owned⟩))
  simpa [isAlive] using owner

theorem payload_alive {ref : Ref} (payload : origin.payload = .live ref) (alive : s.isAlive ref) :
    s.payload e = (s, some ref) := by
  have upgraded : (s.store.snapshot start.store.nextSnapshot).payload.upgrade s.isAlive = some ref := by
    rw [carries.snapshot]
    cases rendering? log <;>
      simp [Envelope.snapshotAfter, Envelope.capture, Envelope.frozenPayload, payload,
        Snapshot.serialized, Slot.downgrade, Slot.upgrade, alive]
  simp only [Session.payload, taken, upgraded]

theorem payload_pending (payload : origin.payload = .absent ∨ origin.payload = .null)
    (pending : rendering? log = none) : s.payload e = (s, none) := by
  have upgraded : (s.store.snapshot start.store.nextSnapshot).payload.upgrade s.isAlive = none := by
    rw [carries.snapshot, pending]
    rcases payload with payload | payload <;> cases ignored : origin.ignoreNull <;>
      simp [Envelope.snapshotAfter, Envelope.capture, Envelope.frozenPayload, payload, ignored,
        Slot.upgrade]
  simp only [Session.payload, taken, upgraded, carries.stored, pending, Option.map_none]

-- Nothing is left but the text.
theorem payload_dead {text : String} (done : rendering? log = some text)
    (lost : ∀ ref ∈ origin.payload.owned, s.isAlive ref = false) :
    s.payload e = s.reread e.codec (Stored.ofText text origin.threshold.toNat) := by
  have upgraded : (s.store.snapshot start.store.nextSnapshot).payload.upgrade s.isAlive = none := by
    rw [carries.snapshot, done]
    cases payload : origin.payload with
    | absent | null =>
      cases ignored : origin.ignoreNull <;>
        simp [Envelope.snapshotAfter, Envelope.capture, Envelope.frozenPayload, payload, ignored,
          Snapshot.serialized, Slot.downgrade, Slot.upgrade]
    | live ref =>
      have dead : s.isAlive ref = false := lost ref (by simp [payload, Slot.owned])
      simp [Envelope.snapshotAfter, Envelope.capture, Envelope.frozenPayload, payload,
        Snapshot.serialized, Slot.downgrade, Slot.upgrade, dead]
    | weak ref =>
      have open_ := carries.open_
      simp [payload, Slot.watched] at open_
  simp only [Session.payload, taken, upgraded, carries.stored, done, Option.map_some]

theorem payload_readBack (wf : s.WellFormed) (live : e ∈ s.liveEnvelopes) {text : String}
    (done : rendering? log = some text)
    (lost : ∀ ref ∈ origin.payload.owned, s.isAlive ref = false) :
    s.ReadBack e.codec text (s.payload e) := by
  rw [carries.payload_dead taken done lost]
  exact reread_correct (Stored.text_ofText text _) (wf.envelopes e live).codec

end Carries

/-- A frozen payload is read as the identical value while something keeps it alive, and until an
attempt to render the snapshot succeeds the snapshot does. After that it is read back from the text. -/
theorem frozen_payload (steps : List Step) {e : Envelope} (live : e ∈ (reached steps).liveEnvelopes)
    (frozen : e.isFrozen) :
    let s := reached steps
    ∃ freezing : Freezing steps, e.snapshot = some freezing.snapshot ∧
      s.getField e FieldName.data = s.payload e ∧
      match freezing.origin.payload with
      | .live ref =>
        (freezing.start.value ref).isNull = false ∧
        (rendering? freezing.attempts = none → s.isAlive ref) ∧
        (s.isAlive ref → s.payload e = (s, some ref) ∧ s.value ref = freezing.start.value ref) ∧
        (s.isAlive ref = false → ∃ text, rendering? freezing.attempts = some text ∧
          e.isSerialized s.store ∧ s.json e = (s, .ok text) ∧ s.ReadBack e.codec text (s.payload e))
      | .absent | .null =>
        (rendering? freezing.attempts = none → s.payload e = (s, none)) ∧
        ∀ text, rendering? freezing.attempts = some text →
          e.isSerialized s.store ∧ s.json e = (s, .ok text) ∧ s.ReadBack e.codec text (s.payload e)
      | .weak _ => False := by
  intro s
  obtain ⟨freezing, taken⟩ := exists_freezing steps live frozen
  have carries := freezing.carries
  have wf := reached_wellFormed steps
  have origin := freezing.origin_wellFormed
  have notNull := (origin.unfrozen freezing.origin_open).2
  have serialized (text : String) (done : rendering? freezing.attempts = some text) :
      e.isSerialized s.store ∧ s.json e = (s, .ok text) :=
    carries.json_done taken done
  refine ⟨freezing, taken, by simp [getField], ?_⟩
  cases payload : freezing.origin.payload with
  | live ref =>
    have owned : ref ∈ freezing.origin.payload.owned := by simp [payload, Slot.owned]
    refine ⟨notNull ref owned, carries.alive taken live payload, fun alive => ⟨?_, ?_⟩, fun dead => ?_⟩
    · exact carries.payload_alive taken payload alive
    · exact carries.values e live taken ref (List.mem_append_right _ owned)
    · cases done : rendering? freezing.attempts with
      | none =>
        rw [carries.alive taken live payload done] at dead
        exact absurd dead.symm Bool.false_ne_true
      | some text =>
        obtain ⟨isSerialized, json⟩ := serialized text done
        refine ⟨text, rfl, isSerialized, json, carries.payload_readBack taken wf live done ?_⟩
        simpa [payload, Slot.owned] using dead
  | absent | null =>
    have slot : freezing.origin.payload = .absent ∨ freezing.origin.payload = .null := by simp [payload]
    refine ⟨carries.payload_pending taken slot, fun text done => ?_⟩
    obtain ⟨isSerialized, json⟩ := serialized text done
    refine ⟨isSerialized, json, carries.payload_readBack taken wf live done ?_⟩
    simp [payload, Slot.owned]
  | weak ref =>
    have open_ := carries.open_
    simp [payload, Slot.watched] at open_

def droppedRun : List Step :=
  frozenRun ++ [.render "envelope" 0 .text, .render "envelope" 0 .bytes, .dropMessage "message"]

theorem droppedRun_payload :
    let s := reached droppedRun
    (frozenEnvelope ∈ s.liveEnvelopes ∧ frozenEnvelope.isFrozen) ∧
      s.isAlive ⟨0⟩ = false ∧ (s.payload frozenEnvelope).2 = some ⟨2⟩ ∧
      ∃ freezing : Freezing droppedRun, frozenEnvelope.snapshot = some freezing.snapshot ∧
        s.getField frozenEnvelope FieldName.data = s.payload frozenEnvelope := by
  have live : frozenEnvelope ∈ (reached droppedRun).liveEnvelopes := by decide +kernel
  obtain ⟨freezing, taken, read, -⟩ := frozen_payload droppedRun live rfl
  exact ⟨⟨live, rfl⟩, by decide +kernel, by decide +kernel, freezing, taken, read⟩

end Session

end Bayeux
