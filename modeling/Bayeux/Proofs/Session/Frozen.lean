import Bayeux.Proofs.Session.Attempts

set_option autoImplicit false

namespace Bayeux

namespace Envelope

-- What is rendered of an envelope that is frozen.
def content (store : Store) (e : Envelope) : JsonMap :=
  let fields := store.valuesOf e.fields
  match e.payload with
  | .live ref => fields.insert FieldName.data (store.value ref)
  | _ => if e.ignoreNull then fields else fields.insert FieldName.data .null

-- The snapshot of an envelope, as it was taken or with a stored form.
def snapshotAfter (e : Envelope) : Option String → Snapshot
  | none => e.capture
  | some text => e.capture.serialized (Stored.ofText text e.threshold.toNat)

variable {store : Store} {e : Envelope}

theorem stored_snapshotAfter (success : Option String) :
    (e.snapshotAfter success).stored = success.map (Stored.ofText · e.threshold.toNat) := by
  cases success <;> rfl

theorem snapshotFields_capture (open_ : e.payload.watched = []) {later : Store}
    (same : ∀ ref ∈ e.fields.values ++ e.payload.owned, later.value ref = store.value ref)
    (isAlive : Ref → Bool) : later.snapshotFields isAlive e.capture = e.content store := by
  have fields : later.valuesOf e.fields = store.valuesOf e.fields :=
    Table.mapValues_congr fun ref member => same ref (List.mem_append_left _ member)
  cases payload : e.payload with
  | absent | null =>
    cases ignored : e.ignoreNull <;>
      simp [Store.snapshotFields, capture, frozenPayload, content, payload, ignored, fields,
        Slot.upgrade]
  | live ref =>
    have value : later.value ref = store.value ref := same ref (by simp [payload, Slot.owned])
    simp [Store.snapshotFields, capture, frozenPayload, content, payload, fields, Slot.upgrade, value]
  | weak ref => simp [payload, Slot.watched] at open_

end Envelope

namespace Session

/-- `start` took a snapshot of `origin`, and after the attempts in `log` the session has it, in
copies that are all alike. -/
structure Carries (start : Session) (origin : Envelope) (s : Session) (log : List Attempt) : Prop where
  open_ : origin.payload.watched = []
  taken : s.store.HasSnapshot start.store.nextSnapshot
  family : ∀ e ∈ s.liveEnvelopes, e.snapshot = some start.store.nextSnapshot →
    e.core = (origin.sealed start.store.nextSnapshot).core
  snapshot : s.store.snapshot start.store.nextSnapshot = origin.snapshotAfter (rendering? log)
  log : ∃ failures, log = attemptsOf (origin.content start.store) failures (rendering? log)
  -- Once the last copy is gone nothing keeps the values from changing.
  values : ∀ e ∈ s.liveEnvelopes, e.snapshot = some start.store.nextSnapshot →
    ∀ ref ∈ origin.fields.values ++ origin.payload.owned, s.value ref = start.value ref

variable {start s : Session} {origin e : Envelope} {log : List Attempt}

namespace Carries

theorem settings_eq (carries : Carries start origin s log) (live : e ∈ s.liveEnvelopes)
    (taken : e.snapshot = some start.store.nextSnapshot) : e.settings = origin.settings :=
  (Envelope.settings_eq_of_core_eq (carries.family e live taken)).trans rfl

theorem toRender (carries : Carries start origin s log)
    (live : e ∈ s.liveEnvelopes) (taken : e.snapshot = some start.store.nextSnapshot)
    (pending : rendering? log = none) :
    s.toRender start.store.nextSnapshot = origin.content start.store := by
  rw [Session.toRender, carries.snapshot, pending]
  exact Envelope.snapshotFields_capture carries.open_ (carries.values e live taken) s.isAlive

theorem stored (carries : Carries start origin s log) :
    (s.store.snapshot start.store.nextSnapshot).stored =
      (rendering? log).map (Stored.ofText · origin.threshold.toNat) := by
  rw [carries.snapshot, Envelope.stored_snapshotAfter]

theorem serialize_done (carries : Carries start origin s log)
    (taken : e.snapshot = some start.store.nextSnapshot) {text : String}
    (done : rendering? log = some text) :
    s.serialize e = (s, .ok (Stored.ofText text origin.threshold.toNat)) :=
  serialize_stored taken (by rw [carries.stored, done, Option.map_some])

theorem json_done (carries : Carries start origin s log)
    (taken : e.snapshot = some start.store.nextSnapshot) {text : String}
    (done : rendering? log = some text) : e.isSerialized s.store ∧ s.json e = (s, .ok text) := by
  constructor
  · simp [Envelope.isSerialized, Envelope.stored?, taken, carries.stored, done]
  · simp [json, carries.serialize_done taken done, Except.bind]

theorem first_call (carries : Carries start origin s log) (wf : s.WellFormed)
    (live : e ∈ s.liveEnvelopes) (taken : e.snapshot = some start.store.nextSnapshot)
    (pending : e.isSerialized s.store = false) :
    let fields := origin.content start.store
    let answer := (s.store.generate origin.codec fields).2
    (∀ form, s.store.callsSince (s.render e form).1.store origin.codec = [.generate fields answer]) ∧
      (s.json e).2 = answer.mapError .codec := by
  have bare : (s.store.snapshot start.store.nextSnapshot).stored = none := by
    simpa [Envelope.isSerialized, Envelope.stored?, taken] using pending
  have unrendered : rendering? log = none := by
    rw [carries.stored, Option.map_eq_none_iff] at bare
    exact bare
  have codec : e.codec = origin.codec :=
    congrArg Factory.codec (carries.settings_eq live taken)
  have called := serialize_pending (wf.envelopes e live).codec taken bare
  rw [carries.toRender live taken unrendered, codec] at called
  refine ⟨fun form => ?_, called.2⟩
  rw [render_fst]
  exact called.1

theorem holds (carries : Carries start origin s log) (live : e ∈ s.liveEnvelopes)
    (taken : e.snapshot = some start.store.nextSnapshot) {ref : Ref}
    (held : ref ∈ origin.fields.values ++ origin.payload.owned) :
    ref ∈ e.fields.values ++ e.payload.watched := by
  obtain ⟨fields, payload, -⟩ := (Envelope.core_eq_iff _ _).mp (carries.family e live taken)
  rw [fields, payload, Envelope.sealed, Slot.watched_downgrade]
  rcases List.mem_append.mp held with field | owned
  · exact List.mem_append_left _ field
  · exact List.mem_append_right _ (List.mem_append_left _ owned)

theorem next {effect : Effect} {t : Session} {log' : List Attempt}
    (carries : Carries start origin s log) (step : Advance effect s t)
    (kept : ∀ e ∈ s.liveEnvelopes, e.isFrozen → ∀ ref ∈ e.fields.values ++ e.payload.watched,
      t.value ref = s.value ref)
    (failures : List CodecError) (success : Option String)
    (shape : log' = attemptsOf (origin.content start.store) failures success)
    (snapshot : t.store.snapshot start.store.nextSnapshot = origin.snapshotAfter success) :
    Carries start origin t log' := by
  have rendered : rendering? log' = success := shape ▸ rendering?_attemptsOf _ failures success
  exact
    { open_ := carries.open_
      taken := step.store.has_snapshot carries.taken
      family := fun e live taken => by
        obtain ⟨old, live', taken', core⟩ := step.by_snapshot e live _ taken carries.taken
        exact core.trans (carries.family old live' taken')
      snapshot := rendered ▸ snapshot
      log := ⟨failures, rendered ▸ shape⟩
      values := fun e live taken ref held => by
        obtain ⟨old, live', taken', -⟩ := step.by_snapshot e live _ taken carries.taken
        have frozen : old.isFrozen := (old.isFrozen_iff).mpr ⟨_, taken'⟩
        rw [kept old live' frozen ref (carries.holds live' taken' held)]
        exact carries.values old live' taken' ref held }

-- Asking for the stored form is an attempt unless there was one that succeeded.
theorem serialize (wf : s.WellFormed) (carries : Carries start origin s log)
    (live : e ∈ s.liveEnvelopes)
    (taken : e.snapshot = some start.store.nextSnapshot) :
    Carries start origin (s.serialize e).1
      (log ++ s.store.attemptsSince (s.serialize e).1.store e.codec) := by
  have sound := serialize_sound wf live
  have kept (other : Envelope) (live' : other ∈ s.liveEnvelopes) (_ : other.isFrozen) (ref : Ref)
      (held : ref ∈ other.fields.values ++ other.payload.watched) :
      (s.serialize e).1.value ref = s.value ref :=
    (sound.advance.store.values ref (wf.listed_frozen live' held)).resolve_right
      fun changed => changed.1
  obtain ⟨failures, shape⟩ := carries.log
  cases pending : rendering? log with
  | some text =>
    rw [carries.serialize_done taken pending, Store.attemptsSince_self, List.append_nil]
    exact carries
  | none =>
    have bare : (s.store.snapshot start.store.nextSnapshot).stored = none := by
      rw [carries.stored, pending, Option.map_none]
    have has := (wf.envelopes e live).codec
    have threshold : e.threshold = origin.threshold :=
      congrArg Factory.threshold (carries.settings_eq live taken)
    have snapshot := carries.snapshot
    have fields := carries.toRender live taken pending
    have called := (serialize_pending has taken bare).1
    have quiet := s.store.generate_advance has (origin.content start.store)
    rw [pending] at shape snapshot
    rw [fields] at called
    rw [Store.attemptsSince, called]
    rcases answer : s.store.generate e.codec (origin.content start.store) with ⟨store, error | text⟩
    · rw [answer] at quiet
      refine carries.next sound.advance kept (failures ++ [error]) none ?_ ?_
      · rw [shape, ← attemptsOf_failed]
        rfl
      · rw [serialize_failed taken bare (fields ▸ answer)]
        exact (quiet.snapshot_same carries.taken False.elim).trans snapshot
    · rw [answer] at quiet
      refine carries.next sound.advance kept failures (some text) ?_ ?_
      · rw [shape, ← attemptsOf_succeeded]
        rfl
      · rw [serialize_rendered taken bare (fields ▸ answer), snapshot, threshold]
        exact store.snapshot_setSnapshot_self (quiet.has_snapshot carries.taken) _

theorem renderTimes (wf : s.WellFormed) (carries : Carries start origin s log)
    (live : e ∈ s.liveEnvelopes)
    (taken : e.snapshot = some start.store.nextSnapshot) (workers : Nat) :
    Carries start origin (s.renderTimes e workers).1
      (log ++ s.store.attemptsSince (s.renderTimes e workers).1.store e.codec) := by
  induction workers generalizing s log with
  | zero => simpa [Session.renderTimes, Store.attemptsSince_self] using carries
  | succ workers ih =>
    have first := serialize_sound wf live
    have live' : e ∈ (s.serialize e).1.liveEnvelopes := by simpa using live
    have rest := renderTimes_sound first.wf live' workers
    have both := Store.attemptsSince_trans first.advance.store rest.advance.store
      (wf.envelopes e live).codec
    have done := ih first.wf (carries.serialize wf live taken) live'
    rw [List.append_assoc, ← both] at done
    exact done

theorem step (wf : s.WellFormed) (carries : Carries start origin s log)
    (step : Step) :
    Carries start origin (s.step step).1 (log ++ s.attemptsIn start.store.nextSnapshot step) := by
  by_cases asked : ∃ e, s.rendered? step = some e ∧ e.snapshot = some start.store.nextSnapshot
  · obtain ⟨e, asked, taken⟩ := asked
    have subject := subject?_of_rendered? asked
    obtain ⟨workers, same⟩ := step_of_rendered? asked
    simp only [attemptsIn, subject, taken, if_true, same]
    exact carries.renderTimes wf (live_of_subject? subject) taken workers
  · have sound := step_sound wf step
    have silent : s.attemptsIn start.store.nextSnapshot step = [] :=
      attemptsIn_eq_nil wf fun e here taken => asked ⟨e, here, taken⟩
    rw [silent, List.append_nil]
    obtain ⟨failures, shape⟩ := carries.log
    have kept (e : Envelope) (live : e ∈ s.liveEnvelopes) (frozen : e.isFrozen) (ref : Ref)
        (held : ref ∈ e.fields.values ++ e.payload.watched) :
        (s.step step).1.value ref = s.value ref :=
      value_step wf live frozen held step
    refine carries.next sound.advance kept failures _ shape ?_
    rw [sound.advance.store.snapshot_same carries.taken asked]
    exact carries.snapshot

theorem after (wf : s.WellFormed) (carries : Carries start origin s log)
    (steps : List Step) :
    Carries start origin (s.after steps) (log ++ s.attempts start.store.nextSnapshot steps) := by
  induction steps generalizing s log with
  | nil => simpa [attempts] using carries
  | cons first rest ih =>
    have next := ih (step_sound wf first).wf (carries.step wf first)
    rwa [List.append_assoc] at next

end Carries

end Session

end Bayeux
