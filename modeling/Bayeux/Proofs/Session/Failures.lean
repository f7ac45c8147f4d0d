import Bayeux.Proofs.Session.Wire

set_option autoImplicit false

namespace Bayeux

-- Nothing but the log of one codec is longer.
def Store.logged (store : Store) (id : CodecId) (call : CodecCall) : Store :=
  store.setCodec id { store.codec id with calls := call :: (store.codec id).calls }

theorem Store.generate_logged (store : Store) (id : CodecId) (fields : JsonMap) :
    store.generate id fields =
      (store.logged id (.generate fields (store.generate id fields).2),
        (store.generate id fields).2) :=
  rfl

theorem Store.callsSince_logged {store : Store} {id : CodecId} (has : store.HasCodec id)
    (call : CodecCall) : store.callsSince (store.logged id call) id = [call] := by
  have grown : ((store.logged id call).codec id).calls = [call] ++ (store.codec id).calls := by
    rw [logged, store.codec_setCodec_self has]
    rfl
  exact callsSince_eq grown

namespace Session

variable {s : Session} {e : Envelope} {error : EnvelopeError}

def logged (s : Session) (id : CodecId) (call : CodecCall) : Session :=
  { s with store := s.store.logged id call }

-- The codec has made the text of a snapshot.
def storing (s : Session) (e : Envelope) (id : SnapshotId) (text : String) : Session :=
  let store := s.store.logged e.codec (.generate (s.toRender id) (.ok text))
  let stored := Stored.ofText text e.threshold.toNat
  { s with store := store.setSnapshot id ((s.store.snapshot id).serialized stored) }

-- The same session, but its codecs answer otherwise.
def withCodecs (s : Session) (codecs : Array LiveCodec) : Session :=
  { s with store := { s.store with codecs } }

theorem withCodecs_logged (s : Session) (id : CodecId) (call : CodecCall)
    (codecs : Array LiveCodec) : (s.logged id call).withCodecs codecs = s.withCodecs codecs :=
  rfl

inductive Serializes (s : Session) (e : Envelope) : Session × Except EnvelopeError Stored → Prop
  where
  | unfrozen (open_ : e.snapshot = none) : Serializes s e (s, .error .notFrozen)
  | stored {id : SnapshotId} {stored : Stored} (taken : e.snapshot = some id)
    (done : (s.store.snapshot id).stored = some stored) : Serializes s e (s, .ok stored)
  | failed {id : SnapshotId} {cause : CodecError} (taken : e.snapshot = some id)
    (bare : (s.store.snapshot id).stored = none)
    (answer : (s.store.generate e.codec (s.toRender id)).2 = .error cause) :
    Serializes s e
      (s.logged e.codec (.generate (s.toRender id) (.error cause)), .error (.codec cause))
  | rendered {id : SnapshotId} {text : String} (taken : e.snapshot = some id)
    (bare : (s.store.snapshot id).stored = none)
    (answer : (s.store.generate e.codec (s.toRender id)).2 = .ok text) :
    Serializes s e (s.storing e id text, .ok (Stored.ofText text e.threshold.toNat))

theorem serialize_ends (s : Session) (e : Envelope) : Serializes s e (s.serialize e) := by
  cases taken : e.snapshot with
  | none =>
    rw [serialize_unfrozen taken]
    exact .unfrozen taken
  | some id =>
    cases bare : (s.store.snapshot id).stored with
    | some stored =>
      rw [serialize_stored taken bare]
      exact .stored taken bare
    | none =>
      have called := s.store.generate_logged e.codec (s.toRender id)
      cases answer : (s.store.generate e.codec (s.toRender id)).2 with
      | error cause =>
        rw [answer] at called
        rw [serialize_failed taken bare called]
        exact .failed taken bare answer
      | ok text =>
        rw [answer] at called
        rw [serialize_rendered taken bare called]
        exact .rendered taken bare answer

-- What is stored can be had in every form.
theorem serialize_form (wf : s.WellFormed) (live : e ∈ s.liveEnvelopes) {stored : Stored}
    (given : (s.serialize e).2 = .ok stored) :
    ∃ text, stored = Stored.ofText text e.threshold.toNat := by
  have ends := serialize_ends s e
  generalize s.serialize e = result at given ends
  cases ends with
  | unfrozen | failed => simp at given
  | stored taken done =>
    obtain ⟨-, -, captured⟩ := (wf.envelopes e live).frozen _ taken
    exact captured.form stored (done.trans (congrArg some (Except.ok.inj given)))
  | rendered => exact ⟨_, (Except.ok.inj given).symm⟩

theorem isSerialized_delivers (wf : s.WellFormed) (live : e ∈ s.liveEnvelopes)
    (serialized : e.isSerialized s.store) : ∃ text, s.Delivers e text s := by
  obtain ⟨stored, here⟩ := Option.isSome_iff_exists.mp serialized
  obtain ⟨id, taken, done⟩ := Option.bind_eq_some_iff.mp here
  have given := serialize_stored taken done
  obtain ⟨text, rfl⟩ := serialize_form wf live (congrArg Prod.snd given)
  exact ⟨text, delivers_of_serialize given here⟩

theorem render_error_iff (wf : s.WellFormed) (live : e ∈ s.liveEnvelopes) (form : Form) :
    (s.render e form).2 = .envelopeError error ↔ (s.serialize e).2 = .error error := by
  rcases given : s.serialize e with ⟨t, cause | stored⟩
  · cases form <;> simp [render, json, jsonBytes, wire, given, Except.bind, Except.map]
  · obtain ⟨text, rfl⟩ := serialize_form wf live (congrArg Prod.snd given)
    cases form <;> simp [render, json, jsonBytes, wire, given, Except.bind, Except.map]

theorem editEnvelope_error_iff (wf : s.WellFormed) {name : String} {linked : Linked}
    (found : s.envelopes.get? name = some linked) (edit : Edit) (into : Option String) :
    (s.editEnvelope name linked edit into).2 = .envelopeError error ↔
      linked.envelope.isFrozen ∧ error = .frozen := by
  have ok := wf.envelopes linked.envelope (live_head found)
  cases frozen : linked.envelope.isFrozen with
  | true => simp [editEnvelope, frozen, eq_comm]
  | false =>
    have unfrozen := (Envelope.isFrozen_eq_false_iff _).mp frozen
    simp only [editEnvelope, frozen, Bool.false_eq_true, if_false, false_and, iff_false]
    cases edit with
    | put key argument | assign key argument =>
      dsimp only
      split
      · simp
      next t ref given =>
        obtain ⟨⟨store, rfl, step⟩, has⟩ := argument_sound wf given
        obtain ⟨after, old, put, -⟩ :=
          Envelope.put_rewrites (ok.mono step fun _ => False.elim) unfrozen key has
        simp [put, give]
    | remove key =>
      obtain ⟨after, old, removed, -⟩ := Envelope.remove_rewrites ok unfrozen key
      simp [removed, give]
    | ext create edits => simp

theorem serialize_error_iff (wf : s.WellFormed) (live : e ∈ s.liveEnvelopes) :
    (s.serialize e).2 = .error error ↔
      e.isFrozen = false ∧ error = .notFrozen ∨
      e.isFrozen ∧ e.isSerialized s.store = false ∧ ∃ fields cause, error = .codec cause ∧
        s.store.callsSince (s.serialize e).1.store e.codec = [.generate fields (.error cause)] := by
  have has := (wf.envelopes e live).codec
  have ends := serialize_ends s e
  generalize s.serialize e = result at ends ⊢
  cases ends with
  | unfrozen open_ => simp [Envelope.isFrozen, open_, eq_comm (a := error)]
  | stored taken done =>
    simp [Envelope.isFrozen, Envelope.isSerialized, Envelope.stored?, taken, done]
  | @failed id cause taken bare =>
    have called := Store.callsSince_logged has (.generate (s.toRender id) (.error cause))
    simp [Envelope.isFrozen, Envelope.isSerialized, Envelope.stored?, taken, bare, logged, called,
      eq_comm (a := error)]
  | @rendered id text taken bare =>
    have called : s.store.callsSince (s.storing e id text).store e.codec = _ :=
      Store.callsSince_logged has (.generate (s.toRender id) (.ok text))
    simp [Envelope.isFrozen, taken, called]

theorem editMessage_never_fails (name : String) (message : Message) (edit : Edit)
    (into : Option String) :
    (s.editMessage name message edit into).2 ≠ .envelopeError error := by
  cases edit with
  | put key argument | assign key argument =>
    simp only [editMessage]
    split <;> simp [give]
  | remove key | ext create edits => simp [editMessage, give]

-- Only what writes to an envelope or renders one can fail.
theorem step_error_cases {step : Step} (failed : (s.step step).2 = .envelopeError error) :
    (∃ name edit into linked, step = .editEnvelope name edit into ∧
      s.envelopes.get? name = some linked ∧ s.isShared linked.envelope = false) ∨
    ∃ name hops form linked, step = .render name hops form ∧
      s.linkedAt? name hops = some linked := by
  cases step with
  | editEnvelope name edit into =>
    cases found : s.envelopes.get? name with
    | none => simp [Session.step, withWritable, withEnvelope, found] at failed
    | some linked =>
      cases shared : s.isShared linked.envelope with
      | true =>
        have here := (linkedAt?_zero name).trans found
        simp [Session.step, withWritable, withEnvelope_found here, shared] at failed
      | false => exact .inl ⟨name, edit, into, linked, rfl, found, shared⟩
  | render name hops form =>
    cases found : s.linkedAt? name hops with
    | none =>
      rw [linkedAt?] at found
      simp [Session.step, withEnvelope, found] at failed
    | some linked => exact .inr ⟨name, hops, form, linked, rfl, found⟩
  | editMessage name edit into =>
    simp only [Session.step, withMessage] at failed
    split at failed
    · exact absurd failed (editMessage_never_fails name _ edit into)
    · simp at failed
  | _ =>
    simp only [Session.step, withMessage, withCodec, withFactory, withEnvelope, withWritable] at failed
    repeat' split at failed
    all_goals simp [addFactory, give, giveMap] at failed

/-- What fails leaves the session as it was, but for the log of the codec that failed. -/
inductive Untouched (s t : Session) : Prop where
  | same (kept : t = s)
  | logged {id : CodecId} {fields : JsonMap} {cause : CodecError}
    (kept : t = s.logged id (.generate fields (.error cause)))

theorem Untouched.withCodecs {t : Session} (kept : s.Untouched t) (codecs : Array LiveCodec) :
    t.withCodecs codecs = s.withCodecs codecs := by
  cases kept with
  | same kept => rw [kept]
  | logged kept => rw [kept, withCodecs_logged]

theorem serialize_untouched (failed : (s.serialize e).2 = .error error) :
    s.Untouched (s.serialize e).1 := by
  have ends := serialize_ends s e
  generalize s.serialize e = result at failed ends ⊢
  cases ends with
  | unfrozen => exact .same rfl
  | stored | rendered => simp at failed
  | failed => exact .logged rfl

theorem step_untouched (wf : s.WellFormed) {step : Step}
    (failed : (s.step step).2 = .envelopeError error) : s.Untouched (s.step step).1 := by
  rcases step_error_cases failed with
    ⟨name, edit, into, linked, rfl, found, unshared⟩ | ⟨name, hops, form, linked, rfl, found⟩
  · rw [Session.step, withWritable_found found unshared] at failed ⊢
    obtain ⟨frozen, -⟩ := (editEnvelope_error_iff wf found edit into).mp failed
    refine .same ?_
    simp [editEnvelope, frozen]
  · rw [Session.step, withEnvelope_found found] at failed ⊢
    rw [render_fst]
    exact serialize_untouched ((render_error_iff wf (live_linked found) form).mp failed)

-- A second attempt gets the fields that the first got, and what it makes of them is delivered.
theorem delivers_again (wf : s.WellFormed) (live : e ∈ s.liveEnvelopes) {fields : JsonMap}
    {cause : CodecError} {text : String}
    (called : s.store.callsSince (s.serialize e).1.store e.codec = [.generate fields (.error cause)])
    (answer : ((s.serialize e).1.store.generate e.codec fields).2 = .ok text) :
    (s.serialize e).1.Delivers e text ((s.serialize e).1.serialize e).1 := by
  have sound := (serialize_sound wf live).wf
  have live' : e ∈ (s.serialize e).1.liveEnvelopes := by rwa [live_serialize]
  have has := (wf.envelopes e live).codec
  have ends := serialize_ends s e
  generalize s.serialize e = result at called answer sound live' ends ⊢
  cases ends with
  | unfrozen | stored => simp [Store.callsSince] at called
  | @failed id cause' taken bare =>
    have here := Store.callsSince_logged has (.generate (s.toRender id) (.error cause'))
    have same : fields = s.toRender id := by
      have one := here.symm.trans called
      simp only [List.cons.injEq, CodecCall.generate.injEq] at one
      exact one.1.1.symm
    exact delivers_of_generate sound live' taken bare (same ▸ answer)
  | @rendered id text' taken bare =>
    have here : s.store.callsSince (s.storing e id text').store e.codec = _ :=
      Store.callsSince_logged has (.generate (s.toRender id) (.ok text'))
    simp [here] at called

/-- An operation on an envelope fails exactly when it has to, and then nothing but the log of a codec
has changed: repeated with codecs that work, it gives what it would have given at once. -/
theorem errors_exact (steps : List Step) :
    let s := reached steps
    (∀ name linked edit into error, s.envelopes.get? name = some linked →
      s.isShared linked.envelope = false →
      ((s.step (.editEnvelope name edit into)).2 = .envelopeError error ↔
        linked.envelope.isFrozen ∧ error = .frozen)) ∧
    (∀ name hops linked form error, s.linkedAt? name hops = some linked →
      let e := linked.envelope
      let t := (s.step (.render name hops form)).1
      ((s.step (.render name hops form)).2 = .envelopeError error ↔
        e.isFrozen = false ∧ error = .notFrozen ∨
        e.isFrozen ∧ e.isSerialized s.store = false ∧ ∃ fields cause, error = .codec cause ∧
          s.store.callsSince t.store e.codec = [.generate fields (.error cause)]) ∧
      (e.isFrozen → ∃ freezing : Freezing steps, e.snapshot = some freezing.snapshot ∧
        freezing.AsksOnce e form) ∧
      (e.isSerialized s.store → ∃ text, s.Delivers e text s) ∧
      ∀ fields cause text, s.store.callsSince t.store e.codec = [.generate fields (.error cause)] →
        (t.store.generate e.codec fields).2 = .ok text → t.Delivers e text (t.serialize e).1) ∧
    ∀ step error, (s.step step).2 = .envelopeError error →
      s.Untouched (s.step step).1 ∧
      ∀ codecs, ((s.step step).1.withCodecs codecs).step step = (s.withCodecs codecs).step step := by
  intro s
  have wf : s.WellFormed := reached_wellFormed steps
  refine ⟨fun name linked edit into error found unshared => ?_, ?_, fun step error failed => ?_⟩
  · rw [Session.step, withWritable_found found unshared]
    exact editEnvelope_error_iff wf found edit into
  · intro name hops linked form error found e t
    have live : e ∈ s.liveEnvelopes := live_linked found
    have stepped : s.step (.render name hops form) = s.render e form := by
      rw [Session.step, withEnvelope_found found]
    have left : t = (s.serialize e).1 := by rw [← render_fst form, ← stepped]
    rw [left, stepped]
    refine ⟨(render_error_iff wf live form).trans (serialize_error_iff wf live), fun frozen => ?_,
      isSerialized_delivers wf live, fun fields cause text => delivers_again wf live⟩
    obtain ⟨freezing, taken⟩ := exists_freezing steps live frozen
    exact ⟨freezing, taken, freezing.asksOnce live taken form⟩
  · have untouched := step_untouched wf failed
    exact ⟨untouched, fun codecs => by rw [untouched.withCodecs codecs]⟩

end Session

end Bayeux
