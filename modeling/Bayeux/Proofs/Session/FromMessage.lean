import Bayeux.Proofs.Session.Freezing
import Bayeux.Proofs.Session.Simulation

set_option autoImplicit false

namespace Bayeux

-- A payload that is null or missing is written as null, or not at all.
def normalized (ignoreNull : Bool) (members : JsonMap) : JsonMap :=
  match members.get? FieldName.data with
  | none | some .null =>
    if ignoreNull then members.erase FieldName.data else members.insert FieldName.data .null
  | some _ => members

theorem normalized_of_none {members : JsonMap}
    (hidden : shownField FieldName.data (members.get? FieldName.data) = none) (ignoreNull : Bool) :
    normalized ignoreNull members =
      if ignoreNull then members.erase FieldName.data else members.insert FieldName.data .null := by
  cases found : members.get? FieldName.data with
  | none => simp [normalized, found]
  | some v => cases v <;> simp_all [shownField, Option.filter, Json.isNull, normalized]

theorem normalized_of_some {members : JsonMap} {v : Json}
    (shown : shownField FieldName.data (members.get? FieldName.data) = some v) (ignoreNull : Bool) :
    members.get? FieldName.data = some v ∧ normalized ignoreNull members = members := by
  cases found : members.get? FieldName.data with
  | none => simp [shownField, found] at shown
  | some w =>
    rw [found, shownField, if_pos rfl, Option.filter_eq_some_iff] at shown
    obtain ⟨same, notNull⟩ := shown
    refine ⟨same, ?_⟩
    rw [normalized, found]
    cases w with
    | null => simp [← Option.some.inj same, Json.isNull] at notNull
    | _ => rfl

namespace Session

variable {s : Session}

-- No other envelope is associated with a new one.
theorem addEnvelope_unshared (wf : s.WellFormed) (name : String) {e : Envelope}
    (number : e.id = s.nextId) : (s.takeId.1.addEnvelope name e).isShared e = false := by
  refine isShared_eq_false_iff.mpr fun linked member other chained same => ?_
  rcases Table.mem_values_insert member with rfl | old
  · exact absurd chained List.not_mem_nil
  · have live : other ∈ s.liveEnvelopes :=
      List.mem_flatMap.mpr ⟨linked, old, by simp [mem_all, chained]⟩
    have := wf.ids other live
    omega

theorem envelopeOf_mirrors (wf : s.WellFormed) {messageName codecName : String} {message : Message}
    {codec : CodecId} (found : s.messages.get? messageName = some message)
    (found' : s.codecs.get? codecName = some codec) (name : String) (threshold : UInt64)
    (ignoreNull : Bool) :
    let t := (s.step (.envelopeOf name messageName codecName threshold ignoreNull)).1
    t.Mirrors messageName name ⟨threshold, ignoreNull, codec⟩ (s.store.valuesOf message.fields)
      (s.store.valuesOf message.fields) := by
  have ok := wf.messages message (Table.mem_values_of_get? found)
  let e := Envelope.ofMessage s.store s.nextId message threshold ignoreNull codec
  have stepped : (s.step (.envelopeOf name messageName codecName threshold ignoreNull)).1 =
      s.takeId.1.addEnvelope name e := by
    simp [Session.step, withMessage, withCodec, found, found', takeId, e]
  rw [stepped]
  refine ⟨⟨message, found, rfl⟩, ⟨e, ?_⟩, ok.sorted.mapValues _⟩
  exact
    { found := Table.get?_insert_self _ _ _
      unshared := addEnvelope_unshared wf name rfl
      unfrozen := rfl
      settings := rfl
      fields := Table.mapValues_erase _ _ _
      payload := by
        rw [get?_valuesOf]
        cases payload : message.fields.get? FieldName.data with
        | none =>
          simp [e, Envelope.livePayload, Envelope.ofMessage, Message.get?, payload, Slot.upgrade,
            shownField]
        | some ref =>
          cases null : (s.store.value ref).isNull <;>
            simp [e, Envelope.livePayload, Envelope.ofMessage, Message.get?, payload, Store.slotOf,
              Slot.upgrade, shownField, null, Option.filter, Session.value, addEnvelope, takeId] }

theorem OpenEnvelope.content_eq {settings : Factory} {members : JsonMap} {e : Envelope}
    (holds : s.OpenEnvelope settings members e) (wf : s.WellFormed) (sorted : members.Sorted) :
    e.content s.store = normalized settings.ignoreNull members := by
  have ok := wf.envelopes e holds.live
  have ignoreNull : e.ignoreNull = settings.ignoreNull := congrArg Factory.ignoreNull holds.settings
  have shown := holds.payload
  have hidden (none : e.livePayload = none) :
      (if e.ignoreNull then s.store.valuesOf e.fields
        else (s.store.valuesOf e.fields).insert FieldName.data .null) =
        normalized settings.ignoreNull members := by
    rw [none, Option.map_none] at shown
    rw [normalized_of_none shown.symm, ignoreNull, holds.fields, Table.insert_erase_self sorted]
  cases payload : e.payload with
  | absent | null =>
    simpa only [Envelope.content, payload] using
      hidden (by simp [Envelope.livePayload, payload, Slot.upgrade])
  | live ref =>
    have found : e.livePayload = some ref := by simp [Envelope.livePayload, payload, Slot.upgrade]
    rw [found, Option.map_some] at shown
    obtain ⟨present, same⟩ := normalized_of_some shown.symm settings.ignoreNull
    simp only [Envelope.content, payload]
    rw [same, holds.fields, Table.insert_erase_self sorted]
    exact Table.insert_of_get? sorted present
  | weak ref =>
    have open_ := (ok.unfrozen holds.unfrozen).1
    simp [payload, Slot.watched] at open_

theorem OpenEnvelope.get?_shown {settings : Factory} {members : JsonMap} {e : Envelope}
    (holds : s.OpenEnvelope settings members e) (wf : s.WellFormed) (key : String) :
    (s.getField e key).1 = s ∧
      (s.getField e key).2.map s.value = shownField key (members.get? key) := by
  by_cases data : key = FieldName.data
  · have open_ := ((wf.envelopes e holds.live).unfrozen holds.unfrozen).1
    have upgraded : e.payload.upgrade s.isAlive = e.livePayload := by
      cases payload : e.payload <;> simp_all [Envelope.livePayload, Slot.upgrade, Slot.watched]
    simp only [getField, data, if_true, Session.payload, holds.unfrozen, upgraded, true_and]
    exact holds.payload
  · simp only [getField, data, if_false, shownField, true_and]
    exact holds.get?_field data

theorem step_generateMessage {name codecName : String} {message : Message} {codec : CodecId}
    (found : s.messages.get? name = some message) (found' : s.codecs.get? codecName = some codec) :
    (s.step (.generateMessage name codecName)).2 =
      match (s.store.generate codec (s.store.valuesOf message.fields)).2 with
      | .ok text => .text text
      | .error error => .codecError error := by
  simp only [Session.step, withMessage, found, withCodec, found']
  rcases s.store.generate codec (s.store.valuesOf message.fields) with ⟨store, error | text⟩ <;> rfl

theorem normalized_of_shown {message : Message}
    (shown : shownField FieldName.data ((message.get? FieldName.data).map s.value) ≠ none)
    (ignoreNull : Bool) :
    normalized ignoreNull (s.store.valuesOf message.fields) = s.store.valuesOf message.fields := by
  obtain ⟨payload, present⟩ := Option.ne_none_iff_exists'.mp shown
  have present' : shownField FieldName.data
      ((s.store.valuesOf message.fields).get? FieldName.data) = some payload := by
    rw [get?_valuesOf]
    exact present
  exact (normalized_of_some present' ignoreNull).2

-- A codec that is a function of the fields stays the same function.
theorem generate_after (wf : s.WellFormed) {codec : CodecId} (has : s.store.HasCodec codec)
    {function : JsonMap → Except CodecError String}
    (pure : ∀ calls given, (s.store.codec codec).behavior.generate calls given = function given)
    (steps : List Step) (fields : JsonMap) :
    ((s.after steps).store.generate codec fields).2 = function fields := by
  have behavior : ((s.after steps).store.codec codec).behavior = (s.store.codec codec).behavior :=
    ((after_sound wf steps).advance.store.codecs codec has).1
  change ((s.after steps).store.codec codec).behavior.generate _ fields = _
  rw [behavior, pure]

/-- An envelope of a message that is edited like the message, in whatever order the edits of the
two come, shows the same values and answers the same but for a payload that is null. When it is frozen
it is rendered from the normalized fields of the message. -/
theorem envelope_follows_message (steps edits : List Step) {messageName codecName : String}
    {message : Message} {codec : CodecId}
    (found : (reached steps).messages.get? messageName = some message)
    (found' : (reached steps).codecs.get? codecName = some codec)
    (name : String) (threshold : UInt64) (ignoreNull : Bool)
    (editing : ∀ step ∈ edits, EditsEither messageName name step) :
    let s := ((reached steps).step (.envelopeOf name messageName codecName threshold ignoreNull)).1
    let made := s.edits (·.editOfMessage? messageName) edits
    let echoed := s.edits (·.editOfEnvelope? name) edits
    made.map (·.change) = echoed.map (·.change) →
    let t := s.after edits
    let u := (t.step (.freeze name)).1
    echoed = made.map Edited.shown ∧
    ∃ edited e frozen, t.messages.get? messageName = some edited ∧
      t.store.valuesOf edited.fields =
        (made.map (·.change)).foldl Change.apply ((reached steps).store.valuesOf message.fields) ∧
      t.linkedAt? name 0 = some ⟨e, []⟩ ∧ u.linkedAt? name 0 = some ⟨frozen, []⟩ ∧
      frozen.isFrozen ∧
      (∀ key, (t.getField e key).1 = t ∧
        (t.getField e key).2.map t.value = shownField key ((edited.get? key).map t.value)) ∧
      ∀ later, ∀ copy ∈ (u.after later).liveEnvelopes, copy.snapshot = frozen.snapshot →
        copy.isSerialized (u.after later).store = false →
        let v := u.after later
        let fields := normalized ignoreNull (t.store.valuesOf edited.fields)
        let answer := (v.store.generate codec fields).2
        (∀ form, v.store.callsSince (v.render copy form).1.store codec = [.generate fields answer]) ∧
          (v.json copy).2 = answer.mapError .codec ∧
          (shownField FieldName.data ((edited.get? FieldName.data).map t.value) ≠ none →
            fields = t.store.valuesOf edited.fields ∧
            ∀ function : JsonMap → Except CodecError String,
              (∀ calls given, (t.store.codec codec).behavior.generate calls given = function given) →
              answer = function (t.store.valuesOf edited.fields) ∧
              ∀ sameCodec, t.codecs.get? sameCodec = some codec →
                (t.step (.generateMessage messageName sameCodec)).2 =
                  match function (t.store.valuesOf edited.fields) with
                  | .ok text => .text text
                  | .error error => .codecError error) := by
  intro s made echoed same t u
  have reachedWf := reached_wellFormed steps
  have begun := envelopeOf_mirrors reachedWf found found' name threshold ignoreNull
  have wf : s.WellFormed := (step_sound reachedWf _).wf
  have wf' : t.WellFormed := (after_sound wf edits).wf
  let start := (reached steps).store.valuesOf message.fields
  obtain ⟨mirrors, followed, followed'⟩ :
      t.Mirrors messageName name ⟨threshold, ignoreNull, codec⟩
        ((made.map (·.change)).foldl Change.apply start)
        ((echoed.map (·.change)).foldl Change.apply start) ∧
      made = Change.follow start (made.map (·.change)) ∧
      echoed = (Change.follow start (echoed.map (·.change))).map Edited.shown :=
    begun.after wf edits editing
  have echoes : echoed = made.map Edited.shown :=
    calc
      echoed = (Change.follow start (echoed.map (·.change))).map Edited.shown := followed'
      _ = (Change.follow start (made.map (·.change))).map Edited.shown := by rw [same]
      _ = made.map Edited.shown := congrArg (List.map Edited.shown) followed.symm
  rw [← same] at mirrors
  obtain ⟨⟨edited, here, values⟩, ⟨e, holds⟩, sorted⟩ := mirrors
  rw [← values] at holds sorted
  have sealed_eq : u = _ := step_freeze holds.found holds.unshared holds.unfrozen
  have freezes : t.freezing? (.freeze name) = some e := by
    simp [freezing?, holds.found, holds.unshared, Envelope.isFrozen, holds.unfrozen]
  have carries : Carries t e u [] := freezing_carries wf' freezes
  have codec_eq : e.codec = codec := congrArg Factory.codec holds.settings
  refine ⟨echoes, edited, e, e.sealed t.store.nextSnapshot, here, values, ?_, ?_, rfl,
    fun key => ?_, ?_⟩
  · rw [linkedAt?_zero, holds.found]
  · rw [linkedAt?_zero, sealed_eq]
    exact Table.get?_insert_self _ _ _
  · have shown := holds.get?_shown wf' key
    rwa [get?_valuesOf] at shown
  · intro later copy live taken pending v fields answer
    have frozenWf : u.WellFormed := (step_sound wf' _).wf
    have laterWf : v.WellFormed := (after_sound frozenWf later).wf
    obtain ⟨called, json⟩ :=
      (carries.after frozenWf later).first_call laterWf live taken pending
    have content : e.content t.store = fields := holds.content_eq wf' sorted
    rw [content, codec_eq] at called json
    refine ⟨called, json, fun shown => ?_⟩
    have whole : fields = t.store.valuesOf edited.fields := normalized_of_shown shown ignoreNull
    have has : t.store.HasCodec codec := codec_eq ▸ (wf'.envelopes e holds.live).codec
    refine ⟨whole, fun function pure => ⟨?_, fun sameCodec found'' => ?_⟩⟩
    · have answered := generate_after wf' has pure (.freeze name :: later) fields
      rwa [← whole]
    · have called : (t.store.generate codec (t.store.valuesOf edited.fields)).2 =
          function (t.store.valuesOf edited.fields) := pure _ _
      rw [step_generateMessage here found'', called]

def mirroredRun : List Step :=
  [.newCodec "codec" [] [],
    .newMessage "message" [("data", .string "payload"), ("ext", .object [("ack", .bool true)])]]

-- The message is edited twice before the envelope is.
def mirroredEdits : List Step :=
  [.editMessage "message" (.ext false [.delete "ack"]) none,
    .editMessage "message" (.put "data" (.fresh .null)) (some "old"),
    .editEnvelope "envelope" (.ext false [.delete "ack"]) none,
    .editEnvelope "envelope" (.put "data" (.fresh .null)) none]

theorem mirroredRun_follows :
    let s := ((reached mirroredRun).step (.envelopeOf "envelope" "message" "codec" 1000 false)).1
    let made := s.edits (·.editOfMessage? "message") mirroredEdits
    let echoed := s.edits (·.editOfEnvelope? "envelope") mirroredEdits
    (reached mirroredRun).messages.get? "message" = some ⟨[("data", ⟨0⟩), ("ext", ⟨1⟩)]⟩ ∧
      (reached mirroredRun).codecs.get? "codec" = some ⟨0⟩ ∧
      made.map (·.change) = echoed.map (·.change) ∧ echoed = made.map Edited.shown := by
  have found : (reached mirroredRun).messages.get? "message" =
      some ⟨[("data", ⟨0⟩), ("ext", ⟨1⟩)]⟩ := by decide +kernel
  have found' : (reached mirroredRun).codecs.get? "codec" = some ⟨0⟩ := by decide +kernel
  have editing : ∀ step ∈ mirroredEdits, EditsEither "message" "envelope" step := by
    simp [mirroredEdits, EditsEither]
  exact ⟨found, found', rfl,
    (envelope_follows_message mirroredRun mirroredEdits found found' "envelope" 1000 false editing
      rfl).1⟩

end Session

end Bayeux
