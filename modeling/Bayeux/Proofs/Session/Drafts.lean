import Bayeux.Proofs.Session.Desk

set_option autoImplicit false

namespace Bayeux

-- The codec answered as it always does, and can read what it wrote.
def Attempt.Undone (shop : Workshop) (attempt : Attempt) : Prop :=
  attempt.Follows shop.gen ∧
    ∀ text, attempt.answer = .ok text → shop.par text = .ok attempt.fields

theorem shownField_normalized (ignoreNull : Bool) (members : JsonMap) (sorted : members.Sorted) :
    ((normalized ignoreNull members).get? FieldName.data).filter (!·.isNull) =
      shownField FieldName.data (members.get? FieldName.data) := by
  cases shown : shownField FieldName.data (members.get? FieldName.data) with
  | some v =>
    obtain ⟨found, same⟩ := normalized_of_some shown ignoreNull
    rw [same, ← shown]
    rfl
  | none =>
    rw [normalized_of_none shown]
    cases ignoreNull with
    | true => simp [Table.get?_erase_self sorted]
    | false => simp [Json.isNull, Option.filter]

namespace Session

structure Equips (s : Session) (shop : Workshop) : Prop where
  has : s.store.HasCodec shop.settings.codec
  generates : (s.store.codec shop.settings.codec).behavior.Generates shop.gen
  parses : (s.store.codec shop.settings.codec).behavior.Parses shop.par

-- What was generated between two sessions can be read.
def Undoes (s t : Session) (shop : Workshop) : Prop :=
  ∀ fields text, .generate fields (.ok text) ∈ s.store.callsSince t.store shop.settings.codec →
    shop.par text = .ok fields

variable {s t start : Session} {shop : Workshop} {name : String} {hops : Nat} {e origin : Envelope}
  {chain : List Envelope} {members : JsonMap} {log : List Attempt}

theorem Equips.advance {effect : Effect} (equips : s.Equips shop) (step : Advance effect s t) :
    t.Equips shop := by
  have same := (step.store.codecs _ equips.has).1
  exact ⟨step.store.has_codec equips.has, same ▸ equips.generates, same ▸ equips.parses⟩

theorem OpenEnvelope.stringField (holds : s.OpenEnvelope shop.settings members e)
    {key : String} (other : key ≠ FieldName.data) :
    s.store.stringField e.fields key = (members.get? key).bind Json.string? := by
  rw [← holds.get?_field other, Option.bind_map]
  rfl

section Frozen

variable (carries : Carries start origin s log) (live : e ∈ s.liveEnvelopes)
  (taken : e.snapshot = some start.store.nextSnapshot)
  (was : start.OpenEnvelope shop.settings members origin) (wf : start.WellFormed)
  (sorted : members.Sorted) (undone : ∀ attempt ∈ log, attempt.Undone shop)

include carries was

theorem settings_frozen (live : e ∈ s.liveEnvelopes)
    (taken : e.snapshot = some start.store.nextSnapshot) :
    (⟨e.threshold, e.ignoreNull, e.codec⟩ : Factory) = shop.settings :=
  (carries.settings_eq live taken).trans was.settings

include wf sorted undone

theorem text_frozen {text : String} (done : rendering? log = some text) :
    shop.gen (normalized shop.settings.ignoreNull members) = .ok text ∧
      shop.par text = .ok (normalized shop.settings.ignoreNull members) := by
  obtain ⟨failures, shape⟩ := carries.log
  have content := was.content_eq wf sorted
  rw [content, done] at shape
  have member : ⟨normalized shop.settings.ignoreNull members, .ok text⟩ ∈ log := by
    rw [shape]
    simp [attemptsOf]
  obtain ⟨answer, reads⟩ := undone _ member
  exact ⟨answer.symm, reads text rfl⟩

include live taken

theorem payload_frozen (equips : s.Equips shop) :
    (s.payload e).2.map (s.payload e).1.value =
      shownField FieldName.data (members.get? FieldName.data) := by
  have origin_ok := wf.envelopes origin was.live
  have shown := was.payload
  have codec : e.codec = shop.settings.codec :=
    congrArg Factory.codec (settings_frozen carries was live taken)
  have reread (text : String) (done : rendering? log = some text)
      (lost : ∀ ref ∈ origin.payload.owned, s.isAlive ref = false) :
      (s.payload e).2.map (s.payload e).1.value =
        shownField FieldName.data (members.get? FieldName.data) := by
    obtain ⟨-, reads⟩ := text_frozen carries was wf sorted undone done
    rw [carries.payload_dead taken done lost, reread_value (Stored.text_ofText text _), codec,
      Store.parse_follows equips.parses, reads]
    exact shownField_normalized _ _ sorted
  cases payload : origin.payload with
  | live ref =>
    have held : origin.livePayload = some ref := by
      simp [Envelope.livePayload, payload, Slot.upgrade]
    have owned : ref ∈ origin.payload.owned := by simp [payload, Slot.owned]
    cases alive : s.isAlive ref with
    | true =>
      rw [carries.payload_alive taken payload alive, ← shown, held]
      exact congrArg some (carries.values e live taken ref (List.mem_append_right _ owned))
    | false =>
      cases done : rendering? log with
      | none => simp [carries.alive taken live payload done] at alive
      | some text => exact reread text done (by simpa [payload, Slot.owned] using alive)
  | absent | null =>
    cases done : rendering? log with
    | none =>
      rw [carries.payload_pending taken (by simp [payload]) done, ← shown]
      simp [Envelope.livePayload, payload, Slot.upgrade]
    | some text => exact reread text done (by simp [payload, Slot.owned])
  | weak ref =>
    have open_ := carries.open_
    simp [payload, Slot.watched] at open_

theorem serialize_frozen (equips : s.Equips shop) :
    (s.serialize e).2 =
      match shop.gen (normalized shop.settings.ignoreNull members) with
      | .error cause => .error (.codec cause)
      | .ok text => .ok (Stored.ofText text shop.settings.threshold.toNat) := by
  have settings := settings_frozen carries was live taken
  have codec : e.codec = shop.settings.codec := congrArg Factory.codec settings
  have threshold : e.threshold = shop.settings.threshold := congrArg Factory.threshold settings
  cases done : rendering? log with
  | some text =>
    have origin_threshold : origin.threshold = shop.settings.threshold :=
      congrArg Factory.threshold was.settings
    rw [(text_frozen carries was wf sorted undone done).1, carries.serialize_done taken done,
      origin_threshold]
  | none =>
    have bare : (s.store.snapshot start.store.nextSnapshot).stored = none := by
      rw [carries.stored, done, Option.map_none]
    have fields := (carries.toRender live taken done).trans (was.content_eq wf sorted)
    have answer : (s.store.generate e.codec (s.toRender start.store.nextSnapshot)).2 =
        shop.gen (normalized shop.settings.ignoreNull members) := by
      rw [codec, fields, Store.generate_follows equips.generates]
    rw [← answer, ← threshold]
    rcases called : s.store.generate e.codec (s.toRender start.store.nextSnapshot) with
      ⟨store, cause | text⟩
    · rw [serialize_failed taken bare called]
    · rw [serialize_rendered taken bare called]

end Frozen

-- An envelope that is open, or was before it was frozen.
inductive Drafted (s : Session) (shop : Workshop) (name : String) (hops : Nat) : Draft → Prop where
  | unfrozen {chain : List Envelope} {members : JsonMap} {e : Envelope}
    (found : s.linkedAt? name hops = some ⟨e, chain⟩)
    (shows : s.OpenEnvelope shop.settings members e) (sorted : members.Sorted) :
    Drafted s shop name hops ⟨members, false⟩
  | frozen {chain : List Envelope} {members : JsonMap} {e origin : Envelope} {start : Session}
    {log : List Attempt} (found : s.linkedAt? name hops = some ⟨e, chain⟩)
    (taken : e.snapshot = some start.store.nextSnapshot) (carries : Carries start origin s log)
    (wf : start.WellFormed) (was : start.OpenEnvelope shop.settings members origin)
    (sorted : members.Sorted) (undone : ∀ attempt ∈ log, attempt.Undone shop) :
    Drafted s shop name hops ⟨members, true⟩

structure Views (s : Session) (shop : Workshop) (draft : Draft) (e : Envelope) : Prop where
  frozen : e.isFrozen = draft.frozen
  field : ∀ key, (s.getField e key).2.map (s.getField e key).1.value = draft.shown key
  string : ∀ key, key ≠ FieldName.data →
    s.store.stringField e.fields key = (draft.members.get? key).bind Json.string?
  render : ∀ form, (s.render e form).2.sight =
    if draft.frozen then shop.rendered form draft.members else .error .notFrozen

theorem render_sight_error {error : EnvelopeError} (failed : (s.serialize e).2 = .error error)
    (form : Form) : (s.render e form).2.sight = .error error := by
  rcases given : s.serialize e with ⟨t, result⟩
  rw [given] at failed
  subst failed
  cases form <;> simp [render, json, jsonBytes, wire, given, Except.bind, Except.map, Answer.sight]

theorem render_sight_ok {text : String} {threshold : Nat}
    (stored : (s.serialize e).2 = .ok (Stored.ofText text threshold)) (form : Form) :
    (s.render e form).2.sight =
      match form with
      | .text => .text text
      | .bytes => .bytes text.toUTF8
      | .wire => .wire (Stored.ofText text threshold).wire := by
  rcases given : s.serialize e with ⟨t, result⟩
  rw [given] at stored
  subst stored
  cases form <;> simp [render, json, jsonBytes, wire, given, Except.bind, Except.map, Answer.sight]

theorem OpenEnvelope.views (holds : s.OpenEnvelope shop.settings members e)
    (wf : s.WellFormed) : s.Views shop ⟨members, false⟩ e :=
  { frozen := (e.isFrozen_eq_false_iff).mpr holds.unfrozen
    field := fun key => by
      obtain ⟨same, shown⟩ := holds.get?_shown wf key
      rw [same]
      exact shown
    string := fun _ => holds.stringField
    render := render_sight_error (by rw [serialize_unfrozen holds.unfrozen]) }

theorem views_frozen (carries : Carries start origin s log) (live : e ∈ s.liveEnvelopes)
    (taken : e.snapshot = some start.store.nextSnapshot)
    (was : start.OpenEnvelope shop.settings members origin) (wf : start.WellFormed)
    (sorted : members.Sorted) (undone : ∀ attempt ∈ log, attempt.Undone shop)
    (equips : s.Equips shop) : s.Views shop ⟨members, true⟩ e := by
  have same := carries.sameFields live taken
  refine
    { frozen := (e.isFrozen_iff).mpr ⟨_, taken⟩
      field := fun key => ?_
      string := fun key other => (same.stringField key).trans (was.stringField other)
      render := fun form => ?_ }
  · by_cases data : key = FieldName.data
    · rw [data, getField, if_pos rfl]
      exact payload_frozen carries live taken was wf sorted undone equips
    · rw [same.getField key data, Draft.shown, shownField, if_neg data, ← was.get?_field data]
      exact Option.map_congr fun ref found => same.value key ref found
  · have stored := serialize_frozen carries live taken was wf sorted undone equips
    rw [if_pos rfl, Workshop.rendered]
    cases made : shop.gen (normalized shop.settings.ignoreNull members) with
    | error cause =>
      rw [made] at stored
      exact render_sight_error stored form
    | ok text =>
      rw [made] at stored
      exact render_sight_ok stored form

theorem Drafted.views {draft : Draft} (drafted : s.Drafted shop name hops draft)
    (wf : s.WellFormed) (equips : s.Equips shop) :
    ∃ e chain, s.linkedAt? name hops = some ⟨e, chain⟩ ∧ s.Views shop draft e := by
  cases drafted with
  | unfrozen found shows sorted => exact ⟨_, _, found, shows.views wf⟩
  | frozen found taken carries wf' was sorted undone =>
    exact ⟨_, _, found, views_frozen carries (live_linked found) taken was wf' sorted undone equips⟩

theorem linkedAt?_step {step : Step} (unwritten : .envelope name ∉ step.writes) (hops : Nat) :
    (s.step step).1.linkedAt? name hops = s.linkedAt? name hops := by
  rw [linkedAt?, linkedAt?, (s.step_keeps step).envelopes name unwritten]

section Steps

variable {draft : Draft} (wf : s.WellFormed) (equips : s.Equips shop) (step : Step)
  (undoes : s.Undoes (s.step step).1 shop)

include wf equips undoes

theorem undone_step (carries : Carries start origin s log)
    (was : start.OpenEnvelope shop.settings members origin)
    (undone : ∀ attempt ∈ log, attempt.Undone shop) :
    ∀ attempt ∈ log ++ s.attemptsIn start.store.nextSnapshot step, attempt.Undone shop := by
  have codec (e : Envelope) (live : e ∈ s.liveEnvelopes)
      (taken : e.snapshot = some start.store.nextSnapshot) : e.codec = shop.settings.codec :=
    congrArg Factory.codec (settings_frozen carries was live taken)
  have uses : s.UsesGenerate start.store.nextSnapshot shop.gen := fun e live taken =>
    codec e live taken ▸ equips.generates
  intro attempt member
  rcases List.mem_append.mp member with before | new
  · exact undone attempt before
  · refine ⟨attemptsIn_follows wf uses step attempt new, fun text answer => ?_⟩
    unfold attemptsIn at new
    split at new
    · exact absurd new List.not_mem_nil
    next e subject =>
      split at new
      next taken =>
        rw [codec e (live_of_subject? subject) taken, Store.mem_attemptsSince, answer] at new
        exact undoes _ _ new
      next => exact absurd new List.not_mem_nil

-- What is frozen stays what it was as long as it is there.
theorem frozen_next {target : String} {hops : Nat} {later : List Envelope} {after : Envelope}
    (carries : Carries start origin s log) (wf' : start.WellFormed)
    (was : start.OpenEnvelope shop.settings members origin) (sorted : members.Sorted)
    (undone : ∀ attempt ∈ log, attempt.Undone shop)
    (found : (s.step step).1.linkedAt? target hops = some ⟨after, later⟩)
    (taken : after.snapshot = some start.store.nextSnapshot) :
    (s.step step).1.Drafted shop target hops ⟨members, true⟩ :=
  .frozen found taken (carries.step wf step) wf' was sorted
    (undone_step wf equips step undoes carries was undone)

theorem Drafted.frame (drafted : s.Drafted shop name hops draft)
    (unwritten : .envelope name ∉ step.writes) :
    (s.step step).1.Drafted shop name hops draft := by
  have keeps := linkedAt?_step (s := s) unwritten hops
  cases drafted with
  | frozen found taken carries wf' was sorted undone =>
    exact frozen_next wf equips step undoes carries wf' was sorted undone (keeps.trans found) taken
  | @unfrozen chain members e found shows sorted =>
    obtain ⟨linked, here, there⟩ := Option.bind_eq_some_iff.mp found
    have apart (holder : Holder) (change : Change) (editing : s.EditsMap step holder change) :
        s.envelopeAt? holder ≠ some e :=
      envelopeAt?_apart step wf here unwritten editing
        (mem_all_of_at? there ((mem_all _ e).mpr (.inl rfl)))
    have still : (s.step step).1.OpenEnvelope shop.settings members e :=
      { live := live_linked (keeps.trans found)
        unfrozen := shows.unfrozen
        settings := shows.settings
        fields := (valuesOf_envelope step wf shows.live apart).trans shows.fields
        payload := by
          rw [← shows.payload]
          refine Option.map_congr fun ref found => value_of_envelope step wf shows.live ?_ apart
          simp [Envelope.livePayload_owned found] }
    exact .unfrozen (keeps.trans found) still sorted

end Steps

end Session

end Bayeux
