import Bayeux.Proofs.Session.Frame
import Bayeux.Proofs.Session.Simulation

set_option autoImplicit false

namespace Bayeux

namespace Slot

variable {slot : Slot} {before after : Ref → Bool} {ref : Ref}

theorem upgrade_mono (mono : ∀ ref ∈ slot.watched, after ref → before ref)
    (found : slot.upgrade after = some ref) : slot.upgrade before = some ref := by
  cases slot with
  | absent | null => exact nomatch found
  | live other => exact found
  | weak other =>
    have there : after other ∧ other = ref := by simpa [upgrade] using found
    have here := mono other List.mem_cons_self there.1
    simp [upgrade, ← there.2, here]

theorem upgrade_lost (found : slot.upgrade before = some ref) (lost : slot.upgrade after = none) :
    ref ∈ slot.watched ∧ after ref = false := by
  cases slot with
  | absent | null => exact nomatch found
  | live other => exact nomatch lost
  | weak other =>
    have there : before other ∧ other = ref := by simpa [upgrade] using found
    have here : after other = false := by simpa [upgrade] using lost
    exact ⟨List.mem_singleton.mpr there.2.symm, there.2 ▸ here⟩

end Slot

namespace Session

def fieldsAt? (s : Session) : Holder → Option Fields
  | .handle _ => none
  | .message name => (s.messages.get? name).map (·.fields)
  | .envelope name => (s.envelopes.get? name).map (·.envelope.fields)

def envelopeAt? (s : Session) : Holder → Option Envelope
  | .envelope name => (s.envelopes.get? name).map (·.envelope)
  | _ => none

def shown? (s : Session) : Holder → Option Json
  | .handle name => (s.handles.get? name).map s.value
  | holder => (s.fieldsAt? holder).map fun fields => .object (s.store.valuesOf fields)

-- A step edits the map of an object, which is there and can be written to.
inductive EditsMap (s : Session) : Step → Holder → Change → Prop where
  | message {name : String} {message : Message} {create : Bool} {edits : List MapEdit}
    {into : Option String} (found : s.messages.get? name = some message) :
    EditsMap s (.editMessage name (.ext create edits) into) (.message name) (.ext create edits)
  | envelope {name : String} {linked : Linked} {create : Bool} {edits : List MapEdit}
    {into : Option String} (found : s.envelopes.get? name = some linked)
    (unshared : s.isShared linked.envelope = false) (unfrozen : linked.envelope.snapshot = none) :
    EditsMap s (.editEnvelope name (.ext create edits) into) (.envelope name) (.ext create edits)

variable {s t : Session} {e : Envelope} {step : Step} {holder other : Holder} {change : Change}
  {fields : Fields} {ref : Ref} {name : String}

theorem EditsMap.writes (editing : s.EditsMap step holder change) : step.writes = [holder] := by
  cases editing <;> rfl

theorem EditsMap.edits (editing : s.EditsMap step holder change) :
    ∃ create edits, change = .ext create edits := by
  cases editing <;> exact ⟨_, _, rfl⟩

-- A step that edits the map of nothing changes nothing.
theorem editedFields?_cases (edited : s.editedFields? step = some fields) :
    (s.step step).1 = s ∨
      ∃ holder change, s.EditsMap step holder change ∧ s.fieldsAt? holder = some fields := by
  cases step with
  | editMessage name edit into =>
    cases edit with
    | ext create edits =>
      obtain ⟨message, found, rfl⟩ := Option.map_eq_some_iff.mp edited
      exact .inr ⟨_, _, .message found, edited⟩
    | put | assign | remove => simp [editedFields?] at edited
  | editEnvelope name edit into =>
    cases edit with
    | ext create edits =>
      obtain ⟨linked, found, rfl⟩ := Option.map_eq_some_iff.mp edited
      cases shared : s.isShared linked.envelope with
      | true =>
        have here := (linkedAt?_zero name).trans found
        exact .inl (by simp [Session.step, withWritable, withEnvelope_found here, shared])
      | false =>
        cases frozen : linked.envelope.isFrozen with
        | true =>
          exact .inl (by simp [Session.step, withWritable_found found shared, editEnvelope, frozen])
        | false =>
          have unfrozen := (Envelope.isFrozen_eq_false_iff _).mp frozen
          exact .inr ⟨_, _, .envelope found shared unfrozen, edited⟩
    | put | assign | remove => simp [editedFields?] at edited
  | _ => simp [editedFields?] at edited

section Counts

variable (there : s.fieldsAt? holder = some fields) (ref)

include there

theorem fieldsAt?_cases :
    (∃ name message, holder = .message name ∧ s.messages.get? name = some message ∧
      fields = message.fields) ∨
    ∃ name linked, holder = .envelope name ∧ s.envelopes.get? name = some linked ∧
      fields = linked.envelope.fields := by
  cases holder with
  | handle name => simp [fieldsAt?] at there
  | message name =>
    obtain ⟨message, found, rfl⟩ := Option.map_eq_some_iff.mp there
    exact .inl ⟨name, message, rfl, found, rfl⟩
  | envelope name =>
    obtain ⟨linked, found, rfl⟩ := Option.map_eq_some_iff.mp there
    exact .inr ⟨name, linked, rfl, found, rfl⟩

theorem count_with_handles :
    fields.values.count ref + s.handles.values.count ref ≤ s.owners.count ref := by
  simp only [owners, List.count_append]
  rcases fieldsAt?_cases there with ⟨name, message, -, found, rfl⟩ | ⟨name, linked, -, found, rfl⟩
  · have := count_le_flatMap (Table.mem_values_of_get? found) (·.fields.values) ref
    omega
  · have := count_le_flatMap (live_head found) (·.owned s.store) ref
    simp only [Envelope.owned, List.count_append] at this ⊢
    omega

theorem count_with_message (differ : holder ≠ .message name) {message : Message}
    (found : s.messages.get? name = some message) :
    fields.values.count ref + message.fields.values.count ref ≤ s.owners.count ref := by
  rcases fieldsAt?_cases there with
    ⟨name', message', rfl, found', rfl⟩ | ⟨name', linked, -, found', rfl⟩
  · have differ' : name' ≠ name := fun same => differ (congrArg Holder.message same)
    have := Table.count_flatMap_pair (·.fields.values) differ' found' found ref
    simp only [owners, List.count_append]
    omega
  · have := both_own ref (Table.mem_values_of_get? found) (live_head found')
    simp only [Envelope.owned, List.count_append] at this
    omega

theorem count_with_envelope (differ : s.envelopeAt? holder ≠ some e) (live : e ∈ s.liveEnvelopes) :
    fields.values.count ref + (e.owned s.store).count ref ≤ s.owners.count ref := by
  rcases fieldsAt?_cases there with ⟨name, message, rfl, found, rfl⟩ | ⟨name, linked, rfl, found, rfl⟩
  · exact both_own ref (Table.mem_values_of_get? found) live
  · have differ' : linked.envelope ≠ e := by simpa [envelopeAt?, found] using differ
    have := count_pair_le_flatMap differ' (live_head found) live (·.owned s.store) ref
    simp only [owners, Envelope.owned, List.count_append] at this ⊢
    omega

end Counts

section Values

variable (wf : s.WellFormed) (step)

include wf

-- A value may change only where the map of an object is edited that has the value for itself.
theorem value_of_shared (has : s.store.HasValue ref)
    (shared : ∀ holder change fields, s.EditsMap step holder change →
      s.fieldsAt? holder = some fields → ref ∈ fields.values → 2 ≤ s.owners.count ref) :
    (s.step step).1.value ref = s.value ref := by
  cases edited : s.editedFields? step with
  | none => exact value_shared wf step has fun fields here => by simp [edited] at here
  | some fields =>
    rcases editedFields?_cases edited with same | ⟨holder, change, editing, there⟩
    · rw [same]
    · refine value_shared wf step has fun fields' here found => ?_
      obtain rfl := Option.some.inj (edited.symm.trans here)
      exact shared holder change _ editing there (Table.mem_values_of_get? found)

theorem value_of_handle (held : ref ∈ s.handles.values) :
    (s.step step).1.value ref = s.value ref := by
  refine value_of_shared step wf (wf.handles ref held) fun holder change fields _ there mine => ?_
  have := count_with_handles ref there
  have := List.count_pos_iff.mpr held
  have := List.count_pos_iff.mpr mine
  omega

theorem value_of_message {message : Message} (found : s.messages.get? name = some message)
    (held : ref ∈ message.fields.values) (apart : .message name ∉ step.writes) :
    (s.step step).1.value ref = s.value ref := by
  have ok := wf.messages message (Table.mem_values_of_get? found)
  refine value_of_shared step wf (ok.listed ref held) fun holder change fields editing there mine => ?_
  have differ : holder ≠ .message name := by
    rintro rfl
    simp [editing.writes] at apart
  have := count_with_message ref there differ found
  have := List.count_pos_iff.mpr held
  have := List.count_pos_iff.mpr mine
  omega

theorem value_of_envelope (live : e ∈ s.liveEnvelopes)
    (held : ref ∈ e.fields.values ++ (e.payload.owned ++ e.payload.watched))
    (apart : ∀ holder change, s.EditsMap step holder change → s.envelopeAt? holder ≠ some e) :
    (s.step step).1.value ref = s.value ref := by
  have ok := wf.envelopes e live
  cases taken : e.snapshot with
  | some id =>
    have frozen := (e.isFrozen_iff).mpr ⟨id, taken⟩
    obtain ⟨bare, -⟩ := ok.frozen id taken
    exact value_step wf live frozen (by simpa [bare] using held) step
  | none =>
    obtain ⟨bare, -⟩ := ok.unfrozen taken
    have owned : ref ∈ e.owned s.store := by
      rw [Envelope.mem_owned_open taken]
      simpa [bare] using held
    have has := wf.listed_envelope live (List.mem_append_left _ owned)
    refine value_of_shared step wf has fun holder change fields editing there mine => ?_
    have := count_with_envelope ref there (apart holder change editing) live
    have := List.count_pos_iff.mpr owned
    have := List.count_pos_iff.mpr mine
    omega

-- An envelope under a name that is not written is not the one whose map is edited.
theorem envelopeAt?_apart {linked : Linked} (found : s.envelopes.get? name = some linked)
    (unwritten : .envelope name ∉ step.writes) (editing : s.EditsMap step holder change)
    (member : e ∈ linked.all) : s.envelopeAt? holder ≠ some e := by
  cases editing with
  | message found' => simp [envelopeAt?]
  | @envelope name' linked' create edits into found' unshared unfrozen =>
    intro same
    have itself : linked'.envelope = e := by simpa [envelopeAt?, found'] using same
    rcases (mem_all linked e).mp member with head | chained
    · have named := wf.heads name name' linked linked' found found' (by rw [itself, head])
      exact unwritten (named ▸ Step.target_mem_writes rfl)
    · exact not_in_chain unshared found chained (congrArg Envelope.id itself.symm)

theorem valuesOf_envelope (live : e ∈ s.liveEnvelopes)
    (apart : ∀ holder change, s.EditsMap step holder change → s.envelopeAt? holder ≠ some e) :
    (s.step step).1.store.valuesOf e.fields = s.store.valuesOf e.fields :=
  Table.mapValues_congr fun _ member =>
    value_of_envelope step wf live (List.mem_append_left _ member) apart

theorem shown_step (unwritten : holder ∉ step.writes) :
    (s.step step).1.shown? holder = s.shown? holder := by
  have keeps := s.step_keeps step
  cases holder with
  | handle name =>
    simp only [shown?, keeps.handles name unwritten]
    exact Option.map_congr fun ref found =>
      value_of_handle step wf (Table.mem_values_of_get? found)
  | message name =>
    simp only [shown?, fieldsAt?, keeps.messages name unwritten, Option.map_map]
    refine Option.map_congr fun message found => congrArg Json.object ?_
    exact Table.mapValues_congr fun _ member => value_of_message step wf found member unwritten
  | envelope name =>
    simp only [shown?, fieldsAt?, keeps.envelopes name unwritten, Option.map_map]
    refine Option.map_congr fun linked found => congrArg Json.object ?_
    exact valuesOf_envelope step wf (live_head found) fun holder change editing =>
      envelopeAt?_apart step wf found unwritten editing ((mem_all linked _).mpr (.inl rfl))

end Values

theorem shown_after (wf : s.WellFormed) {later : List Step}
    (unwritten : ∀ step ∈ later, holder ∉ step.writes) :
    (s.after later).shown? holder = s.shown? holder := by
  induction later generalizing s with
  | nil => rfl
  | cons first rest ih =>
    have next := ih (step_sound wf first).wf fun step member =>
      unwritten step (List.mem_cons_of_mem _ member)
    exact next.trans (shown_step first wf (unwritten first List.mem_cons_self))

-- The other fields of an envelope keep their values when its map is edited.
theorem values_editExt (wf : s.WellFormed) (live : e ∈ s.liveEnvelopes) (unfrozen : e.snapshot = none)
    {fields' : Fields} {v : Option Json} (changed : s.FieldChange e.fields FieldName.ext t fields' v)
    {other : String} (differ : other ≠ FieldName.ext) (here : e.fields.get? other = some ref) :
    t.value ref = s.value ref := by
  refine changed.kept ((wf.envelopes e live).fields.get? here) fun there => ?_
  have twice := Table.two_le_count differ here there
  have held := owned_le_owners ref live
  rw [Envelope.count_owned_open unfrozen] at held
  omega

theorem EditsMap.shown (wf : s.WellFormed) (editing : s.EditsMap step holder change) :
    ∃ members, s.shown? holder = some (.object members) ∧
      (s.step step).2.outcome? = some (change.outcome members) ∧
      (s.step step).1.shown? holder = some (.object (change.apply members)) := by
  cases editing with
  | @message name message create edits into found =>
    have holds : s.HoldsMessage name (s.store.valuesOf message.fields) := ⟨message, found, rfl⟩
    have made : s.change? (.ext create edits) = some (.ext create edits) := rfl
    obtain ⟨⟨after, found', values⟩, outcome⟩ := holds.edit wf made into
    refine ⟨_, by simp [shown?, fieldsAt?, found], outcome, ?_⟩
    simp [shown?, fieldsAt?, found', values]
  | @envelope name linked create edits into found unshared unfrozen =>
    have live := live_head found
    have open_ := (Envelope.isFrozen_eq_false_iff _).mpr unfrozen
    have ok := (wf.envelopes _ live).fields
    obtain ⟨changed, edited⟩ := editExt_correct wf ok create edits
    rw [Session.step, withWritable_found found unshared]
    simp only [editEnvelope, open_, Bool.false_eq_true, if_false]
    generalize s.editExt linked.envelope.fields create edits = result at changed edited
    obtain ⟨t, fields, members⟩ := result
    rw [← get?_valuesOf] at changed edited
    have values := changed.ext_values ok fun _ _ => values_editExt wf live unfrozen changed
    refine ⟨s.store.valuesOf linked.envelope.fields, by simp [shown?, fieldsAt?, found],
      congrArg (fun members => some (Outcome.edited members)) edited, ?_⟩
    simp [shown?, fieldsAt?, setEnvelope, ← values]

theorem EditsMap.unseen (wf : s.WellFormed) (editing : s.EditsMap step holder change)
    (differ : other ≠ holder) : (s.step step).1.shown? other = s.shown? other :=
  shown_step step wf (by simpa [editing.writes] using differ)

theorem EditsMap.only_values (editing : s.EditsMap step holder change) :
    ∃ values, (s.step step).1.store = { s.store with values } := by
  cases editing with
  | @message name message create edits into found =>
    obtain ⟨values, same⟩ := s.editExt_eq message.fields create edits
    exact ⟨values, by simp only [step_editMessage found, editMessage, same, setMessage]⟩
  | @envelope name linked create edits into found unshared unfrozen =>
    have open_ := (Envelope.isFrozen_eq_false_iff _).mpr unfrozen
    obtain ⟨values, same⟩ := s.editExt_eq linked.envelope.fields create edits
    refine ⟨values, ?_⟩
    rw [Session.step, withWritable_found found unshared]
    simp only [editEnvelope, open_, Bool.false_eq_true, if_false, same, setEnvelope]

theorem EditsMap.live (wf : s.WellFormed) (editing : s.EditsMap step holder change)
    (live : e ∈ s.liveEnvelopes) (apart : s.envelopeAt? holder ≠ some e) :
    e ∈ (s.step step).1.liveEnvelopes := by
  cases editing with
  | @message name message create edits into found =>
    have same := envelopes_editMessage wf found (.ext create edits) into
    rw [← step_editMessage found] at same
    rwa [liveEnvelopes, same]
  | @envelope name linked create edits into found unshared unfrozen =>
    have open_ := (Envelope.isFrozen_eq_false_iff _).mpr unfrozen
    obtain ⟨values, same⟩ := s.editExt_eq linked.envelope.fields create edits
    rw [Session.step, withWritable_found found unshared]
    simp only [editEnvelope, open_, Bool.false_eq_true, if_false, same]
    refine (live_insert wf.sorted rfl e).mpr ?_
    obtain ⟨other, linked', found', member⟩ := (mem_liveEnvelopes wf.sorted e).mp live
    by_cases here : other = name
    · subst here
      obtain rfl := Option.some.inj (found.symm.trans found')
      refine .inl (List.mem_cons_of_mem _ (((mem_all linked e).mp member).resolve_left ?_))
      rintro rfl
      exact apart (by simp [envelopeAt?, found])
    · exact .inr ⟨other, linked', here, found', member⟩

theorem reread_same {codec : CodecId} {text : String} {stored : Stored}
    (readable : stored.text = .ok text) (same : t.store.codec codec = s.store.codec codec) :
    (t.reread codec stored).2.map (t.reread codec stored).1.value =
      (s.reread codec stored).2.map (s.reread codec stored).1.value := by
  rw [reread_value readable, reread_value readable]
  simp only [Store.parse, same]

/-- An envelope reads as before. A payload that only weak references knew may be gone; it is read
from the text then. -/
structure Unseen (s t : Session) (e : Envelope) : Prop where
  live : e ∈ t.liveEnvelopes
  fields : t.store.valuesOf e.fields = s.store.valuesOf e.fields
  payload : (t.payload e).2.map (t.payload e).1.value = (s.payload e).2.map (s.payload e).1.value ∨
    ∃ ref stored, s.payload e = (s, some ref) ∧ t.isAlive ref = false ∧
      e.stored? s.store = some stored ∧ t.payload e = t.reread e.codec stored

theorem EditsMap.apart (editing : s.EditsMap step holder change)
    (differ : s.envelopeAt? holder ≠ some e) (other : Holder) (made : Change)
    (editing' : s.EditsMap step other made) : s.envelopeAt? other ≠ some e := by
  have same := editing.writes.symm.trans editing'.writes
  rwa [← List.singleton_inj.mp same]

theorem alive_before (wf : s.WellFormed) (has : s.store.HasValue ref)
    (alive : (s.step step).1.isAlive ref) : s.isAlive ref := by
  cases dead : s.isAlive ref with
  | true => rfl
  | false =>
    have gone : s.IsDead ref := ⟨has, by simpa [isAlive] using dead⟩
    exact absurd (by simpa [isAlive] using alive) (gone.step wf step).2

theorem EditsMap.payload (wf : s.WellFormed) (editing : s.EditsMap step holder change)
    (live : e ∈ s.liveEnvelopes) (differ : s.envelopeAt? holder ≠ some e) :
    let t := (s.step step).1
    (t.payload e).2.map (t.payload e).1.value = (s.payload e).2.map (s.payload e).1.value ∨
      ∃ ref stored, s.payload e = (s, some ref) ∧ t.isAlive ref = false ∧
        e.stored? s.store = some stored ∧ t.payload e = t.reread e.codec stored := by
  intro t
  have ok := wf.envelopes e live
  obtain ⟨values, only⟩ := editing.only_values
  have kept (ref : Ref) (held : ref ∈ e.payload.owned ++ e.payload.watched) :
      t.value ref = s.value ref :=
    value_of_envelope step wf live (List.mem_append_right _ held) (editing.apart differ)
  cases taken : e.snapshot with
  | none =>
    left
    have read (u : Session) : u.payload e = (u, e.payload.upgrade u.isAlive) := by
      simp only [Session.payload, taken]
    obtain ⟨bare, -⟩ := ok.unfrozen taken
    rw [read, read]
    cases slot : e.payload with
    | absent | null => rfl
    | live ref => exact congrArg some (kept ref (by simp [slot, Slot.owned]))
    | weak ref => simp [slot, Slot.watched] at bare
  | some id =>
    obtain ⟨-, -, captured⟩ := ok.frozen id taken
    have snapshot : t.store.snapshot id = s.store.snapshot id := by
      rw [only]
      rfl
    have held (ref : Ref) (member : ref ∈ (s.store.snapshot id).payload.owned ++
        (s.store.snapshot id).payload.watched) : ref ∈ e.payload.owned ++ e.payload.watched :=
      List.mem_append_right _ (captured.slot ▸ member)
    cases after : (s.store.snapshot id).payload.upgrade t.isAlive with
    | some ref =>
      left
      have before : (s.store.snapshot id).payload.upgrade s.isAlive = some ref := by
        refine Slot.upgrade_mono (fun other watched alive => ?_) after
        exact alive_before wf (ok.payload other (held other (List.mem_append_right _ watched))) alive
      simp only [Session.payload, taken, snapshot, after, before]
      exact congrArg some (kept ref (held ref (Slot.listed_of_upgrade after)))
    | none =>
      cases before : (s.store.snapshot id).payload.upgrade s.isAlive with
      | none =>
        left
        simp only [Session.payload, taken, snapshot, after, before]
        cases stored : (s.store.snapshot id).stored with
        | none => rfl
        | some stored =>
          obtain ⟨text, rfl⟩ := captured.form _ stored
          refine reread_same (Stored.text_ofText text _) ?_
          rw [only]
          rfl
      | some ref =>
        right
        obtain ⟨watched, gone⟩ := Slot.upgrade_lost before after
        cases done : (s.store.snapshot id).stored with
        | none => simp [captured.held done] at watched
        | some stored =>
          refine ⟨ref, stored, ?_, gone, ?_, ?_⟩
          · simp only [Session.payload, taken, before]
          · simp [Envelope.stored?, taken, done]
          · simp only [Session.payload, taken, snapshot, after, done]

theorem EditsMap.unseen_by (wf : s.WellFormed) (editing : s.EditsMap step holder change)
    (live : e ∈ s.liveEnvelopes) (differ : s.envelopeAt? holder ≠ some e) :
    s.Unseen (s.step step).1 e :=
  { live := editing.live wf live differ
    fields := valuesOf_envelope step wf live (editing.apart differ)
    payload := editing.payload wf live differ }

end Session

end Bayeux
