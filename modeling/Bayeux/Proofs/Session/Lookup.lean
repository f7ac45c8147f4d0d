import Bayeux.Proofs.Session.Liveness
import Bayeux.Proofs.Session.Sharing

set_option autoImplicit false

namespace Bayeux

namespace Session

variable {s t : Session} {fields new : Fields} {holder : Holder} {key name : String} {ref own : Ref}
  {edits : List MapEdit} {step : Step}

-- Messages are listed in the order of their names, so that one that is put back as it was changes
-- nothing.
def Listed (s : Session) : Prop := s.messages.Sorted

section Listed

variable (listed : s.Listed)

include listed

theorem keep_listed (into : Option String) (ref : Option Ref) : (s.keep into ref).Listed := by
  rw [Listed, messages_keep]
  exact listed

theorem editMessage_listed (message : Message) (edit : Edit) (into : Option String) :
    (s.editMessage name message edit into).1.Listed := by
  cases edit with
  | put key argument =>
    simp only [editMessage]
    split
    · exact listed
    next given =>
      obtain ⟨store, rfl⟩ := argument_eq given
      apply keep_listed
      exact Table.Sorted.insert listed _ _
  | assign key argument =>
    simp only [editMessage]
    split
    · exact listed
    next given =>
      obtain ⟨store, rfl⟩ := argument_eq given
      exact Table.Sorted.insert listed _ _
  | remove key =>
    apply keep_listed
    exact Table.Sorted.insert listed _ _
  | ext create edits =>
    obtain ⟨values, same⟩ := s.editExt_eq message.fields create edits
    simp only [editMessage, same]
    exact Table.Sorted.insert listed _ _

theorem read_listed (e : Envelope) : (s.payload e).1.Listed := by
  obtain ⟨store, events, same⟩ := payload_eq (s := s) (e := e)
  rw [same]
  exact listed

theorem step_listed (wf : s.WellFormed) (step : Step) : (s.step step).1.Listed := by
  cases step with
  | addCodec | newValue | dropHandle | dropEnvelope => exact listed
  | showHandle | newProbe | askProbe =>
    simp only [Session.step]
    split <;> exact listed
  | newMessage => exact Table.Sorted.insert listed _ _
  | parseMessage =>
    simp only [Session.step]
    split
    · exact listed
    · exact Table.Sorted.insert listed _ _
  | countCalls => exact withCodec_cases listed fun _ _ => listed
  | listFields | showMessage | serializeMessage =>
    exact withMessage_cases listed fun _ _ => listed
  | takeFields => exact withMessage_cases listed fun _ _ => Table.Sorted.erase listed _
  | editMessage => exact withMessage_cases listed fun message _ => editMessage_listed listed message _ _
  | getField => exact withMessage_cases listed fun _ _ => keep_listed listed _ _
  | generateMessage =>
    refine withMessage_cases listed fun _ _ => withCodec_cases listed fun _ _ => ?_
    dsimp only
    split <;> exact listed
  | cloneMessage => exact withMessage_cases listed fun _ _ => Table.Sorted.insert listed _ _
  | compareMessages =>
    exact withMessage_cases listed fun _ _ => withMessage_cases listed fun _ _ => listed
  | dropMessage => exact Table.Sorted.erase listed _
  | newFactory | newEnvelope => exact withCodec_cases listed fun _ _ => listed
  | parseFactory =>
    refine withCodec_cases listed fun _ _ => ?_
    split <;> exact listed
  | adjustFactory | createEnvelope => exact withFactory_cases listed fun _ _ => listed
  | parseWith =>
    refine withFactory_cases listed fun _ _ => ?_
    dsimp only
    split <;> exact listed
  | wrapMessage | freezeMessage =>
    exact withFactory_cases listed fun _ _ => withMessage_cases listed fun _ _ => listed
  | envelopeOf =>
    exact withMessage_cases listed fun _ _ => withCodec_cases listed fun _ _ => listed
  | copyEnvelope | showEnvelope | outlineEnvelope =>
    exact withEnvelope_cases listed fun _ _ => listed
  | editEnvelope name edit into =>
    refine withWritable_cases listed fun linked found _ => ?_
    rw [Listed, messages_editEnvelope wf found]
    exact listed
  | readField name hops key into =>
    refine withEnvelope_cases listed fun linked _ => ?_
    have read : (s.getField linked.envelope key).1.Listed := by
      unfold getField
      split
      · exact read_listed listed linked.envelope
      · exact listed
    exact keep_listed read _ _
  | readMap name hops field into =>
    refine withEnvelope_cases listed fun linked _ => keep_listed ?_ _ _
    cases field with
    | data => exact read_listed listed linked.envelope
    | ext | advice => exact listed
  | freeze =>
    refine withWritable_cases listed fun linked _ _ => ?_
    unfold Session.freeze
    dsimp only
    split <;> exact listed
  | setLazy | setLocal => exact withWritable_cases listed fun _ _ _ => listed
  | associate name other =>
    refine withWritable_cases listed fun linked _ _ => ?_
    cases other with
    | none => exact listed
    | some other =>
      refine withEnvelope_cases listed fun _ _ => ?_
      dsimp only
      split <;> exact listed
  | render =>
    refine withEnvelope_cases listed fun linked _ => ?_
    obtain ⟨store, only⟩ := serialize_eq (s := s) (e := linked.envelope)
    rw [render_fst, only]
    exact listed
  | renderAtOnce _ _ workers =>
    refine withEnvelope_cases listed fun linked _ => ?_
    obtain ⟨store, only⟩ := renderTimes_eq (s := s) (e := linked.envelope) workers
    dsimp only
    rw [only]
    exact listed

end Listed

theorem reached_listed (steps : List Step) : (reached steps).Listed := by
  have run (steps : List Step) (s : Session) (wf : s.WellFormed) (listed : s.Listed) :
      (s.after steps).Listed := by
    induction steps generalizing s with
    | nil => exact listed
    | cons first rest ih => exact ih _ (step_sound wf first).wf (step_listed listed wf first)
  exact run steps empty empty_wellFormed Table.sorted_nil

section Maps

variable (found : fields.get? key = some ref) (noMap : (s.value ref).isObject = false)

theorem editMap_absent (missing : fields.get? key = none) :
    s.editMap fields key edits = (s, fields, none) := by
  simp only [editMap, missing]

include found noMap

theorem editMap_exclusive (sorted : fields.Sorted) (exclusive : s.isExclusive ref) :
    s.editMap fields key edits = (s, fields, none) := by
  have same := Table.insert_of_get? sorted found
  simp only [editMap, found, makeExclusive, exclusive, if_true, same]
  split
  next members object => simp [object, Json.isObject] at noMap
  next => rfl

theorem editMap_shared (shared : s.isExclusive ref = false) :
    s.editMap fields key edits =
      ((s.alloc (s.value ref)).1, fields.insert key (s.alloc (s.value ref)).2, none) := by
  have copied : (s.alloc (s.value ref)).1.value (s.alloc (s.value ref)).2 = s.value ref :=
    s.store.value_alloc_self _
  simp only [editMap, found, makeExclusive, shared, Bool.false_eq_true, if_false, copied]
  split
  next members object => simp [object, Json.isObject] at noMap
  next => rfl

end Maps

section Holders

def setFields (s : Session) (fields : Fields) : Holder → Session
  | .handle _ => s
  | .message name => s.setMessage name ⟨fields⟩
  | .envelope name =>
    match s.envelopes.get? name with
    | some linked => s.setEnvelope name linked { linked.envelope with fields }
    | none => s

theorem EditsMap.step_eq {create : Bool} (editing : s.EditsMap step holder (.ext create edits))
    (there : s.fieldsAt? holder = some fields) :
    s.step step =
      ((s.editExt fields create edits).1.setFields (s.editExt fields create edits).2.1 holder,
        .edited (s.editExt fields create edits).2.2) := by
  cases editing with
  | message found =>
    obtain rfl : _ = fields := by simpa [fieldsAt?, found] using there
    rw [step_editMessage found]
    rfl
  | @envelope name linked create edits into found unshared unfrozen =>
    obtain rfl : linked.envelope.fields = fields := by simpa [fieldsAt?, found] using there
    have open_ := (Envelope.isFrozen_eq_false_iff _).mpr unfrozen
    have still : (s.editExt linked.envelope.fields create edits).1.envelopes.get? name =
        some linked := by
      obtain ⟨values, same⟩ := s.editExt_eq linked.envelope.fields create edits
      rw [same]
      exact found
    rw [Session.step, withWritable_found found unshared]
    simp only [editEnvelope, open_, Bool.false_eq_true, if_false, setFields, still]

theorem EditsMap.there {change : Change} (editing : s.EditsMap step holder change) :
    ∃ fields, s.fieldsAt? holder = some fields := by
  cases editing with
  | message found | envelope found =>
    rw [fieldsAt?, found]
    exact ⟨_, rfl⟩

theorem shown?_eq (there : s.fieldsAt? holder = some fields) :
    s.shown? holder = some (.object (s.store.valuesOf fields)) := by
  cases holder with
  | handle name => exact nomatch there
  | message name | envelope name => simp only [shown?, there, Option.map_some]

theorem setFields_only (s : Session) (new : Fields) (holder : Holder) :
    ∃ messages envelopes, s.setFields new holder = { s with messages, envelopes } := by
  unfold setFields
  split
  · exact ⟨_, _, rfl⟩
  · exact ⟨_, _, rfl⟩
  · split <;> exact ⟨_, _, rfl⟩

theorem setFields_same (wf : s.WellFormed) (listed : s.Listed)
    (there : s.fieldsAt? holder = some fields) : s.setFields fields holder = s := by
  rcases fieldsAt?_cases there with ⟨name, message, rfl, found, rfl⟩ | ⟨name, linked, rfl, found, rfl⟩
  · simp only [setFields, setMessage, Table.insert_of_get? listed found]
  · simp only [setFields, found, setEnvelope, Table.insert_of_get? wf.sorted found]

theorem count_le_setFields (there : s.fieldsAt? holder = some fields) (new : Fields) (ref : Ref) :
    s.owners.count ref + new.values.count ref ≤
      (s.setFields new holder).owners.count ref + fields.values.count ref := by
  rcases fieldsAt?_cases there with ⟨name, message, rfl, found, rfl⟩ | ⟨name, linked, rfl, found, rfl⟩
  · exact count_setMessage found ⟨new⟩ ref
  · have := count_setEnvelope found { linked.envelope with fields := new } ref
    simp only [Envelope.owned, List.count_append] at this
    simp only [setFields, found]
    omega

theorem fieldsAt?_setFields (there : s.fieldsAt? holder = some fields) (new : Fields) :
    (s.setFields new holder).fieldsAt? holder = some new := by
  rcases fieldsAt?_cases there with ⟨name, message, rfl, found, rfl⟩ | ⟨name, linked, rfl, found, rfl⟩
  · simp [fieldsAt?, setFields, setMessage]
  · simp [fieldsAt?, setFields, found, setEnvelope]

theorem setFields_back (wf : s.WellFormed) (listed : s.Listed)
    (there : s.fieldsAt? holder = some fields) (new : Fields) :
    (s.setFields new holder).setFields fields holder = s := by
  rcases fieldsAt?_cases there with ⟨name, message, rfl, found, rfl⟩ | ⟨name, linked, rfl, found, rfl⟩
  · simp only [setFields, setMessage, Table.insert_insert_self listed,
      Table.insert_of_get? listed found]
  · simp only [setFields, found, setEnvelope, Table.get?_insert_self,
      Table.insert_insert_self wf.sorted, Table.insert_of_get? wf.sorted found]

theorem fieldsOk_at (wf : s.WellFormed) (there : s.fieldsAt? holder = some fields) :
    FieldsOk s.store fields := by
  rcases fieldsAt?_cases there with ⟨name, message, rfl, found, rfl⟩ | ⟨name, linked, rfl, found, rfl⟩
  · exact wf.messages message (Table.mem_values_of_get? found)
  · exact (wf.envelopes linked.envelope (live_head found)).fields

theorem count_setFields (wf : s.WellFormed) (listed : s.Listed)
    (there : s.fieldsAt? holder = some fields) (new : Fields) (ref : Ref) :
    (s.setFields new holder).owners.count ref + fields.values.count ref =
      s.owners.count ref + new.values.count ref := by
  have given := count_le_setFields there new ref
  have taken := count_le_setFields (fieldsAt?_setFields there new) fields ref
  rw [setFields_back wf listed there] at taken
  omega

end Holders

def detached (s : Session) (holder : Holder) (fields : Fields) (ref : Ref) : Session :=
  let (t, own) := s.alloc (s.value ref)
  t.setFields (fields.insert FieldName.ext own) holder

section Detached

variable (wf : s.WellFormed) (listed : s.Listed) (there : s.fieldsAt? holder = some fields)
  (found : fields.get? FieldName.ext = some ref)

include wf there found

theorem copy_ne : (s.alloc (s.value ref)).2 ≠ ref := by
  intro same
  apply s.store.alloc_new (s.value ref)
  rw [show (s.store.alloc (s.value ref)).2 = ref from same]
  exact (fieldsOk_at wf there).get? found

include listed

-- One holder fewer of what was the extension; the others have those they had.
theorem count_detached (old : s.store.HasValue own) :
    (s.detached holder fields ref).owners.count own + [ref].count own = s.owners.count own := by
  have differ : (s.alloc (s.value ref)).2 ≠ own := fun same =>
    s.store.alloc_new (s.value ref) (same ▸ old)
  have owners : (s.alloc (s.value ref)).1.owners = s.owners :=
    owners_store wf (s.store.alloc_advance _) fun _ => False.elim
  have moved := count_setFields (s := (s.alloc (s.value ref)).1) (alloc_sound wf _).wf listed there
    (fields.insert FieldName.ext (s.alloc (s.value ref)).2) own
  have replaced := Table.count_insert (fieldsOk_at wf there).sorted found
    (s.alloc (s.value ref)).2 own
  have apart : [(s.alloc (s.value ref)).2].count own = 0 :=
    List.count_eq_zero.mpr fun member => differ (List.mem_singleton.mp member).symm
  rw [owners] at moved
  simp only [detached]
  omega

theorem isAlive_detached (alive : s.isAlive own) :
    (s.detached holder fields ref).isAlive own = false ↔ own = ref ∧ s.owners.count ref = 1 := by
  have owned := isAlive_iff.mp alive
  have count := count_detached wf listed there found (wf.listed_owner owned)
  have held := List.count_pos_iff.mpr owned
  simp only [isAlive, List.contains_eq_mem, decide_eq_false_iff_not, ← List.count_eq_zero]
  by_cases same : own = ref
  · subst same
    have single : [own].count own = 1 := List.count_singleton_self
    simp only [true_and]
    omega
  · have apart : [ref].count own = 0 :=
      List.count_eq_zero.mpr fun member => same (List.mem_singleton.mp member)
    simp only [same, false_and, iff_false]
    omega

omit listed in
theorem detached_ne : s.detached holder fields ref ≠ s := by
  intro same
  have moved : (s.detached holder fields ref).fieldsAt? holder =
      some (fields.insert FieldName.ext (s.alloc (s.value ref)).2) :=
    fieldsAt?_setFields (s := (s.alloc (s.value ref)).1) there _
  rw [same, there, Option.some.injEq] at moved
  rw [moved, Table.get?_insert_self, Option.some.injEq] at found
  exact copy_ne wf there (by rw [moved, Table.get?_insert_self, found]) found

end Detached

/-- Looking a map up where there is another value has put a copy of the value in its place. What had
the value before is left as it was, and what was only watched is gone. -/
structure Detaches (s t : Session) (holder : Holder) (fields : Fields) (ref : Ref) : Prop where
  state : t = s.detached holder fields ref
  new : ∃ own, ¬ s.store.HasValue own ∧ t.value own = s.value ref ∧
    t.fieldsAt? holder = some (fields.insert FieldName.ext own)
  handles : t.handles = s.handles
  probes : t.probes = s.probes
  shown : ∀ other, t.shown? other = s.shown? other
  alive : ∀ other, s.isAlive other →
    (t.isAlive other = false ↔ other = ref ∧ s.owners.count ref = 1)

section Looking

variable (wf : s.WellFormed) (listed : s.Listed) (there : s.fieldsAt? holder = some fields)
  (editing : s.EditsMap step holder (.ext false edits))

include wf there editing

theorem edited_none_iff : (s.step step).2 = .edited none ↔
    ∀ ref, fields.get? FieldName.ext = some ref → (s.value ref).isObject = false := by
  obtain ⟨-, edited⟩ := editExt_correct wf (fieldsOk_at wf there) false edits
  rw [editing.step_eq there, Answer.edited.injEq, edited]
  cases found : fields.get? FieldName.ext with
  | none => simp [Json.withMap]
  | some ref =>
    cases v : s.value ref <;> simp [Json.withMap, Json.editMembers, Json.members?, Json.isObject, v]

include listed

theorem step_absent (missing : fields.get? FieldName.ext = none) : (s.step step).1 = s := by
  rw [editing.step_eq there]
  simp only [editExt, Bool.false_eq_true, if_false, editMap_absent missing]
  exact setFields_same wf listed there

variable (found : fields.get? FieldName.ext = some ref) (noMap : (s.value ref).isObject = false)

include found noMap

theorem step_exclusive (exclusive : s.isExclusive ref) : (s.step step).1 = s := by
  have sorted := (fieldsOk_at wf there).sorted
  rw [editing.step_eq there]
  simp only [editExt, Bool.false_eq_true, if_false, editMap_exclusive found noMap sorted exclusive]
  exact setFields_same wf listed there

theorem step_detaches (shared : s.isExclusive ref = false) :
    s.Detaches (s.step step).1 holder fields ref := by
  have state : (s.step step).1 = s.detached holder fields ref := by
    rw [editing.step_eq there]
    simp only [editExt, Bool.false_eq_true, if_false, editMap_shared found noMap shared]
    rfl
  obtain ⟨messages, envelopes, only⟩ := (s.alloc (s.value ref)).1.setFields_only
    (fields.insert FieldName.ext (s.alloc (s.value ref)).2) holder
  have store : (s.step step).1.store = (s.store.alloc (s.value ref)).1 :=
    state.trans only ▸ rfl
  have kept : (s.step step).1.fieldsAt? holder =
      some (fields.insert FieldName.ext (s.alloc (s.value ref)).2) :=
    state ▸ fieldsAt?_setFields (s := (s.alloc (s.value ref)).1) there _
  have copied : (s.step step).1.value (s.alloc (s.value ref)).2 = s.value ref := by
    rw [Session.value, store]
    exact s.store.value_alloc_self _
  refine
    { state
      new := ⟨(s.alloc (s.value ref)).2, s.store.alloc_new (s.value ref), copied, kept⟩
      handles := state.trans only ▸ rfl
      probes := state.trans only ▸ rfl
      shown := fun other => ?_
      alive := fun other alive => state ▸ isAlive_detached wf listed there found alive }
  by_cases same : other = holder
  · have ok := fieldsOk_at wf there
    have sorted : (s.store.valuesOf fields).Sorted := ok.sorted.mapValues _
    have old := (get?_valuesOf (s := s) fields FieldName.ext).trans (congrArg (·.map s.value) found)
    rw [same, shown?_eq there, shown?_eq kept, valuesOf_insert,
      show (s.step step).1.store.value (s.alloc (s.value ref)).2 = s.value ref from copied, store,
      valuesOf_quiet ok (s.store.alloc_advance (s.value ref)), Table.insert_of_get? sorted old]
  · exact editing.unseen wf same

end Looking

/-- Looking up a map that is not there gives none and, if the value in its place has one holder and
is not watched, changes nothing. If that value is shared or watched, a copy takes its place. -/
theorem lookup_exact (steps : List Step) {step : Step} {holder : Holder} {edits : List MapEdit}
    (editing : (reached steps).EditsMap step holder (.ext false edits)) :
    let s := reached steps
    let t := (s.step step).1
    ∃ fields, s.fieldsAt? holder = some fields ∧
      ((s.step step).2 = .edited none ↔
        ∀ ref, fields.get? FieldName.ext = some ref → (s.value ref).isObject = false) ∧
      ((s.step step).2 = .edited none →
        (t = s ↔ ∀ ref, fields.get? FieldName.ext = some ref → s.isExclusive ref) ∧
        ∀ ref, fields.get? FieldName.ext = some ref → s.isExclusive ref = false →
          s.Detaches t holder fields ref) := by
  intro s t
  have wf : s.WellFormed := reached_wellFormed steps
  have listed : s.Listed := reached_listed steps
  obtain ⟨fields, there⟩ := editing.there
  refine ⟨fields, there, edited_none_iff wf there editing, fun missing => ?_⟩
  have noMap := (edited_none_iff wf there editing).mp missing
  refine ⟨⟨fun same ref found => ?_, fun exclusive => ?_⟩, fun ref found shared =>
    step_detaches wf listed there editing found (noMap ref found) shared⟩
  · cases shared : s.isExclusive ref with
    | true => rfl
    | false =>
      have state := (step_detaches wf listed there editing found (noMap ref found) shared).state
      exact absurd (state.symm.trans same) (detached_ne wf there found)
  · cases found : fields.get? FieldName.ext with
    | none => exact step_absent wf listed there editing found
    | some ref =>
      exact step_exclusive wf listed there editing found (noMap ref found) (exclusive ref found)

def plainRun : List Step :=
  [.newValue "value" (.number (.int 1)), .newMessage "message" [],
    .editMessage "message" (.assign FieldName.ext (.handle "value")) none]

-- The message has the value for itself, and a probe watches it.
def watchedRun : List Step := plainRun ++ [.newProbe "probe" "value", .dropHandle "value"]

def lookUp : Step := .editMessage "message" (.ext false []) none

theorem lookup_plain :
    let s := reached plainRun
    s.EditsMap lookUp (.message "message") (.ext false []) ∧ (s.step lookUp).2 = .edited none ∧
      s.Detaches (s.step lookUp).1 (.message "message") [(FieldName.ext, ⟨0⟩)] ⟨0⟩ := by
  intro s
  have found : s.messages.get? "message" = some ⟨[(FieldName.ext, ⟨0⟩)]⟩ := rfl
  have editing : s.EditsMap lookUp (.message "message") (.ext false []) := .message found
  obtain ⟨fields, there, missing, exact⟩ := lookup_exact plainRun editing
  obtain rfl : [(FieldName.ext, ⟨0⟩)] = fields := Option.some.inj there
  have none : (s.step lookUp).2 = .edited none := rfl
  exact ⟨editing, none, (exact none).2 ⟨0⟩ rfl (by decide +kernel)⟩

-- The message no longer has the value that it shared with the handle, and the value that only the
-- probe still knows is gone.
theorem lookup_detaches :
    let shared := reached plainRun
    let watched := reached watchedRun
    let ext (s : Session) := (s.messages.get? "message").bind (·.get? FieldName.ext)
    ((shared.step lookUp).2 = .edited none ∧ ext shared = shared.handles.get? "value" ∧
      ext (shared.step lookUp).1 ≠ (shared.step lookUp).1.handles.get? "value") ∧
    (watched.step lookUp).2 = .edited none ∧ watched.probes.get? "probe" = some ⟨0⟩ ∧
      watched.isAlive ⟨0⟩ ∧ (watched.step lookUp).1.isAlive ⟨0⟩ = false := by
  refine ⟨⟨rfl, rfl, ?_⟩, rfl, rfl, ?_, ?_⟩ <;> decide +kernel

end Session

end Bayeux
