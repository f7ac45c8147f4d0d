import Bayeux.Proofs.Session.Reading
import Bayeux.Proofs.Session.Releases

set_option autoImplicit false

namespace Bayeux

theorem Store.allocFields_new (store : Store) (entries : List (String × Json)) :
    ∀ ref ∈ (store.allocFields entries).2.values, ¬ store.HasValue ref := by
  refine (List.foldlRecOn entries _ (motive := fun (state : Store × Fields) =>
    Store.Advance .quiet store state.1 ∧ ∀ ref ∈ state.2.values, ¬ store.HasValue ref) ?_ ?_).2
  · exact ⟨.refl _ _, by simp [Table.values]⟩
  · rintro ⟨later, fields⟩ ⟨grown, new⟩ entry -
    refine ⟨grown.trans (later.alloc_advance entry.2), fun ref member has => ?_⟩
    rcases Table.mem_values_insert member with rfl | before
    · exact later.alloc_new entry.2 (grown.has_value has)
    · exact new ref before has

namespace Envelope

variable {store : Store} {e : Envelope} {ref : Ref}

theorem owned_of_ofMessage {id : Nat} {message : Message} {threshold : UInt64} {ignoreNull : Bool}
    {codec : CodecId}
    (held : ref ∈ (ofMessage store id message threshold ignoreNull codec).owned store) :
    ref ∈ message.fields.values := by
  rcases (mem_owned_open rfl).mp held with field | payload
  · exact Table.mem_values_erase field
  · simp only [ofMessage, Message.get?] at payload
    split at payload
    next other found =>
      unfold Store.slotOf at payload
      split at payload
      · exact absurd payload List.not_mem_nil
      · exact List.mem_singleton.mp payload ▸ Table.mem_values_of_get? found
    next => exact absurd payload List.not_mem_nil

@[simp] theorem owned_frozenPayload (e : Envelope) : e.frozenPayload.owned = e.payload.owned := by
  cases payload : e.payload <;> simp only [frozenPayload, payload]
  all_goals split <;> rfl

-- The snapshot has what the envelope had.
theorem mem_owned_sealed (unfrozen : e.snapshot = none) :
    ref ∈ (e.sealed store.nextSnapshot).owned (store.addSnapshot e.capture).1 ↔
      ref ∈ e.owned store := by
  rw [mem_owned_open unfrozen]
  simp only [owned, sealed, Slot.owned_downgrade, store.snapshot_addSnapshot_self, Snapshot.owned,
    capture, owned_frozenPayload, List.append_nil, List.mem_append]
  exact ⟨fun held => held.elim .inl (·), .inr⟩

end Envelope

namespace Session

variable {s : Session} {e : Envelope} {dead lost : Ref → Prop}

theorem reread_eq (codec : CodecId) (stored : Stored) :
    ∃ store events, (s.reread codec stored).1 = { s with store, events } := by
  unfold reread
  dsimp only
  repeat' split
  all_goals exact ⟨_, _, rfl⟩

theorem payload_eq : ∃ store events, (s.payload e).1 = { s with store, events } := by
  unfold payload
  dsimp only
  repeat' split
  all_goals first | exact reread_eq _ _ | exact ⟨s.store, s.events, rfl⟩

theorem renderTimes_eq (workers : Nat) : ∃ store, (s.renderTimes e workers).1 = { s with store } := by
  induction workers generalizing s with
  | zero => exact ⟨s.store, rfl⟩
  | succ workers ih =>
    obtain ⟨store, same⟩ := serialize_eq (s := s) (e := e)
    obtain ⟨store', same'⟩ := ih (s := (s.serialize e).1)
    refine ⟨store', same'.trans ?_⟩
    rw [same]

-- Nothing is held that was not, and what is read was held by something or is fresh.
structure Viewed (s : Session) (result : Session × Option Ref) : Prop where
  handles : result.1.handles = s.handles
  owners : result.1.owners = s.owners
  view : ∀ ref, result.2 = some ref → ref ∈ s.owners ∨ ¬ s.store.HasValue ref

theorem payload_view (live : e ∈ s.liveEnvelopes) {ref : Ref} (found : (s.payload e).2 = some ref) :
    ref ∈ s.owners ∨ ¬ s.store.HasValue ref := by
  have upgraded {slot : Slot} (within : slot.owned ⊆ e.owned s.store)
      (found : slot.upgrade s.isAlive = some ref) : ref ∈ s.owners := by
    cases slot with
    | absent | null => exact nomatch found
    | live other =>
      have same : other = ref := by simpa [Slot.upgrade] using found
      exact owned_by_envelope live (within (by simp [Slot.owned, same]))
    | weak other =>
      have alive : s.isAlive other ∧ other = ref := by simpa [Slot.upgrade] using found
      simpa [isAlive, alive.2] using alive.1
  revert found
  unfold payload
  split
  next => exact fun found => .inl (upgraded (fun _ => by simp +contextual [Envelope.owned]) found)
  next id taken =>
    dsimp only
    split
    next other here =>
      intro found
      rw [Option.some.inj found] at here
      refine .inl (upgraded (fun other held => ?_) here)
      simp only [Envelope.owned, taken, Snapshot.owned]
      exact List.mem_append_right _ (List.mem_append_right _ held)
    next =>
      split
      · simp
      next stored _ =>
        intro found
        cases readable : stored.text with
        | ok text => exact .inr (reread_fresh readable found)
        | error error => simp [reread, readable] at found

theorem payload_viewed (wf : s.WellFormed) (live : e ∈ s.liveEnvelopes) : s.Viewed (s.payload e) := by
  have step := (payload_sound wf live).advance.store
  obtain ⟨store, events, same⟩ := payload_eq (s := s) (e := e)
  refine ⟨by rw [same], ?_, fun ref => payload_view live⟩
  rw [same] at step ⊢
  exact owners_store wf step fun _ => False.elim

theorem field_viewed (live : e ∈ s.liveEnvelopes) (key : String) :
    s.Viewed (s, e.fields.get? key) := by
  refine ⟨rfl, rfl, fun ref found => .inl (owned_by_envelope live ?_)⟩
  exact List.mem_append_left _ (List.mem_append_left _ (Table.mem_values_of_get? found))

theorem getField_viewed (wf : s.WellFormed) (live : e ∈ s.liveEnvelopes) (key : String) :
    s.Viewed (s.getField e key) := by
  unfold getField
  split
  · exact payload_viewed wf live
  · exact field_viewed live key

theorem readMapField_viewed (wf : s.WellFormed) (live : e ∈ s.liveEnvelopes) (field : MapField) :
    s.Viewed (s.readMapField e field) := by
  cases field with
  | data => exact payload_viewed wf live
  | ext => exact field_viewed live _
  | advice => exact field_viewed live _

theorem Viewed.filter {t : Session} {ref : Option Ref} (viewed : s.Viewed (t, ref)) (p : Ref → Bool) :
    s.Viewed (t, ref.filter p) :=
  { viewed with view := fun found here => viewed.view found (Option.filter_eq_some_iff.mp here).1 }

-- A value that is listed and that nobody holds.
def IsDead (s : Session) (ref : Ref) : Prop := s.store.HasValue ref ∧ ref ∉ s.owners

theorem Viewed.keep_shifts {t : Session} {ref : Option Ref} (viewed : s.Viewed (t, ref)) {step : Step}
    {into : Option String} (named : step.handle? = into) :
    Shifts s.IsDead (s.Releases · step) s (t.keep into ref) := by
  have kept : Shifts s.IsDead (s.Releases · step) t (t.keep into ref) := by
    refine Session.keep_shifts into (fun found here gone => ?_) fun name old same held => ?_
    · exact (viewed.view found here).elim gone.2 fun new => new gone.1
    · exact .handle (named.trans same) (viewed.handles ▸ held)
  exact (Shifts.of_owners_eq viewed.owners).trans kept

section Operations

variable (wf : s.WellFormed) {step : Step} {name : String}

include wf

theorem setEnvelope_same_shifts {linked : Linked} (found : s.envelopes.get? name = some linked)
    (same : ∀ ref, ref ∈ e.owned s.store ↔ ref ∈ linked.envelope.owned s.store) :
    Shifts dead lost s (s.setEnvelope name linked e) := by
  have live : linked.envelope ∈ s.liveEnvelopes := live_head found
  refine setEnvelope_shifts wf.sorted found (fun ref held _ => ?_) fun ref held gone => ?_
  · exact owned_by_envelope live ((same ref).mp held)
  · exact (gone (owned_by_setEnvelope ((same ref).mpr held))).elim

theorem addEnvelope_shifts {effect : Effect} {store : Store}
    (grown : Store.Advance effect s.store store) (calm : ∀ id, ¬ effect.serializes id)
    (named : step.envelope? = some name) (held : ∀ ref ∈ e.owned store, ref ∈ s.owners) :
    Shifts dead (s.Releases · step) s ({ s.takeId.1 with store }.addEnvelope name e) := by
  let t : Session := { s.takeId.1 with store }
  have owners : t.owners = s.owners := owners_store wf grown calm
  refine (Shifts.of_owners_eq owners).trans (insertEnvelope_shifts (s := t) wf.sorted name ?_ ?_)
  · intro other member ref held' _
    rw [((mem_all _ other).mp member).resolve_right List.not_mem_nil] at held'
    exact owners ▸ held ref held'
  · intro old found other member ref held' _
    rw [(held_of_live wf grown calm (live_of_get? found member)).1] at held'
    exact .envelope named found member held'

theorem takeId_addEnvelope_shifts (named : step.envelope? = some name)
    (held : ∀ ref ∈ e.owned s.store, ref ∈ s.owners) :
    Shifts dead (s.Releases · step) s (s.takeId.1.addEnvelope name e) :=
  addEnvelope_shifts wf (.refl .quiet _) (fun _ => False.elim) named held

theorem freezeMessage_shifts (named : step.envelope? = some name) (factory : Factory)
    {message : Message} (listed : message ∈ s.messages.values) :
    let (store, e) := factory.freeze s.store s.nextId message
    Shifts dead (s.Releases · step) s ({ s.takeId.1 with store }.addEnvelope name e) := by
  have unfrozen : (factory.wrap s.store s.nextId message).snapshot = none := rfl
  simp only [Factory.freeze, Envelope.freeze_eq unfrozen]
  refine addEnvelope_shifts wf (s.store.addSnapshot_advance _) (fun _ => False.elim) named ?_
  intro ref held
  rw [Envelope.mem_owned_sealed unfrozen] at held
  exact owned_by_message listed (Envelope.owned_of_ofMessage held)

theorem freeze_shifts {linked : Linked} (found : s.envelopes.get? name = some linked) :
    let result := s.freeze linked.envelope
    Shifts dead lost s (result.1.setEnvelope name linked result.2) := by
  unfold Session.freeze
  dsimp only
  split
  · exact (Shifts.of_owners_eq (s := s) (t := s.report _ _) rfl).trans
      (setEnvelope_same_shifts (report_sound wf _ _).wf found fun _ => .rfl)
  next open_ =>
    have unfrozen : linked.envelope.snapshot = none := by simpa [Envelope.isFrozen] using open_
    rw [Envelope.freeze_eq unfrozen]
    have taken := s.store.addSnapshot_advance linked.envelope.capture
    refine (store_shifts wf taken fun _ => False.elim).trans
      (setEnvelope_same_shifts (store_sound wf taken fun _ => False.elim).wf found fun ref => ?_)
    rw [Envelope.mem_owned_sealed unfrozen, Envelope.mem_owned_open unfrozen,
      Envelope.mem_owned_open unfrozen]

theorem associate_shifts (named : step.envelope? = some name) {linked : Linked}
    (found : s.envelopes.get? name = some linked) {chain : List Envelope}
    (live : ∀ e ∈ chain, e ∈ s.liveEnvelopes) : Shifts dead (s.Releases · step) s
      { s with envelopes := s.envelopes.insert name { linked with chain } } := by
  refine insertEnvelope_shifts wf.sorted name (fun other member ref held _ => ?_)
    fun old found' other member ref held _ => .envelope named found' member held
  rcases (mem_all _ other).mp member with rfl | chained
  · exact owned_by_envelope (live_head found) held
  · exact owned_by_envelope (live other chained) held

theorem newMessage_shifts (named : step.message? = some name) (entries : List (String × Json)) :
    let (store, fields) := s.store.allocFields entries
    Shifts s.IsDead (s.Releases · step) s ({ s with store }.setMessage name ⟨fields⟩) := by
  obtain ⟨grown, -⟩ := allocFields_advance s.store entries
  refine (store_shifts wf grown fun _ => False.elim).trans
    (setMessage_shifts name (fun ref held gone => ?_) fun old found ref held _ => ?_)
  · exact absurd gone.1 (s.store.allocFields_new entries ref held)
  · exact .message named found held

theorem rendered_shifts (asked : s.rendered? step = some e) :
    Shifts dead (s.Releases · step) s (s.step step).1 := by
  have live := live_of_subject? (subject?_of_rendered? asked)
  obtain ⟨workers, same⟩ := step_of_rendered? asked
  have sound := renderTimes_sound wf live workers
  obtain ⟨store, only⟩ := renderTimes_eq (s := s) (e := e) workers
  rw [only] at sound same
  rw [same]
  refine snapshots_shifts wf sound.advance.store fun other _ id _ taken pending done ref held => ?_
  exact .rendered asked taken pending (same ▸ done) held

/-- A step lets go only of what it releases, and nothing that is gone comes back. -/
theorem step_shifts (step : Step) : Shifts s.IsDead (s.Releases · step) s (s.step step).1 := by
  have spared (ref : Ref) (held : ref ∈ s.owners) : ¬ s.IsDead ref := fun gone => gone.2 held
  have listed (ref : Ref) (gone : s.IsDead ref) : s.store.HasValue ref := gone.1
  have same {step : Step} : Shifts s.IsDead (s.Releases · step) s s := .refl _ _ s
  cases step with
  | addCodec name behavior =>
    have grown := s.store.addCodec_advance (.fresh behavior)
    exact (store_shifts wf grown fun _ => False.elim).trans (.of_owners_eq rfl)
  | countCalls codec => exact withCodec_cases same fun _ _ => same
  | newValue name v =>
    refine (store_shifts wf (s.store.alloc_advance v) fun _ => False.elim).trans
      (insertHandle_shifts name (fun gone => ?_) fun old held => .handle rfl held)
    exact absurd gone.1 (s.store.alloc_new v)
  | dropHandle name => exact eraseHandle_shifts name fun old held => .handle rfl held
  | showHandle name =>
    simp only [Session.step]
    split <;> exact same
  | newProbe name handle =>
    simp only [Session.step]
    split
    · exact .of_owners_eq rfl
    · exact same
  | askProbe name =>
    simp only [Session.step]
    split <;> exact same
  | newMessage name fields => exact newMessage_shifts wf rfl fields
  | parseMessage name text =>
    simp only [Session.step]
    split
    · exact same
    next members _ => exact newMessage_shifts wf rfl members
  | listFields message => exact withMessage_cases same fun _ _ => same
  | takeFields name =>
    exact withMessage_cases same fun _ _ =>
      eraseMessage_shifts name fun old found ref held => .message rfl found held
  | editMessage name edit into =>
    exact withMessage_cases same fun message found =>
      editMessage_shifts spared listed found wf edit into
  | getField name key into =>
    refine withMessage_cases same fun message found => Viewed.keep_shifts ⟨rfl, rfl, ?_⟩ rfl
    exact fun ref here =>
      .inl (owned_by_message (Table.mem_values_of_get? found) (Table.mem_values_of_get? here))
  | showMessage name => exact withMessage_cases same fun _ _ => same
  | generateMessage name codec =>
    refine withMessage_cases same fun message _ => withCodec_cases same fun id found => ?_
    have called := s.store.generate_advance (wf.codecs id (Table.mem_values_of_get? found))
      (s.store.valuesOf message.fields)
    dsimp only
    split <;> exact store_shifts wf called fun _ => False.elim
  | serializeMessage name => exact withMessage_cases same fun _ _ => same
  | cloneMessage name target =>
    refine withMessage_cases same fun message found => setMessage_shifts target (fun ref held _ => ?_)
      fun old found' ref held _ => .message rfl found' held
    exact owned_by_message (Table.mem_values_of_get? found) held
  | compareMessages name other =>
    exact withMessage_cases same fun _ _ => withMessage_cases same fun _ _ => same
  | dropMessage name =>
    exact eraseMessage_shifts name fun old found ref held => .message rfl found held
  | newFactory name codec => exact withCodec_cases same fun _ _ => .of_owners_eq rfl
  | parseFactory name codec text =>
    refine withCodec_cases same fun _ _ => ?_
    split
    · exact .of_owners_eq rfl
    · exact same
  | adjustFactory name target threshold ignoreNull =>
    exact withFactory_cases same fun _ _ => .of_owners_eq rfl
  | parseWith factory text =>
    refine withFactory_cases same fun factory found => ?_
    have called :=
      s.store.parse_advance (wf.factories factory (Table.mem_values_of_get? found)) text
    dsimp only
    split <;> exact store_shifts wf called fun _ => False.elim
  | createEnvelope factory target =>
    exact withFactory_cases same fun factory _ =>
      takeId_addEnvelope_shifts wf rfl fun ref held => absurd held List.not_mem_nil
  | wrapMessage factory message target =>
    refine withFactory_cases same fun factory _ => withMessage_cases same fun message found =>
      takeId_addEnvelope_shifts wf rfl fun ref held => ?_
    exact owned_by_message (Table.mem_values_of_get? found) (Envelope.owned_of_ofMessage held)
  | freezeMessage factory message target =>
    exact withFactory_cases same fun factory _ => withMessage_cases same fun message found =>
      freezeMessage_shifts wf rfl factory (Table.mem_values_of_get? found)
  | newEnvelope name codec threshold ignoreNull =>
    exact withCodec_cases same fun _ _ =>
      takeId_addEnvelope_shifts wf rfl fun ref held => absurd held List.not_mem_nil
  | envelopeOf name message codec threshold ignoreNull =>
    refine withMessage_cases same fun message found => withCodec_cases same fun _ _ =>
      takeId_addEnvelope_shifts wf rfl fun ref held => ?_
    exact owned_by_message (Table.mem_values_of_get? found) (Envelope.owned_of_ofMessage held)
  | copyEnvelope name hops target =>
    refine withEnvelope_cases same fun linked found =>
      takeId_addEnvelope_shifts wf rfl fun ref held => ?_
    exact owned_by_envelope (live_linked found) held
  | dropEnvelope name =>
    exact eraseEnvelope_shifts wf.sorted name fun old found e member ref held =>
      .envelope rfl found member held
  | editEnvelope name edit into =>
    exact withWritable_cases same fun linked found _ =>
      editEnvelope_shifts spared listed found wf edit into
  | readField name hops key into =>
    refine withEnvelope_cases same fun linked found => ?_
    have live := live_linked found
    exact (getField_viewed wf live key).keep_shifts rfl
  | readMap name hops field into =>
    refine withEnvelope_cases same fun linked found => ?_
    have live := live_linked found
    exact ((readMapField_viewed wf live field).filter _).keep_shifts rfl
  | freeze name => exact withWritable_cases same fun linked found _ => freeze_shifts wf found
  | setLazy name on =>
    exact withWritable_cases same fun linked found _ => setEnvelope_same_shifts wf found fun _ => .rfl
  | setLocal name on =>
    exact withWritable_cases same fun linked found _ => setEnvelope_same_shifts wf found fun _ => .rfl
  | associate name other =>
    refine withWritable_cases same fun linked found _ => ?_
    cases other with
    | none => exact associate_shifts wf rfl found fun e member => absurd member List.not_mem_nil
    | some other =>
      refine withEnvelope_cases same fun target found' => ?_
      dsimp only
      split
      · exact same
      · exact associate_shifts wf rfl found fun e => live_of_linkedAt? found'
  | showEnvelope name hops => exact withEnvelope_cases same fun _ _ => same
  | outlineEnvelope name hops indented => exact withEnvelope_cases same fun _ _ => same
  | render name hops form =>
    refine withEnvelope_cases same fun linked found => ?_
    have asked : s.rendered? (.render name hops form) = some linked.envelope := by
      simp [rendered?, found]
    have shifts : Shifts s.IsDead _ s _ := rendered_shifts wf asked
    rwa [Session.step, withEnvelope_found found] at shifts
  | renderAtOnce name hops workers =>
    refine withEnvelope_cases same fun linked found => ?_
    have asked : s.rendered? (.renderAtOnce name hops workers) = some linked.envelope := by
      simp [rendered?, found]
    have shifts : Shifts s.IsDead _ s _ := rendered_shifts wf asked
    rwa [Session.step, withEnvelope_found found] at shifts

end Operations

theorem releases_of_dead (wf : s.WellFormed) {step : Step} {ref : Ref} (alive : s.isAlive ref)
    (gone : (s.step step).1.isAlive ref = false) : s.Releases ref step :=
  (step_shifts wf step).kept ref (by simpa [isAlive] using alive) (by simpa [isAlive] using gone)

theorem IsDead.step (wf : s.WellFormed) {ref : Ref} (gone : s.IsDead ref) (step : Step) :
    (s.step step).1.IsDead ref :=
  ⟨(step_sound wf step).advance.store.has_value gone.1, fun held =>
    gone.2 ((step_shifts wf step).old ref held gone)⟩

theorem IsDead.after (wf : s.WellFormed) {ref : Ref} (gone : s.IsDead ref) (steps : List Step) :
    (s.after steps).IsDead ref := by
  induction steps generalizing s with
  | nil => exact gone
  | cons first rest ih => exact ih (step_sound wf first).wf (gone.step wf first)

end Session

end Bayeux
