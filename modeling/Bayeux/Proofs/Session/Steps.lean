import Bayeux.Proofs.Session.Edit
import Bayeux.Proofs.Session.Envelope
import Bayeux.Proofs.Session.Payload

set_option autoImplicit false

namespace Bayeux

def Step.generates : Step → Bool
  | .generateMessage _ _ | .render _ _ _ | .renderAtOnce _ _ _ => true
  | _ => false

namespace Session

def linkedAt? (s : Session) (name : String) (hops : Nat) : Option Linked :=
  (s.envelopes.get? name).bind (·.at? hops)

-- The envelope whose stored form a step asks for.
def rendered? (s : Session) : Step → Option Envelope
  | .render name hops _ | .renderAtOnce name hops _ => (s.linkedAt? name hops).map (·.envelope)
  | _ => none

-- The fields whose map a step edits.
def editedFields? (s : Session) : Step → Option Fields
  | .editMessage name (.ext _ _) _ => (s.messages.get? name).map (·.fields)
  | .editEnvelope name (.ext _ _) _ => (s.envelopes.get? name).map (·.envelope.fields)
  | _ => none

-- The envelope that a step freezes, as it was before.
def freezing? (s : Session) : Step → Option Envelope
  | .freeze name =>
    (s.envelopes.get? name).bind fun linked =>
      if s.isShared linked.envelope || linked.envelope.isFrozen then none else some linked.envelope
  | .freezeMessage factory message _ =>
    (s.factories.get? factory).bind fun factory =>
      (s.messages.get? message).map fun message => factory.wrap s.store s.nextId message
  | _ => none

-- All that a step may do besides adding something and changing who holds what.
def effect (s : Session) (step : Step) : Effect :=
  { edits := fun ref => s.isExclusive ref ∧ (s.store.HasValue ref →
      ∃ fields, s.editedFields? step = some fields ∧ fields.get? FieldName.ext = some ref)
    serializes := fun id => ∃ e, s.rendered? step = some e ∧ e.snapshot = some id
    generates := step.generates
    freezes := (s.freezing? step).isSome }

section Lookups

variable {s : Session} {P : Session → Prop} (refused : P s)

include refused

theorem withMessage_cases {name : String} {run : Message → Session × Answer}
    (found : ∀ message, s.messages.get? name = some message → P (run message).1) :
    P (s.withMessage name run).1 := by
  unfold withMessage
  split
  next message here => exact found message here
  next => exact refused

theorem withCodec_cases {name : String} {run : CodecId → Session × Answer}
    (found : ∀ id, s.codecs.get? name = some id → P (run id).1) : P (s.withCodec name run).1 := by
  unfold withCodec
  split
  next id here => exact found id here
  next => exact refused

theorem withFactory_cases {name : String} {run : Factory → Session × Answer}
    (found : ∀ factory, s.factories.get? name = some factory → P (run factory).1) :
    P (s.withFactory name run).1 := by
  unfold withFactory
  split
  next factory here => exact found factory here
  next => exact refused

theorem withEnvelope_cases {name : String} {hops : Nat} {run : Linked → Session × Answer}
    (found : ∀ linked, s.linkedAt? name hops = some linked → P (run linked).1) :
    P (s.withEnvelope name hops run).1 := by
  unfold withEnvelope
  split
  next linked here => exact found linked here
  next => exact refused

end Lookups

variable {s : Session}

theorem linkedAt?_zero (name : String) : s.linkedAt? name 0 = s.envelopes.get? name := by
  cases found : s.envelopes.get? name with
  | none => simp [linkedAt?, found]
  | some linked => simp [linkedAt?, found, Linked.at?, Linked.all]

theorem withEnvelope_found {name : String} {hops : Nat} {linked : Linked}
    (found : s.linkedAt? name hops = some linked) (run : Linked → Session × Answer) :
    s.withEnvelope name hops run = run linked := by
  unfold linkedAt? at found
  simp only [withEnvelope, found]

theorem withWritable_found {name : String} {linked : Linked}
    (found : s.envelopes.get? name = some linked) (unshared : s.isShared linked.envelope = false)
    (run : Linked → Session × Answer) : s.withWritable name run = run linked := by
  rw [withWritable, withEnvelope_found ((linkedAt?_zero name).trans found), unshared]
  rfl

theorem withWritable_cases {P : Session → Prop} (refused : P s) {name : String}
    {run : Linked → Session × Answer}
    (found : ∀ linked, s.envelopes.get? name = some linked → s.isShared linked.envelope = false →
      P (run linked).1) : P (s.withWritable name run).1 := by
  apply withEnvelope_cases refused
  intro linked here
  rw [linkedAt?_zero] at here
  split
  · exact refused
  next unshared => exact found linked here (by simpa using unshared)

theorem live_of_linkedAt? {name : String} {hops : Nat} {linked : Linked}
    (found : s.linkedAt? name hops = some linked) {e : Envelope} (member : e ∈ linked.all) :
    e ∈ s.liveEnvelopes := by
  obtain ⟨start, here, there⟩ := Option.bind_eq_some_iff.mp found
  exact live_of_get? here (mem_all_of_at? there member)

theorem live_linked {name : String} {hops : Nat} {linked : Linked}
    (found : s.linkedAt? name hops = some linked) : linked.envelope ∈ s.liveEnvelopes :=
  live_of_linkedAt? found ((mem_all linked _).mpr (.inl rfl))

theorem argument_sound (wf : s.WellFormed) {argument : Argument} {t : Session} {ref : Ref}
    (given : s.argument argument = some (t, ref)) :
    (∃ store, t = { s with store } ∧ Store.Advance .quiet s.store store) ∧ t.store.HasValue ref := by
  cases argument with
  | handle name =>
    obtain ⟨found, here, same⟩ := Option.map_eq_some_iff.mp given
    cases same
    exact ⟨⟨s.store, rfl, .refl _ _⟩, wf.handles ref (Table.mem_values_of_get? here)⟩
  | fresh v =>
    cases given
    exact ⟨⟨_, rfl, s.store.alloc_advance v⟩, s.store.has_value_alloc v⟩

theorem keep_sound (wf : s.WellFormed) (into : Option String) {ref : Option Ref}
    (listed : ∀ found, ref = some found → s.store.HasValue found) :
    Sound .quiet s (s.keep into ref) := by
  unfold keep
  split
  next name found => exact insertHandle_sound wf name (listed found rfl)
  next => exact .refl _ wf

theorem allocFields_advance (store : Store) (entries : List (String × Json)) :
    Store.Advance .quiet store (store.allocFields entries).1 ∧
      FieldsOk (store.allocFields entries).1 (store.allocFields entries).2 := by
  refine List.foldlRecOn entries _ (motive := fun (state : Store × Fields) =>
    Store.Advance .quiet store state.1 ∧ FieldsOk state.1 state.2) ?_ ?_
  · exact ⟨.refl _ _, Table.sorted_nil, by simp [Table.values]⟩
  · rintro ⟨later, fields⟩ ⟨grown, ok⟩ entry -
    have step := later.alloc_advance entry.2
    exact ⟨grown.trans step, (ok.mono step).insert entry.1 (later.has_value_alloc entry.2)⟩

theorem give_sound {effect : Effect} {t : Session} (step : Sound effect s t) (into : Option String)
    {ref : Option Ref} (listed : ∀ found, ref = some found → t.store.HasValue found) :
    Sound effect s (t.give into ref).1 :=
  step.trans (keep_sound step.wf into listed).of_quiet

theorem editMessage_sound (wf : s.WellFormed) {name : String} {message : Message}
    (found : s.messages.get? name = some message) (edit : Edit) (into : Option String) :
    Sound (s.effect (.editMessage name edit into)) s (s.editMessage name message edit into).1 := by
  have ok := wf.messages message (Table.mem_values_of_get? found)
  cases edit with
  | put key argument =>
    simp only [editMessage]
    split
    · exact .refl _ wf
    next t ref given =>
      obtain ⟨⟨store, rfl, step⟩, has⟩ := argument_sound wf given
      have begun := quiet_sound wf step
      have written := begun.trans (setMessage_sound begun.wf name ((ok.mono step).insert key has))
      exact (give_sound written into fun old here => (ok.mono step).get? here).of_quiet
  | assign key argument =>
    simp only [editMessage]
    split
    · exact .refl _ wf
    next t ref given =>
      obtain ⟨⟨store, rfl, step⟩, has⟩ := argument_sound wf given
      have begun := quiet_sound wf step
      exact (begun.trans (setMessage_sound begun.wf name ((ok.mono step).insert key has))).of_quiet
  | remove key =>
    let after : Message := ⟨message.fields.erase key⟩
    have written : Sound .quiet s (s.setMessage name after) :=
      setMessage_sound wf name (ok.erase key)
    exact (give_sound written into fun old here => ok.get? here).of_quiet
  | ext create edits =>
    obtain ⟨change, -⟩ := editExt_correct wf ok create edits
    simp only [editMessage]
    generalize s.editExt message.fields create edits = result at change
    obtain ⟨t, fields, edited⟩ := result
    dsimp only at change ⊢
    have begun : Sound (s.editEffect message.fields FieldName.ext) s t :=
      change.only_store ▸ store_sound wf change.advance fun _ => False.elim
    have within : (s.editEffect message.fields FieldName.ext).Within
        (s.effect (.editMessage name (.ext create edits) into)) := by
      refine ⟨?_, fun _ => False.elim, False.elim, False.elim⟩
      rintro ref ⟨exclusive, held⟩
      exact ⟨exclusive, fun has => ⟨message.fields, by simp [editedFields?, found], held has⟩⟩
    exact (begun.weaken within).trans (setMessage_sound begun.wf name change.ok).of_quiet

theorem setOpen_sound {effect : Effect} {store : Store} (wf : s.WellFormed)
    (step : Store.Advance effect s.store store) (calm : ∀ id, ¬ effect.serializes id) {name : String}
    {linked : Linked} (found : s.envelopes.get? name = some linked)
    (unshared : s.isShared linked.envelope = false) (open_ : linked.envelope.snapshot = none)
    {e : Envelope} (ok : e.WellFormed store) (number : e.id = linked.envelope.id)
    (unfrozen : e.snapshot = none) : Sound effect s ({ s with store }.setEnvelope name linked e) :=
  setEnvelope_sound wf step calm found unshared ok number
    (fun frozen => by simp [Envelope.isFrozen, open_] at frozen)
    (fun id taken => by simp [unfrozen] at taken)

theorem editEnvelope_sound (wf : s.WellFormed) {name : String} {linked : Linked}
    (found : s.envelopes.get? name = some linked) (unshared : s.isShared linked.envelope = false)
    (edit : Edit) (into : Option String) :
    Sound (s.effect (.editEnvelope name edit into)) s (s.editEnvelope name linked edit into).1 := by
  have ok := wf.envelopes linked.envelope (live_head found)
  unfold editEnvelope
  dsimp only
  split
  · exact .refl _ wf
  next open_ =>
  have unfrozen : linked.envelope.snapshot = none := by simpa [Envelope.isFrozen] using open_
  have calm : ∀ id, ¬ Effect.quiet.serializes id := fun _ => False.elim
  cases edit with
  | put key argument =>
    dsimp only
    split
    · exact .refl _ wf
    next t ref given =>
      obtain ⟨⟨store, rfl, step⟩, has⟩ := argument_sound wf given
      obtain ⟨after, old, put, rewrites⟩ :=
        Envelope.put_rewrites (ok.mono step calm) unfrozen key has
      simp only [put]
      have written := setOpen_sound wf step calm found unshared unfrozen rewrites.wf rewrites.number
        rewrites.unfrozen
      exact (give_sound written into rewrites.old).of_quiet
  | assign key argument =>
    dsimp only
    split
    · exact .refl _ wf
    next t ref given =>
      obtain ⟨⟨store, rfl, step⟩, has⟩ := argument_sound wf given
      obtain ⟨after, old, put, rewrites⟩ :=
        Envelope.put_rewrites (ok.mono step calm) unfrozen key has
      simp only [put]
      exact (setOpen_sound wf step calm found unshared unfrozen rewrites.wf rewrites.number
        rewrites.unfrozen).of_quiet
  | remove key =>
    obtain ⟨after, old, removed, rewrites⟩ := Envelope.remove_rewrites ok unfrozen key
    simp only [removed]
    have written := setOpen_sound wf (.refl _ _) calm found unshared unfrozen rewrites.wf
      rewrites.number rewrites.unfrozen
    exact (give_sound written into rewrites.old).of_quiet
  | ext create edits =>
    obtain ⟨change, -⟩ := editExt_correct wf ok.fields create edits
    dsimp only
    generalize s.editExt linked.envelope.fields create edits = result at change
    obtain ⟨t, fields, edited⟩ := result
    dsimp only at change ⊢
    have within : (s.editEffect linked.envelope.fields FieldName.ext).Within
        (s.effect (.editEnvelope name (.ext create edits) into)) := by
      refine ⟨?_, fun _ => False.elim, False.elim, False.elim⟩
      rintro ref ⟨exclusive, held⟩
      exact ⟨exclusive, fun has => ⟨linked.envelope.fields, by simp [editedFields?, found], held has⟩⟩
    have apart : fields.get? FieldName.data = none :=
      (change.others FieldName.data (by decide)).trans ok.apart
    rw [change.only_store]
    exact setOpen_sound wf (change.advance.weaken within)
      (by rintro id ⟨e, rendered, -⟩; simp [rendered?] at rendered)
      found unshared unfrozen
      (((ok.mono change.advance fun _ => False.elim)).setFields unfrozen change.ok apart) rfl unfrozen

theorem takeId_addEnvelope_sound (wf : s.WellFormed) (name : String) {e : Envelope}
    (ok : e.WellFormed s.store) (number : e.id = s.nextId)
    (copied : ∀ id, e.snapshot = some id →
      ∃ old ∈ s.liveEnvelopes, old.snapshot = some id ∧ e.core = old.core) :
    Sound .quiet s (s.takeId.1.addEnvelope name e) :=
  addEnvelope_sound wf (.refl _ _) (fun _ => False.elim) name ok number fun id taken _ =>
    copied id taken

theorem takeId_addOpen_sound (wf : s.WellFormed) (name : String) {e : Envelope}
    (ok : e.WellFormed s.store) (number : e.id = s.nextId) (open_ : e.snapshot = none) :
    Sound .quiet s (s.takeId.1.addEnvelope name e) :=
  takeId_addEnvelope_sound wf name ok number fun _ taken =>
    absurd (taken.symm.trans open_) (Option.some_ne_none _)

theorem wrap_wellFormed (wf : s.WellFormed) {factory : Factory} {message : Message}
    (has : s.store.HasCodec factory.codec) (listed : message ∈ s.messages.values) (id : Nat) :
    (factory.wrap s.store id message).WellFormed s.store :=
  Envelope.ofMessage_wellFormed id (wf.messages message listed) _ _ has

theorem freezeEffect_within {effect : Effect} (freezes : effect.freezes) :
    Effect.Within { Effect.quiet with freezes := True } effect :=
  ⟨fun _ => False.elim, fun _ => False.elim, False.elim, fun _ => freezes⟩

theorem freezeMessage_sound (wf : s.WellFormed) {factoryName messageName : String} (target : String)
    {factory : Factory} {message : Message} (found : s.factories.get? factoryName = some factory)
    (found' : s.messages.get? messageName = some message) :
    let (store, e) := factory.freeze s.store s.nextId message
    Sound (s.effect (.freezeMessage factoryName messageName target)) s
      ({ s.takeId.1 with store }.addEnvelope target e) := by
  have ok := wrap_wellFormed wf (wf.factories factory (Table.mem_values_of_get? found))
    (Table.mem_values_of_get? found') s.nextId
  simp only [Factory.freeze, Envelope.freeze_eq (e := factory.wrap s.store s.nextId message) rfl]
  refine addEnvelope_sound wf ((s.store.addSnapshot_advance _).weaken (freezeEffect_within ?_)) ?_
    target (Envelope.sealed_wellFormed ok rfl) rfl ?_
  · simp [effect, freezing?, found, found']
  · rintro id ⟨e, rendered, -⟩
    simp [rendered?] at rendered
  · intro id taken has
    rw [← Option.some.inj taken] at has
    exact absurd has (Nat.lt_irrefl _)

theorem freeze_sound (wf : s.WellFormed) {name : String} {linked : Linked}
    (found : s.envelopes.get? name = some linked) (unshared : s.isShared linked.envelope = false) :
    let result := s.freeze linked.envelope
    Sound (s.effect (.freeze name)) s (result.1.setEnvelope name linked result.2) := by
  have live : linked.envelope ∈ s.liveEnvelopes := live_head found
  have ok := wf.envelopes linked.envelope live
  have calm : ∀ id, ¬ (s.effect (.freeze name)).serializes id := by
    rintro id ⟨e, rendered, -⟩
    simp [rendered?] at rendered
  unfold Session.freeze
  dsimp only
  split
  next frozen =>
    have reported := report_sound wf .debug (alreadyFrozen
      (s.store.stringField linked.envelope.fields FieldName.id)
      (s.store.stringField linked.envelope.fields FieldName.channel))
    exact reported.of_quiet.trans (setEnvelope_sound reported.wf (.refl _ _) calm found unshared ok rfl
      (fun _ => rfl) (fun _ _ _ => rfl))
  next open_ =>
    have unfrozen : linked.envelope.snapshot = none := by simpa [Envelope.isFrozen] using open_
    simp only [Envelope.freeze_eq unfrozen]
    refine setEnvelope_sound wf ((s.store.addSnapshot_advance _).weaken (freezeEffect_within ?_)) calm
      found unshared (Envelope.sealed_wellFormed ok unfrozen) rfl (fun frozen => absurd frozen open_) ?_
    · simpa [effect, freezing?, found, unshared] using open_
    · intro id taken has
      rw [← Option.some.inj taken] at has
      exact absurd has (Nat.lt_irrefl _)

theorem readMapField_sound (wf : s.WellFormed) {e : Envelope} (live : e ∈ s.liveEnvelopes)
    (field : MapField) : Sound .quiet s (s.readMapField e field).1 := by
  cases field with
  | data => exact payload_sound wf live
  | ext | advice => exact .refl _ wf

theorem readMapField_listed (wf : s.WellFormed) {e : Envelope} (live : e ∈ s.liveEnvelopes)
    (field : MapField) {ref : Ref} (found : (s.readMapField e field).2 = some ref) :
    (s.readMapField e field).1.store.HasValue ref := by
  cases field with
  | data => exact payload_listed wf live found
  | ext | advice => exact (wf.envelopes e live).fields.get? found

theorem giveMap_sound {effect : Effect} {t : Session} (step : Sound effect s t) (into : Option String)
    {ref : Option Ref} (listed : ∀ found, ref = some found → t.store.HasValue found) :
    Sound effect s (t.giveMap into ref).1 :=
  give_sound step into fun found here => listed found (Option.filter_eq_some_iff.mp here).1

theorem setFlag_sound (wf : s.WellFormed) {name : String} {linked : Linked}
    (found : s.envelopes.get? name = some linked) (unshared : s.isShared linked.envelope = false)
    {e : Envelope} (core : e.core = linked.envelope.core) (number : e.id = linked.envelope.id) :
    Sound .quiet s (s.setEnvelope name linked e) := by
  have ok := wf.envelopes linked.envelope (live_head found)
  exact setEnvelope_sound wf (.refl _ _) (fun _ => False.elim) found unshared (ok.of_core_eq core.symm)
    number (fun _ => core) fun _ _ _ => core

theorem newMessage_sound (wf : s.WellFormed) (name : String) (entries : List (String × Json)) :
    let result := s.store.allocFields entries
    Sound .quiet s ({ s with store := result.1 }.setMessage name ⟨result.2⟩) := by
  obtain ⟨step, ok⟩ := allocFields_advance s.store entries
  have begun := quiet_sound wf step
  exact begun.trans (setMessage_sound begun.wf name ok)

theorem addFactory_sound (wf : s.WellFormed) (name : String) {factory : Factory}
    (has : s.store.HasCodec factory.codec) : Sound .quiet s (s.addFactory name factory).1 :=
  insertFactory_sound wf name has

theorem render_within {e : Envelope} {step : Step} (asked : s.rendered? step = some e)
    (generates : step.generates) : (renderEffect e).Within (s.effect step) :=
  ⟨fun _ => False.elim, fun _ taken => ⟨e, asked, taken⟩, fun _ => generates, False.elim⟩

end Session

end Bayeux
