import Bayeux.Proofs.Session.Drafts

set_option autoImplicit false

namespace Bayeux

namespace Act

variable {place : Place} {act : Act} {name : String}

theorem envelope_mem_writes : .envelope name ∈ (act.step place).writes ↔
    ∃ target, act.written? = some target ∧ name = place.envelope target := by
  cases act <;>
    simp [step, written?, Step.writes, Step.handle?, Step.message?, Step.envelope?, Step.target?]

theorem into?_step : (act.step place).into? = act.into?.map place.handle := by
  cases act with
  | edit target made into => cases made <;> rfl
  | _ => rfl

theorem handle_mem_writes : .handle name ∈ (act.step place).writes ↔
    (act.step place).into? = some name := by
  cases act with
  | edit target made into =>
    cases made <;>
      simp [step, Edit.at, Step.into?, Step.writes, Step.handle?, Step.message?, Step.envelope?,
        Step.target?]
  | _ =>
    simp [step, Step.into?, Step.writes, Step.handle?, Step.message?, Step.envelope?, Step.target?]

-- The act is no more than reading where the name is locked.
def Unlocked (locked : String → Prop) (act : Act) : Prop :=
  ∀ name, act.written? = some name → ¬ locked name

end Act

structure Place.Distinct (place : Place) : Prop where
  envelope : ∀ name other, place.envelope name = place.envelope other → name = other
  handle : ∀ name other, place.handle name = place.handle other → name = other

namespace Envelope

variable {store : Store} {e after : Envelope} {key : String} {old : Option Ref}

theorem put_number {ref : Ref} (put : e.put store key ref = .ok (after, old)) :
    after.id = e.id := by
  unfold Envelope.put at put
  split at put
  · cases put
  · split at put <;> cases put <;> rfl

theorem remove_number (removed : e.remove key = .ok (after, old)) : after.id = e.id := by
  unfold Envelope.remove at removed
  split at removed
  · cases removed
  · split at removed <;> cases removed <;> rfl

theorem freeze_number (store : Store) (e : Envelope) : (e.freeze store).2.id = e.id := by
  unfold Envelope.freeze
  split <;> rfl

end Envelope

theorem Answer.handed?_sight (answer : Answer) : answer.sight.handed? = answer.handed? := by
  cases answer <;> rfl

theorem Answer.sight_of_outcome? {answer : Answer} {outcome : Outcome}
    (given : answer.outcome? = some outcome) : answer.sight = .outcome outcome := by
  cases answer <;> simp_all [Answer.outcome?, Answer.sight]

namespace Session

variable {s t : Session} {shop : Workshop} {name : String} {e : Envelope} {place : Place}
  {desk : Desk}

section Chains

-- An envelope under this name can be written to.
def Writable (s : Session) (name : String) : Prop :=
  ∀ linked, s.envelopes.get? name = some linked → s.isShared linked.envelope = false

-- Nothing is associated that was not, and a name has the same envelope as before or a new one.
structure Chained (s t : Session) : Prop where
  chain : ∀ linked ∈ t.envelopes.values,
    linked.chain = [] ∨ ∃ old ∈ s.envelopes.values, old.chain = linked.chain
  number : ∀ name linked, t.envelopes.get? name = some linked → s.nextId ≤ linked.envelope.id ∨
    ∃ old, s.envelopes.get? name = some old ∧ old.envelope.id = linked.envelope.id

theorem Chained.of_eq (same : t.envelopes = s.envelopes) : s.Chained t where
  chain linked member := .inr ⟨linked, same ▸ member, rfl⟩
  number _ linked found := .inr ⟨linked, same ▸ found, rfl⟩

theorem Chained.insert {linked : Linked} (inserted : t.envelopes = s.envelopes.insert name linked)
    (known : linked.chain = [] ∨ ∃ old ∈ s.envelopes.values, old.chain = linked.chain)
    (number : s.nextId ≤ linked.envelope.id ∨
      ∃ old, s.envelopes.get? name = some old ∧ old.envelope.id = linked.envelope.id) :
    s.Chained t where
  chain other member := by
    rcases Table.mem_values_insert (inserted ▸ member) with rfl | old
    · exact known
    · exact .inr ⟨other, old, rfl⟩
  number other added found := by
    rw [inserted, Table.get?_insert] at found
    split at found
    next same =>
      obtain rfl := Option.some.inj found
      exact same ▸ number
    next => exact .inr ⟨added, found, rfl⟩

theorem Chained.set {linked : Linked} (found : s.envelopes.get? name = some linked)
    (inserted : t.envelopes = s.envelopes.insert name { linked with envelope := e })
    (number : e.id = linked.envelope.id) : s.Chained t :=
  .insert inserted (.inr ⟨linked, Table.mem_values_of_get? found, rfl⟩)
    (.inr ⟨linked, found, number.symm⟩)

theorem Chained.writable (chained : s.Chained t) (wf : s.WellFormed) (writable : s.Writable name) :
    t.Writable name := by
  intro linked found
  refine isShared_eq_false_iff.mpr fun holder member other inside same => ?_
  rcases chained.chain holder member with none | ⟨before, listed, chain⟩
  · simp [none] at inside
  · rw [← chain] at inside
    rcases chained.number name linked found with new | ⟨old, here, number⟩
    · have live : other ∈ s.liveEnvelopes :=
        List.mem_flatMap.mpr ⟨before, listed, by simp [mem_all, inside]⟩
      have := wf.ids other live
      omega
    · have unshared := isShared_eq_false_iff.mp (writable old here)
      exact unshared before listed other inside (same.trans number.symm)

theorem editEnvelope_chained {linked : Linked} (found : s.envelopes.get? name = some linked)
    (edit : Edit) (into : Option String) :
    s.Chained (s.editEnvelope name linked edit into).1 := by
  unfold editEnvelope
  dsimp only
  split
  · exact .of_eq rfl
  cases edit with
  | put key argument =>
    dsimp only
    split
    · exact .of_eq rfl
    next given =>
      obtain ⟨store, rfl⟩ := argument_eq given
      split
      next put =>
        refine .set found ?_ (Envelope.put_number put)
        simp [give, setEnvelope]
      · exact .of_eq rfl
  | assign key argument =>
    dsimp only
    split
    · exact .of_eq rfl
    next given =>
      obtain ⟨store, rfl⟩ := argument_eq given
      split
      next put => exact .set found rfl (Envelope.put_number put)
      · exact .of_eq rfl
  | remove key =>
    dsimp only
    split
    next removed =>
      refine .set found ?_ (Envelope.remove_number removed)
      simp [give, setEnvelope]
    · exact .of_eq rfl
  | ext create edits =>
    obtain ⟨values, same⟩ := s.editExt_eq linked.envelope.fields create edits
    dsimp only
    rw [same]
    exact .set found rfl rfl

theorem envelopes_getField (e : Envelope) (key : String) :
    (s.getField e key).1.envelopes = s.envelopes := by
  unfold getField
  split
  · obtain ⟨store, events, same⟩ := payload_eq (s := s) (e := e)
    rw [same]
  · rfl

theorem readMapField_eq (s : Session) (e : Envelope) (field : MapField) :
    s.readMapField e field = s.getField e field.key := by
  cases field with
  | data => simp [readMapField, MapField.key, getField]
  | ext => exact (if_neg (by decide)).symm
  | advice => exact (if_neg (by decide)).symm

theorem act_chained (wf : s.WellFormed) (place : Place) (act : Act) :
    s.Chained (s.step (act.step place)).1 := by
  have same : s.Chained s := .of_eq rfl
  cases act with
  | edit target made into =>
    exact withWritable_cases same fun linked found _ => editEnvelope_chained found _ _
  | readField target key into =>
    refine withEnvelope_cases same fun linked _ => .of_eq ?_
    exact (envelopes_keep _ _).trans (envelopes_getField _ _)
  | readMap target field into =>
    refine withEnvelope_cases same fun linked _ => .of_eq ?_
    rw [readMapField_eq]
    exact (envelopes_keep _ _).trans (envelopes_getField _ _)
  | look target => exact withEnvelope_cases same fun _ _ => same
  | freeze target =>
    refine withWritable_cases same fun linked found _ => ?_
    unfold Session.freeze
    dsimp only
    split
    · exact .set found rfl rfl
    · exact .set found rfl (Envelope.freeze_number _ _)
  | setLazy target on | setLocal target on =>
    exact withWritable_cases same fun linked found _ => .set found rfl rfl
  | render target form =>
    refine withEnvelope_cases same fun linked _ => ?_
    obtain ⟨store, only⟩ := serialize_eq (s := s) (e := linked.envelope)
    rw [render_fst, only]
    exact .of_eq rfl
  | copy target copied =>
    exact withEnvelope_cases same fun linked _ => .insert rfl (.inl rfl) (.inl (Nat.le_refl _))
  | drop target =>
    exact ⟨fun linked member => .inr ⟨linked, Table.mem_values_erase member, rfl⟩,
      fun name linked found => .inr ⟨linked, (Table.get?_of_get?_erase wf.sorted found).2, rfl⟩⟩

end Chains

def Has (s : Session) (shop : Workshop) (name : String) (hops : Nat) : Option Draft → Prop
  | some draft => s.Drafted shop name hops draft
  | none => s.linkedAt? name hops = none

/-- A desk shows by values what a session has under the names of a place. What is under names that
are locked is only read. -/
structure Matches (s : Session) (shop : Workshop) (place : Place) (locked : String → Prop)
    (desk : Desk) : Prop where
  drafts : ∀ name, s.Has shop (place.envelope name) (place.hops name) (desk.drafts name)
  hands : ∀ name, s.shown? (.handle (place.handle name)) = desk.hands name
  near : ∀ name, ¬ locked name → place.hops name = 0
  writable : ∀ name, ¬ locked name → s.Writable (place.envelope name)

-- The step of an act is answered with this sight and leaves these drafts.
def Answers (s : Session) (shop : Workshop) (place : Place) (act : Act) (result : Desk × Sight) :
    Prop :=
  (s.step (act.step place)).2.sight = result.2 ∧
    ∀ name, (s.step (act.step place)).1.Has shop (place.envelope name) (place.hops name)
      (result.1.drafts name)

theorem Matches.change? {locked : String → Prop} (agree : s.Matches shop place locked desk)
    (edit : Edit) : s.change? (edit.at place) = desk.change? edit := by
  have given (argument : Argument) : s.given? (argument.at place) = desk.given? argument := by
    cases argument with
    | handle name => exact agree.hands name
    | fresh v => rfl
  cases edit with
  | put key argument | assign key argument =>
    simp only [Edit.at, Session.change?, Desk.change?, given]
  | remove | ext => rfl

section Own

variable {hops : Nat} (wf : s.WellFormed) (equips : s.Equips shop)

include wf equips

theorem Has.frame {draft : Option Draft} (has : s.Has shop name hops draft) (step : Step)
    (undoes : s.Undoes (s.step step).1 shop) (unwritten : .envelope name ∉ step.writes) :
    (s.step step).1.Has shop name hops draft := by
  cases draft with
  | none => exact (linkedAt?_step unwritten hops).trans has
  | some draft => exact Drafted.frame wf equips step undoes has unwritten

theorem Drafted.copy {draft : Draft} (drafted : s.Drafted shop name hops draft) (target : String)
    (undoes : s.Undoes (s.step (.copyEnvelope name hops target)).1 shop) :
    (s.step (.copyEnvelope name hops target)).1.Drafted shop target 0 draft ∧
      (s.step (.copyEnvelope name hops target)).2 = .done := by
  obtain ⟨e, chain, found, -⟩ := drafted.views wf equips
  have copied : s.step (.copyEnvelope name hops target) =
      (s.takeId.1.addEnvelope target (e.copy s.nextId), .done) := withEnvelope_found found _
  have there : (s.step (.copyEnvelope name hops target)).1.linkedAt? target 0 =
      some ⟨e.copy s.nextId, []⟩ := by
    rw [linkedAt?_zero, copied]
    exact Table.get?_insert_self _ _ _
  refine ⟨?_, by rw [copied]⟩
  cases drafted with
  | unfrozen found' shows sorted =>
    obtain ⟨same, -⟩ := Linked.mk.inj (Option.some.inj (found'.symm.trans found))
    refine .unfrozen there ((same ▸ shows).of_core (live_linked there) ?_ rfl) sorted
    rw [copied]
    rfl
  | frozen found' taken carries wf' was sorted undone =>
    obtain ⟨same, -⟩ := Linked.mk.inj (Option.some.inj (found'.symm.trans found))
    exact frozen_next wf equips _ undoes carries wf' was sorted undone there (same ▸ taken)

end Own

section Writes

variable {draft : Draft} (drafted : s.Drafted shop name 0 draft) (writable : s.Writable name)
  (wf : s.WellFormed) (equips : s.Equips shop)

include drafted writable wf equips

theorem Drafted.own : ∃ e chain, s.envelopes.get? name = some ⟨e, chain⟩ ∧
    s.isShared e = false ∧ s.Views shop draft e := by
  obtain ⟨e, chain, found, views⟩ := drafted.views wf equips
  rw [linkedAt?_zero] at found
  exact ⟨e, chain, found, writable _ found, views⟩

theorem Drafted.edit_refused (unfrozen : draft.frozen = false) {edit : Edit}
    (refused : s.change? edit = none) (into : Option String) :
    s.step (.editEnvelope name edit into) = (s, .refused) := by
  obtain ⟨e, chain, found, unshared, views⟩ := drafted.own writable wf equips
  have open_ : e.isFrozen = false := views.frozen.trans unfrozen
  obtain ⟨key, argument, rfl | rfl, missing⟩ := change?_eq_none refused <;>
    simp [Session.step, withWritable_found found unshared, editEnvelope, open_, missing]

theorem Drafted.edit_frozen (frozen : draft.frozen) (edit : Edit) (into : Option String) :
    s.step (.editEnvelope name edit into) = (s, .envelopeError .frozen) := by
  obtain ⟨e, chain, found, unshared, views⟩ := drafted.own writable wf equips
  have sealed_ : e.isFrozen := views.frozen.trans frozen
  simp [Session.step, withWritable_found found unshared, editEnvelope, sealed_]

omit equips in
theorem Drafted.edit (unfrozen : draft.frozen = false) {edit : Edit} {change : Change}
    (made : s.change? edit = some change) (into : Option String) :
    (s.step (.editEnvelope name edit into)).1.Drafted shop name 0
        { draft with members := change.apply draft.members } ∧
      (s.step (.editEnvelope name edit into)).2.sight =
        .outcome (change.shown (change.outcome draft.members)) := by
  cases drafted with
  | unfrozen found shows sorted =>
    rw [linkedAt?_zero] at found
    have holds : s.HoldsEnvelope name _ shop.settings _ _ :=
      { shows with found, unshared := writable _ found }
    obtain ⟨⟨after, edited⟩, outcome⟩ := holds.edit wf sorted made into
    exact ⟨.unfrozen ((linkedAt?_zero name).trans edited.found) edited.toOpenEnvelope
      (Change.sorted_apply sorted change), Answer.sight_of_outcome? outcome⟩
  | frozen => exact nomatch unfrozen

theorem Drafted.freeze (undoes : s.Undoes (s.step (.freeze name)).1 shop) :
    (s.step (.freeze name)).1.Drafted shop name 0 { draft with frozen := true } ∧
      (s.step (.freeze name)).2 = .done := by
  cases drafted with
  | @unfrozen chain members e found shows sorted =>
    rw [linkedAt?_zero] at found
    have unshared := writable _ found
    have freezes : s.freezing? (.freeze name) = some e := by
      simp [freezing?, found, unshared, Envelope.isFrozen, shows.unfrozen]
    have carries := freezing_carries wf freezes
    have there : (s.step (.freeze name)).1.linkedAt? name 0 =
        some ⟨e.sealed s.store.nextSnapshot, chain⟩ := by
      rw [linkedAt?_zero, step_freeze found unshared shows.unfrozen]
      exact Table.get?_insert_self _ _ _
    refine ⟨.frozen there rfl carries wf shows sorted fun _ member =>
      absurd member List.not_mem_nil, ?_⟩
    rw [Session.step, withWritable_found found unshared]
  | @frozen chain members e origin start log found taken carries wf' was sorted undone =>
    rw [linkedAt?_zero] at found
    have frozen : e.isFrozen := (e.isFrozen_iff).mpr ⟨_, taken⟩
    have stepped : s.step (.freeze name) = _ := withWritable_found found (writable _ found) _
    have still : (s.step (.freeze name)).1.linkedAt? name 0 = some ⟨e, chain⟩ := by
      rw [linkedAt?_zero, stepped]
      simp [Session.freeze, frozen, setEnvelope]
    exact ⟨frozen_next wf equips _ undoes carries wf' was sorted undone still taken,
      by rw [stepped]⟩

-- The flags of an envelope are no part of a draft.
theorem Drafted.setFlag {step : Step} {flag : Envelope → Envelope}
    (core : ∀ e, (flag e).core = e.core)
    (sets : s.step step = s.withWritable name fun linked =>
      (s.setEnvelope name linked (flag linked.envelope), .done))
    (undoes : s.Undoes (s.step step).1 shop) :
    (s.step step).1.Drafted shop name 0 draft ∧ (s.step step).2 = .done := by
  obtain ⟨e, chain, found, unshared, -⟩ := drafted.own writable wf equips
  have stepped := sets.trans (withWritable_found found unshared _)
  have there : (s.step step).1.linkedAt? name 0 = some ⟨flag e, chain⟩ := by
    rw [linkedAt?_zero, stepped]
    exact Table.get?_insert_self _ _ _
  refine ⟨?_, by rw [stepped]⟩
  rw [← linkedAt?_zero] at found
  cases drafted with
  | unfrozen found' shows sorted =>
    obtain ⟨same, -⟩ := Linked.mk.inj (Option.some.inj (found'.symm.trans found))
    refine .unfrozen there ((same ▸ shows).of_core (live_linked there) ?_ (core e)) sorted
    rw [stepped]
    rfl
  | frozen found' taken carries wf' was sorted undone =>
    obtain ⟨same, -⟩ := Linked.mk.inj (Option.some.inj (found'.symm.trans found))
    have sealed_ : (flag e).snapshot = e.snapshot :=
      ((Envelope.core_eq_iff _ _).mp (core e)).2.2.1
    exact frozen_next wf equips _ undoes carries wf' was sorted undone there
      (sealed_.trans (same ▸ taken))

end Writes

theorem withEnvelope_missing {hops : Nat} (missing : s.linkedAt? name hops = none)
    (run : Linked → Session × Answer) : s.withEnvelope name hops run = (s, .refused) := by
  unfold linkedAt? at missing
  simp only [withEnvelope, missing]

theorem withWritable_missing (missing : s.linkedAt? name 0 = none)
    (run : Linked → Session × Answer) : s.withWritable name run = (s, .refused) :=
  withEnvelope_missing missing _

theorem sight_give (t : Session) (into : Option String) (ref : Option Ref) :
    (t.give into ref).2.sight = .outcome (.previous (ref.map t.value)) := by
  cases ref <;> rfl

theorem sight_giveMap (t : Session) (into : Option String) (ref : Option Ref) :
    (t.giveMap into ref).2.sight =
      .outcome (.previous ((ref.map t.value).filter Json.isObject)) := by
  cases ref with
  | none => rfl
  | some ref =>
    cases map : (t.value ref).isObject <;>
      simp [giveMap, describe, Answer.sight, Option.filter, map]

section Acts

variable {locked : String → Prop} (agree : s.Matches shop place locked desk) (wf : s.WellFormed)
  (equips : s.Equips shop) (distinct : place.Distinct) (act : Act) (unlocked : act.Unlocked locked)
  (undoes : s.Undoes (s.step (act.step place)).1 shop)

include agree wf equips distinct undoes

theorem Matches.unwritten (other : act.written? ≠ some name) :
    (s.step (act.step place)).1.Has shop (place.envelope name) (place.hops name)
      (desk.drafts name) := by
  refine Has.frame wf equips (agree.drafts name) _ undoes fun written => ?_
  obtain ⟨target, named, same⟩ := Act.envelope_mem_writes.mp written
  exact other (named.trans (congrArg some (distinct.envelope _ _ same).symm))

include unlocked

theorem Matches.written {target : String} (named : act.written? = some target)
    {draft : Option Draft}
    (has : (s.step (act.step place)).1.Has shop (place.envelope target) 0 draft) (name : String) :
    (s.step (act.step place)).1.Has shop (place.envelope name) (place.hops name)
      ((desk.write target draft).drafts name) := by
  by_cases same : name = target
  · rw [same, agree.near target (unlocked target named)]
    simpa [Desk.write] using has
  · have other : act.written? ≠ some name := by
      rw [named]
      simpa using Ne.symm same
    simpa [Desk.write, same] using agree.unwritten wf equips distinct act undoes other

omit wf equips distinct undoes in
theorem Matches.own {target : String} (named : act.written? = some target) :
    place.hops target = 0 ∧ s.Writable (place.envelope target) :=
  ⟨agree.near target (unlocked target named), agree.writable target (unlocked target named)⟩

omit wf equips distinct undoes unlocked in
theorem Matches.withDraft (target : String) {run : Draft → Desk × Sight}
    (missing : s.linkedAt? (place.envelope target) (place.hops target) = none →
      s.step (act.step place) = (s, .refused))
    (found : ∀ draft, s.Drafted shop (place.envelope target) (place.hops target) draft →
      desk.drafts target = some draft → s.Answers shop place act (run draft)) :
    s.Answers shop place act (desk.withDraft target run) := by
  have has := agree.drafts target
  cases here : desk.drafts target with
  | none =>
    rw [here] at has
    simp only [Desk.withDraft, here, Answers, missing has]
    exact ⟨rfl, agree.drafts⟩
  | some draft =>
    rw [here] at has
    simp only [Desk.withDraft, here]
    exact found draft has here

omit unlocked in
theorem Matches.read (target : String) {run : Linked → Session × Answer} {view : Draft → Sight}
    (reads : act.written? = none)
    (runs : s.step (act.step place) =
      s.withEnvelope (place.envelope target) (place.hops target) run)
    (seen : ∀ draft e chain, s.Views shop draft e → (run ⟨e, chain⟩).2.sight = view draft) :
    s.Answers shop place act (desk.withDraft target fun draft => (desk, view draft)) := by
  refine agree.withDraft act target (fun missing => runs.trans (withEnvelope_missing missing run))
    fun draft drafted _ => ⟨?_, fun name => ?_⟩
  · obtain ⟨e, chain, found, views⟩ := Drafted.views drafted wf equips
    rw [runs, withEnvelope_found found, seen draft e chain views]
  · exact agree.unwritten wf equips distinct act undoes (by simp [reads])

theorem Matches.setFlag {target : String} (named : act.written? = some target)
    (flag : Envelope → Envelope) (core : ∀ e, (flag e).core = e.core)
    (sets : s.step (act.step place) = s.withWritable (place.envelope target) fun linked =>
      (s.setEnvelope (place.envelope target) linked (flag linked.envelope), .done)) :
    s.Answers shop place act (desk.withDraft target fun _ => (desk, .outcome .done)) := by
  obtain ⟨near, writable⟩ := agree.own act unlocked named
  refine agree.withDraft act target
    (fun missing => sets.trans (withWritable_missing (near ▸ missing) _))
    fun draft drafted here => ?_
  obtain ⟨still, done⟩ := Drafted.setFlag (near ▸ drafted) writable wf equips core sets undoes
  have there : (s.step (act.step place)).1.Has shop (place.envelope target) 0
      (desk.drafts target) := here ▸ still
  have same : desk.write target (desk.drafts target) = desk := by
    simp only [Desk.write]
    congr
    funext other
    split
    next same => rw [same]
    next => rfl
  refine ⟨congrArg Answer.sight done, ?_⟩
  exact same ▸ agree.written wf equips distinct act unlocked undoes named there

-- An act is answered as the desk says, and leaves the drafts that the desk has after it.
theorem Matches.acted : s.Answers shop place act (desk.act shop act) := by
  cases act with
  | edit target made into =>
    obtain ⟨near, writable⟩ := agree.own (.edit target made into) unlocked rfl
    refine agree.withDraft (.edit target made into) target
      (fun missing => withWritable_missing (near ▸ missing) _) fun draft drafted _ => ?_
    rw [near] at drafted
    have changed := agree.change? made
    cases frozen : draft.frozen with
    | true =>
      have stepped := drafted.edit_frozen writable wf equips frozen (made.at place)
        (into.map place.handle)
      simp only [Answers, Act.step, stepped, if_true]
      exact ⟨rfl, agree.drafts⟩
    | false =>
      simp only [Bool.false_eq_true, if_false]
      cases change : desk.change? made with
      | none =>
        have stepped := drafted.edit_refused writable wf equips frozen (changed.trans change)
          (into.map place.handle)
        simp only [Answers, Act.step, stepped]
        exact ⟨rfl, agree.drafts⟩
      | some change =>
        obtain ⟨edited, sight⟩ := drafted.edit writable wf frozen (changed.trans change)
          (into.map place.handle)
        rw [frozen] at edited
        exact ⟨sight,
          agree.written wf equips distinct (.edit target made into) unlocked undoes rfl edited⟩
  | readField target key into =>
    refine agree.read wf equips distinct _ undoes target rfl rfl fun draft e chain views => ?_
    rw [sight_give, views.field]
  | readMap target field into =>
    refine agree.read wf equips distinct _ undoes target rfl rfl fun draft e chain views => ?_
    rw [sight_giveMap, readMapField_eq, views.field]
  | look target =>
    refine agree.read wf equips distinct _ undoes target rfl rfl fun draft e chain views => ?_
    have string {key : String} (other : key ≠ FieldName.data) := views.string key other
    simp only [Answer.sight, envelopeState, views.frozen,
      string (by decide : FieldName.channel ≠ _), string (by decide : FieldName.id ≠ _),
      string (by decide : FieldName.clientId ≠ _)]
  | render target form =>
    exact agree.read wf equips distinct _ undoes target rfl rfl
      fun draft e chain views => views.render form
  | freeze target =>
    obtain ⟨near, writable⟩ := agree.own (.freeze target) unlocked rfl
    refine agree.withDraft (.freeze target) target
      (fun missing => withWritable_missing (near ▸ missing) _) fun draft drafted _ => ?_
    rw [near] at drafted
    obtain ⟨frozen, done⟩ := drafted.freeze writable wf equips undoes
    exact ⟨congrArg Answer.sight done,
      agree.written wf equips distinct (.freeze target) unlocked undoes rfl frozen⟩
  | setLazy target on =>
    exact agree.setFlag wf equips distinct (.setLazy target on) unlocked undoes rfl
      (fun e => { e with lazy := on }) (fun _ => rfl) rfl
  | setLocal target on =>
    exact agree.setFlag wf equips distinct (.setLocal target on) unlocked undoes rfl
      (fun e => { e with isLocal := on }) (fun _ => rfl) rfl
  | copy source target =>
    refine agree.withDraft (.copy source target) source
      (fun missing => withEnvelope_missing missing _) fun draft drafted _ => ?_
    obtain ⟨copied, done⟩ := drafted.copy wf equips (place.envelope target) undoes
    exact ⟨congrArg Answer.sight done,
      agree.written wf equips distinct (.copy source target) unlocked undoes rfl copied⟩
  | drop target =>
    obtain ⟨near, -⟩ := agree.own (.drop target) unlocked rfl
    have gone : (s.step ((Act.drop target).step place)).1.Has shop (place.envelope target) 0 none :=
      (linkedAt?_zero _).trans (Table.get?_erase_self wf.sorted _)
    refine ⟨congrArg Sight.flag ?_,
      agree.written wf equips distinct (.drop target) unlocked undoes rfl gone⟩
    have has := near ▸ agree.drafts target
    cases here : desk.drafts target with
    | none =>
      rw [here] at has
      simp [Table.contains, (linkedAt?_zero _).symm.trans has]
    | some draft =>
      rw [here] at has
      obtain ⟨e, chain, found, -⟩ := Drafted.views has wf equips
      simp [Table.contains, (linkedAt?_zero _).symm.trans found]

end Acts

end Session

end Bayeux
