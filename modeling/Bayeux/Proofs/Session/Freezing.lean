import Bayeux.Proofs.Session.Frozen

set_option autoImplicit false

namespace Bayeux

namespace Session

variable {s : Session} {origin : Envelope} {step : Step}

theorem step_freeze {name : String} {linked : Linked} (found : s.envelopes.get? name = some linked)
    (unshared : s.isShared linked.envelope = false) (open_ : linked.envelope.snapshot = none) :
    (s.step (.freeze name)).1 = { s with store := (s.store.addSnapshot linked.envelope.capture).1
      }.setEnvelope name linked (linked.envelope.sealed s.store.nextSnapshot) := by
  have unfrozen : linked.envelope.isFrozen = false := (Envelope.isFrozen_eq_false_iff _).mpr open_
  rw [Session.step, withWritable_found found unshared]
  simp [Session.freeze, unfrozen, Envelope.freeze_eq open_]

theorem step_freezeMessage {factoryName messageName target : String} {factory : Factory}
    {message : Message} (found : s.factories.get? factoryName = some factory)
    (found' : s.messages.get? messageName = some message) :
    let origin := factory.wrap s.store s.nextId message
    (s.step (.freezeMessage factoryName messageName target)).1 =
      { s with
        store := (s.store.addSnapshot origin.capture).1
        nextId := s.nextId + 1 }.addEnvelope target (origin.sealed s.store.nextSnapshot) := by
  have open_ : (factory.wrap s.store s.nextId message).snapshot = none := rfl
  simp [Session.step, withFactory, withMessage, found, found', takeId, Factory.freeze,
    Envelope.freeze_eq open_]

theorem freezing?_cases (frozen : s.freezing? step = some origin) :
    (∃ name linked, step = .freeze name ∧ s.envelopes.get? name = some linked ∧
      s.isShared linked.envelope = false ∧ linked.envelope.snapshot = none ∧
      origin = linked.envelope) ∨
    ∃ factoryName messageName target factory message,
      step = .freezeMessage factoryName messageName target ∧
      s.factories.get? factoryName = some factory ∧ s.messages.get? messageName = some message ∧
      origin = factory.wrap s.store s.nextId message := by
  cases step with
  | freeze name =>
    obtain ⟨linked, found, taken⟩ := Option.bind_eq_some_iff.mp frozen
    simp only [Option.ite_none_left_eq_some, Option.some.injEq, Bool.or_eq_true, not_or,
      Bool.not_eq_true, Envelope.isFrozen_eq_false_iff] at taken
    exact .inl ⟨name, linked, rfl, found, taken.1.1, taken.1.2, taken.2.symm⟩
  | freezeMessage factoryName messageName target =>
    obtain ⟨factory, found, taken⟩ := Option.bind_eq_some_iff.mp frozen
    obtain ⟨message, found', same⟩ := Option.map_eq_some_iff.mp taken
    exact .inr ⟨factoryName, messageName, target, factory, message, rfl, found, found', same.symm⟩
  | _ => simp [freezing?] at frozen

theorem freezing_correct (wf : s.WellFormed) (frozen : s.freezing? step = some origin) :
    origin.WellFormed s.store ∧ origin.snapshot = none ∧
      (s.step step).1.store = (s.store.addSnapshot origin.capture).1 ∧
      ∀ e ∈ (s.step step).1.liveEnvelopes, e.snapshot = some s.store.nextSnapshot →
        e.core = (origin.sealed s.store.nextSnapshot).core := by
  have new (e : Envelope) (live : e ∈ s.liveEnvelopes) : e.snapshot ≠ some s.store.nextSnapshot :=
    fun taken => absurd ((wf.envelopes e live).frozen _ taken).2.1 (Nat.lt_irrefl _)
  rcases freezing?_cases frozen with
    ⟨name, linked, rfl, found, unshared, open_, rfl⟩ |
    ⟨factoryName, messageName, target, factory, message, rfl, found, found', rfl⟩
  · rw [step_freeze found unshared open_]
    refine ⟨wf.envelopes _ (live_head found), open_, rfl, fun e live taken => ?_⟩
    rcases (live_insert wf.sorted rfl e).mp live with inside | elsewhere
    · rcases (mem_all _ e).mp inside with head | chained
      · rw [head]
      · exact absurd taken (new e (live_of_get? found (by simp [mem_all, chained])))
    · exact absurd taken (new e elsewhere.live)
  · rw [step_freezeMessage found found']
    refine ⟨wrap_wellFormed wf (wf.factories factory (Table.mem_values_of_get? found))
      (Table.mem_values_of_get? found') s.nextId, rfl, rfl, fun e live taken => ?_⟩
    rcases (live_insert wf.sorted rfl e).mp live with inside | elsewhere
    · rcases (mem_all _ e).mp inside with head | chained
      · rw [head]
      · simp at chained
    · exact absurd taken (new e elsewhere.live)

theorem freezing_carries (wf : s.WellFormed) (frozen : s.freezing? step = some origin) :
    Carries s origin (s.step step).1 [] := by
  obtain ⟨ok, unfrozen, store, family⟩ := freezing_correct wf frozen
  exact
    { open_ := (ok.unfrozen unfrozen).1
      taken := by simp [store, Store.HasSnapshot, Store.nextSnapshot, Store.addSnapshot]
      family := family
      snapshot := by
        rw [store]
        exact s.store.snapshot_addSnapshot_self origin.capture
      log := ⟨[], rfl⟩
      values := fun _ _ _ ref _ => by
        rw [Session.value, store]
        rfl }

end Session

/-- A step of a run that freezes an envelope, which was `origin` before. -/
structure Freezing (steps : List Step) where
  before : List Step
  step : Step
  later : List Step
  origin : Envelope
  whole : steps = before ++ step :: later
  freezes : (Session.reached before).freezing? step = some origin

namespace Freezing

open Session

variable {steps : List Step} (freezing : Freezing steps)

def start : Session := reached freezing.before

-- The session right after the step.
def done : Session := (freezing.start.step freezing.step).1

def snapshot : SnapshotId := freezing.start.store.nextSnapshot

-- All attempts to render the snapshot so far.
def attempts : List Attempt := freezing.done.attempts freezing.snapshot freezing.later

def content : JsonMap := freezing.origin.content freezing.start.store

def extend (more : List Step) : Freezing (steps ++ more) :=
  { freezing with
    later := freezing.later ++ more
    whole := by simpa using congrArg (· ++ more) freezing.whole }

theorem origin_wellFormed : freezing.origin.WellFormed freezing.start.store :=
  (freezing_correct (reached_wellFormed freezing.before) freezing.freezes).1

theorem origin_open : freezing.origin.snapshot = none :=
  (freezing_correct (reached_wellFormed freezing.before) freezing.freezes).2.1

theorem store_done : freezing.done.store =
    (freezing.start.store.addSnapshot freezing.origin.capture).1 :=
  (freezing_correct (reached_wellFormed freezing.before) freezing.freezes).2.2.1

theorem reached_eq : reached steps = freezing.done.after freezing.later :=
  (congrArg reached freezing.whole).trans (reached_append _ _)

theorem attempts_extend (more : List Step) : (freezing.extend more).attempts =
    freezing.attempts ++ (reached steps).attempts freezing.snapshot more := by
  have whole := attempts_append freezing.done freezing.snapshot freezing.later more
  rwa [← freezing.reached_eq] at whole

theorem advance : Advance .any freezing.start (reached steps) := by
  rw [freezing.reached_eq]
  exact (after_sound (reached_wellFormed freezing.before) (freezing.step :: freezing.later)).advance

theorem carries : Carries freezing.start freezing.origin (reached steps) freezing.attempts := by
  have wf := reached_wellFormed freezing.before
  have begun := freezing_carries wf freezing.freezes
  rw [freezing.reached_eq]
  exact begun.after (step_sound wf freezing.step).wf freezing.later

theorem snapshot_now : (reached steps).store.snapshot freezing.snapshot =
    freezing.origin.snapshotAfter (rendering? freezing.attempts) :=
  freezing.carries.snapshot

theorem owned_rendered {text : String} (done : rendering? freezing.attempts = some text) :
    ((reached steps).store.snapshot freezing.snapshot).payload.owned = [] := by
  rw [freezing.snapshot_now, done]
  exact Slot.owned_downgrade _

/-- Rendering calls the codec once where nothing is stored yet, with what was frozen, and when it
gives an answer nothing in the snapshot keeps the payload. -/
structure AsksOnce (e : Envelope) (form : Form) : Prop where
  called : e.isSerialized (reached steps).store = false →
    (reached steps).store.callsSince ((reached steps).render e form).1.store e.codec =
      [.generate freezing.content ((reached steps).store.generate e.codec freezing.content).2]
  released : (∀ error, ((reached steps).render e form).2 ≠ .envelopeError error) →
    (((reached steps).render e form).1.store.snapshot freezing.snapshot).payload.owned = []

theorem asksOnce {e : Envelope} (live : e ∈ (reached steps).liveEnvelopes)
    (taken : e.snapshot = some freezing.snapshot) (form : Form) : freezing.AsksOnce e form := by
  have wf := reached_wellFormed steps
  have carries := freezing.carries
  have codec : e.codec = freezing.origin.codec :=
    congrArg Factory.codec (carries.settings_eq live taken)
  constructor
  · intro pending
    rw [codec]
    exact (carries.first_call wf live taken pending).1 form
  · intro answered
    rw [render_fst]
    cases done : rendering? freezing.attempts with
    | some text =>
      rw [carries.serialize_done taken done]
      exact freezing.owned_rendered done
    | none =>
      have bare : ((reached steps).store.snapshot freezing.snapshot).stored = none := by
        rw [freezing.snapshot_now, done]
        rfl
      have has := ((wf.envelopes e live).frozen _ taken).2.1
      have quiet := (reached steps).store.generate_advance (wf.envelopes e live).codec
        ((reached steps).toRender freezing.snapshot)
      rcases answer : (reached steps).store.generate e.codec
        ((reached steps).toRender freezing.snapshot) with ⟨store, error | text⟩
      · have failed := serialize_failed taken bare answer
        refine absurd ?_ (answered (.codec error))
        cases form <;> simp [render, json, jsonBytes, wire, failed, Except.bind, Except.map]
      · rw [answer] at quiet
        rw [serialize_rendered taken bare answer]
        dsimp only
        rw [store.snapshot_setSnapshot_self (quiet.has_snapshot has)]
        exact Slot.owned_downgrade _

end Freezing

namespace Session

variable {s : Session}

-- A snapshot that a step adds is the one that it takes of what it freezes.
theorem step_snapshot (wf : s.WellFormed) (step : Step) {id : SnapshotId}
    (has : (s.step step).1.store.HasSnapshot id) : s.store.HasSnapshot id ∨
      ∃ origin, s.freezing? step = some origin ∧ s.store.nextSnapshot = id := by
  by_cases old : s.store.HasSnapshot id
  · exact .inl old
  · have more : s.store.snapshots.size < (s.step step).1.store.snapshots.size := by
      simp only [Store.HasSnapshot] at has old
      omega
    obtain ⟨origin, frozen⟩ :=
      Option.isSome_iff_exists.mp ((step_sound wf step).advance.store.snapshots_new more)
    refine .inr ⟨origin, frozen, ?_⟩
    rw [(freezing_correct wf frozen).2.2.1] at has
    simp only [Store.HasSnapshot, Store.addSnapshot, Array.size_push] at has old
    simp only [Store.nextSnapshot]
    congr
    omega

theorem after_snapshot (wf : s.WellFormed) (steps : List Step) {id : SnapshotId}
    (has : (s.after steps).store.HasSnapshot id) : s.store.HasSnapshot id ∨
      ∃ before step later origin, steps = before ++ step :: later ∧
        (s.after before).freezing? step = some origin ∧
        (s.after before).store.nextSnapshot = id := by
  induction steps generalizing s with
  | nil => exact .inl has
  | cons first rest ih =>
    rcases ih (step_sound wf first).wf has with early | ⟨before, step, later, origin, rfl, found⟩
    · refine (step_snapshot wf first early).imp_right fun ⟨origin, found⟩ => ?_
      exact ⟨[], first, rest, origin, rfl, found⟩
    · exact .inr ⟨first :: before, step, later, origin, rfl, found⟩

theorem freezing_of_snapshot (steps : List Step) {id : SnapshotId}
    (has : (reached steps).store.HasSnapshot id) :
    ∃ freezing : Freezing steps, freezing.snapshot = id := by
  rcases after_snapshot empty_wellFormed steps has with
    none | ⟨before, step, later, origin, whole, freezes, same⟩
  · exact absurd none (Nat.not_lt_zero _)
  · exact ⟨⟨before, step, later, origin, whole, freezes⟩, same⟩

theorem exists_freezing (steps : List Step) {e : Envelope} (live : e ∈ (reached steps).liveEnvelopes)
    (frozen : e.isFrozen) : ∃ freezing : Freezing steps, e.snapshot = some freezing.snapshot := by
  obtain ⟨id, taken⟩ := (e.isFrozen_iff).mp frozen
  have has := (((reached_wellFormed steps).envelopes e live).frozen id taken).2.1
  obtain ⟨freezing, rfl⟩ := freezing_of_snapshot steps has
  exact ⟨freezing, taken⟩

-- The codec fails once, when the envelope of the message is rendered for the first time.
def frozenRun : List Step :=
  [.newCodec "codec" [.fail .utf8] [],
    .newMessage "message" [("data", .string "payload"), ("id", .string "7")],
    .envelopeOf "envelope" "message" "codec" 1000 false,
    .freeze "envelope"]

def frozenEnvelope : Envelope :=
  { Envelope.new 0 1000 false ⟨0⟩ with
    fields := [("id", ⟨1⟩)]
    payload := .weak ⟨0⟩
    snapshot := some ⟨0⟩ }

end Session

end Bayeux
