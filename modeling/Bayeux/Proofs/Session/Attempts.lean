import Bayeux.Proofs.Session.Holders
import Bayeux.Proofs.Store.Operations

set_option autoImplicit false

namespace Bayeux

-- A call of a codec that is to render a snapshot.
structure Attempt where
  fields : JsonMap
  answer : Except CodecError String

def CodecCall.attempt? : CodecCall → Option Attempt
  | .generate fields answer => some ⟨fields, answer⟩
  | .parse _ _ => none

theorem CodecCall.attempt?_eq_none {call : CodecCall} (silent : call.isGenerate = false) :
    call.attempt? = none := by
  cases call with
  | generate fields answer => simp [isGenerate] at silent
  | parse text answer => rfl

-- The text of the first attempt that succeeds.
def rendering? (log : List Attempt) : Option String := log.findSome? (·.answer.toOption)

-- Attempts that all get the same fields: they fail until one succeeds, which is the last.
def attemptsOf (fields : JsonMap) (failures : List CodecError) (success : Option String) :
    List Attempt :=
  failures.map (fun error => ⟨fields, .error error⟩) ++
    success.toList.map fun text => ⟨fields, .ok text⟩

@[simp] theorem rendering?_attemptsOf (fields : JsonMap) (failures : List CodecError)
    (success : Option String) : rendering? (attemptsOf fields failures success) = success := by
  induction failures with
  | nil => cases success <;> rfl
  | cons error rest ih => exact ih

theorem attemptsOf_failed (fields : JsonMap) (failures : List CodecError) (error : CodecError) :
    attemptsOf fields failures none ++ [⟨fields, .error error⟩] =
      attemptsOf fields (failures ++ [error]) none := by
  simp [attemptsOf]

theorem attemptsOf_succeeded (fields : JsonMap) (failures : List CodecError) (text : String) :
    attemptsOf fields failures none ++ [⟨fields, .ok text⟩] =
      attemptsOf fields failures (some text) := by
  simp [attemptsOf]

theorem fields_of_mem_attemptsOf {fields : JsonMap} {failures : List CodecError}
    {success : Option String} {attempt : Attempt}
    (member : attempt ∈ attemptsOf fields failures success) : attempt.fields = fields := by
  simp only [attemptsOf, List.mem_append, List.mem_map] at member
  rcases member with ⟨_, _, rfl⟩ | ⟨_, _, rfl⟩ <;> rfl

namespace Store

-- The calls of a codec between two stores, the first first.
def callsSince (earlier later : Store) (codec : CodecId) : List CodecCall :=
  let calls := (later.codec codec).calls
  (calls.take (calls.length - (earlier.codec codec).calls.length)).reverse

def attemptsSince (earlier later : Store) (codec : CodecId) : List Attempt :=
  (earlier.callsSince later codec).filterMap CodecCall.attempt?

variable {a b c : Store} {codec : CodecId}

theorem callsSince_eq {calls : List CodecCall}
    (grown : (b.codec codec).calls = calls ++ (a.codec codec).calls) :
    a.callsSince b codec = calls.reverse := by
  simp [callsSince, grown]

theorem callsSince_trans {effect larger : Effect} (first : Advance effect a b)
    (second : Advance larger b c) (has : a.HasCodec codec) :
    a.callsSince c codec = a.callsSince b codec ++ b.callsSince c codec := by
  obtain ⟨-, early, grown, -⟩ := first.codecs codec has
  obtain ⟨-, late, grown', -⟩ := second.codecs codec (first.has_codec has)
  have whole : (c.codec codec).calls = (late ++ early) ++ (a.codec codec).calls := by
    rw [grown', grown, List.append_assoc]
  rw [callsSince_eq grown, callsSince_eq grown', callsSince_eq whole, List.reverse_append]

theorem attemptsSince_trans {effect larger : Effect} (first : Advance effect a b)
    (second : Advance larger b c) (has : a.HasCodec codec) :
    a.attemptsSince c codec = a.attemptsSince b codec ++ b.attemptsSince c codec := by
  simp only [attemptsSince, callsSince_trans first second has, List.filterMap_append]

theorem attemptsSince_self (store : Store) (codec : CodecId) :
    store.attemptsSince store codec = [] := by
  simp [attemptsSince, callsSince]

theorem attemptsSince_silent {effect : Effect} (step : Advance effect a b)
    (mute : ¬ effect.generates) (has : a.HasCodec codec) : a.attemptsSince b codec = [] := by
  obtain ⟨-, calls, grown, silent⟩ := step.codecs codec has
  simp only [attemptsSince, callsSince_eq grown, List.filterMap_eq_nil_iff, List.mem_reverse]
  exact fun call member => CodecCall.attempt?_eq_none (silent mute call member)

theorem calls_generate (has : a.HasCodec codec) (fields : JsonMap) :
    ((a.generate codec fields).1.codec codec).calls =
      .generate fields (a.generate codec fields).2 :: (a.codec codec).calls := by
  simp only [generate, codec_setCodec_self a has]
  rfl

theorem callsSince_generate (has : a.HasCodec codec) (fields : JsonMap) :
    a.callsSince (a.generate codec fields).1 codec =
      [.generate fields (a.generate codec fields).2] := by
  have grown : ((a.generate codec fields).1.codec codec).calls =
      [.generate fields (a.generate codec fields).2] ++ (a.codec codec).calls :=
    calls_generate has fields
  exact callsSince_eq grown

end Store

namespace Session

-- The envelope that a step is about.
def subject? (s : Session) : Step → Option Envelope
  | .dropEnvelope name | .editEnvelope name _ _ | .freeze name | .setLazy name _ | .setLocal name _
  | .associate name _ => (s.linkedAt? name 0).map (·.envelope)
  | .copyEnvelope name hops _ | .readField name hops _ _ | .readMap name hops _ _
  | .showEnvelope name hops | .outlineEnvelope name hops _ | .render name hops _
  | .renderAtOnce name hops _ => (s.linkedAt? name hops).map (·.envelope)
  | _ => none

-- The attempts to render a snapshot that are made when a step is about an envelope that has it.
def attemptsIn (s : Session) (id : SnapshotId) (step : Step) : List Attempt :=
  match s.subject? step with
  | none => []
  | some e =>
    if e.snapshot = some id then s.store.attemptsSince (s.step step).1.store e.codec else []

def attempts (s : Session) (id : SnapshotId) : List Step → List Attempt
  | [] => []
  | first :: rest => s.attemptsIn id first ++ (s.step first).1.attempts id rest

theorem attempts_append (s : Session) (id : SnapshotId) (before later : List Step) :
    s.attempts id (before ++ later) = s.attempts id before ++ (s.after before).attempts id later := by
  induction before generalizing s with
  | nil => rfl
  | cons first rest ih => simp only [List.cons_append, attempts, ih, List.append_assoc, after_cons]

variable {s : Session} {step : Step} {e : Envelope}

theorem serialize_pending {e : Envelope} {id : SnapshotId} (has : s.store.HasCodec e.codec)
    (taken : e.snapshot = some id) (bare : (s.store.snapshot id).stored = none) :
    s.store.callsSince (s.serialize e).1.store e.codec =
        [.generate (s.toRender id) (s.store.generate e.codec (s.toRender id)).2] ∧
      (s.json e).2 = (s.store.generate e.codec (s.toRender id)).2.mapError .codec := by
  have called := Store.callsSince_generate has (s.toRender id)
  rcases answer : s.store.generate e.codec (s.toRender id) with ⟨store, error | text⟩
  · rw [answer] at called
    simp only [json, serialize_failed taken bare answer]
    exact ⟨called, rfl⟩
  · rw [answer] at called
    simp only [json, serialize_rendered taken bare answer]
    refine ⟨called, ?_⟩
    simp [Except.bind]

theorem subject?_of_rendered? (asked : s.rendered? step = some e) : s.subject? step = some e := by
  cases step <;> simp_all [rendered?, subject?]

theorem rendered?_of_generates (subject : s.subject? step = some e) (generates : step.generates) :
    s.rendered? step = some e := by
  cases step <;> simp_all [rendered?, subject?, Step.generates]

theorem live_of_subject? (subject : s.subject? step = some e) : e ∈ s.liveEnvelopes := by
  have found : ∃ name hops linked, s.linkedAt? name hops = some linked ∧ linked.envelope = e := by
    cases step <;> simp only [subject?, Option.map_eq_some_iff, reduceCtorEq] at subject <;>
      exact ⟨_, _, subject⟩
  obtain ⟨name, hops, linked, here, rfl⟩ := found
  exact live_linked here

theorem step_of_rendered? (asked : s.rendered? step = some e) :
    ∃ workers, (s.step step).1 = (s.renderTimes e workers).1 := by
  cases step with
  | render name hops form =>
    obtain ⟨linked, found, rfl⟩ := Option.map_eq_some_iff.mp asked
    refine ⟨1, ?_⟩
    rw [Session.step, withEnvelope_found found, render_fst]
    rfl
  | renderAtOnce name hops workers =>
    obtain ⟨linked, found, rfl⟩ := Option.map_eq_some_iff.mp asked
    refine ⟨workers, ?_⟩
    rw [Session.step, withEnvelope_found found]
  | _ => simp [rendered?] at asked

theorem attemptsIn_eq_nil (wf : s.WellFormed) {id : SnapshotId}
    (silent : ∀ e, s.rendered? step = some e → e.snapshot ≠ some id) : s.attemptsIn id step = [] := by
  unfold attemptsIn
  split
  · rfl
  next e subject =>
    split
    next taken =>
      have mute : ¬ (s.effect step).generates := fun generates =>
        silent e (rendered?_of_generates subject generates) taken
      have has := (wf.envelopes e (live_of_subject? subject)).codec
      exact Store.attemptsSince_silent (step_sound wf step).advance.store mute has
    · rfl

end Session

end Bayeux
