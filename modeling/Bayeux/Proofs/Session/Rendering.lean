import Bayeux.Proofs.Session.Freezing

set_option autoImplicit false

namespace Bayeux

theorem attemptsOf_append {fields : JsonMap} {failures failures' : List CodecError} {text : String}
    {success : Option String} {more : List Attempt}
    (grown : attemptsOf fields failures (some text) ++ more = attemptsOf fields failures' success) :
    more = [] := by
  induction failures generalizing failures' with
  | nil =>
    cases failures' with
    | nil =>
      cases success with
      | none => simp [attemptsOf] at grown
      | some other =>
        simp only [attemptsOf, List.map_nil, List.nil_append, Option.toList_some, List.map_cons,
          List.cons_append, List.cons.injEq] at grown
        exact grown.2
    | cons error rest => simp [attemptsOf] at grown
  | cons error rest ih =>
    cases failures' with
    | nil => cases success <;> simp [attemptsOf] at grown
    | cons error' rest' =>
      simp only [attemptsOf, List.map_cons, List.cons_append, List.cons.injEq] at grown
      have tail : attemptsOf fields rest (some text) ++ more = attemptsOf fields rest' success :=
        grown.2
      exact ih tail

namespace Session

variable {s start : Session} {e origin : Envelope} {log : List Attempt}

structure Renders (s : Session) (e : Envelope) (text : Option String) : Prop where
  isSerialized : e.isSerialized s.store = text.isSome
  isZipped : e.isZipped s.store = text.any fun text => e.threshold.toNat < text.utf8ByteSize
  json : ∀ found, text = some found → s.json e = (s, .ok found)
  jsonBytes : ∀ found, text = some found → s.jsonBytes e = (s, .ok found.toUTF8)
  wire : ∀ found, text = some found →
    s.wire e = (s, .ok (Stored.ofText found e.threshold.toNat).wire)

theorem Carries.renders (carries : Carries start origin s log) (live : e ∈ s.liveEnvelopes)
    (taken : e.snapshot = some start.store.nextSnapshot) : s.Renders e (rendering? log) := by
  have threshold : e.threshold = origin.threshold :=
    congrArg Factory.threshold (carries.settings_eq live taken)
  have stored : e.stored? s.store = (rendering? log).map (Stored.ofText · e.threshold.toNat) := by
    rw [threshold, ← carries.stored]
    simp [Envelope.stored?, taken]
  constructor
  · simp [Envelope.isSerialized, stored]
  · cases done : rendering? log with
    | none => simp [Envelope.isZipped, stored, done]
    | some text => simp [Envelope.isZipped, stored, done]
  all_goals
    intro text done
    have serialized := carries.serialize_done taken done
    rw [← threshold] at serialized
    simp [json, jsonBytes, wire, serialized, Except.bind, Except.map]

/-- A snapshot is rendered at most once and always from the same fields, and all copies have the
same form of it. -/
theorem rendered_once (steps later : List Step) {e : Envelope}
    (live : e ∈ (reached steps).liveEnvelopes) (frozen : e.isFrozen) :
    ∃ freezing : Freezing steps, e.snapshot = some freezing.snapshot ∧
      let s := reached (steps ++ later)
      let log := (freezing.extend later).attempts
      (∃ failures, log = attemptsOf freezing.content failures (rendering? log)) ∧
      (∀ text, rendering? freezing.attempts = some text → rendering? log = some text ∧
        (reached steps).attempts freezing.snapshot later = []) ∧
      (∀ copy ∈ s.liveEnvelopes, copy.snapshot = e.snapshot →
        copy.threshold = e.threshold ∧ s.Renders copy (rendering? log)) ∧
      ∀ name hops target copied, s.linkedAt? name hops = some copied →
        copied.envelope.snapshot = e.snapshot →
        ∃ copy, (s.step (.copyEnvelope name hops target)).1.linkedAt? target 0 = some ⟨copy, []⟩ ∧
          copy.snapshot = e.snapshot := by
  obtain ⟨freezing, taken⟩ := exists_freezing steps live frozen
  have carries := freezing.carries
  have carries' := (freezing.extend later).carries
  refine ⟨freezing, taken, carries'.log, fun text done => ?_, fun copy live' same => ?_, ?_⟩
  · obtain ⟨failures, shape⟩ := carries.log
    obtain ⟨failures', shape'⟩ := carries'.log
    rw [done] at shape
    have grown := freezing.attempts_extend later
    rw [shape', shape] at grown
    have silent := attemptsOf_append grown.symm
    refine ⟨?_, silent⟩
    rw [freezing.attempts_extend later, silent, List.append_nil, done]
  · have core := carries'.family copy live' (same.trans taken)
    have core' := carries.family e live taken
    have alike := (Envelope.core_eq_iff _ _).mp (core.trans core'.symm)
    exact ⟨alike.2.2.2.1, carries'.renders live' (same.trans taken)⟩
  · intro name hops target copied found same
    have here : ((reached (steps ++ later)).envelopes.get? name).bind (·.at? hops) = some copied :=
      found
    refine ⟨copied.envelope.copy (reached (steps ++ later)).nextId, ?_, same⟩
    simp only [Session.step, withEnvelope, here, linkedAt?_zero]
    exact Table.get?_insert_self _ _ _

def copiedRun : List Step := frozenRun ++ [.copyEnvelope "envelope" 0 "early"]

def copiedLater : List Step :=
  [.render "envelope" 0 .text, .render "early" 0 .wire, .copyEnvelope "early" 0 "late"]

theorem copiedRun_rendered :
    let s := reached (copiedRun ++ copiedLater)
    (frozenEnvelope ∈ (reached copiedRun).liveEnvelopes ∧ frozenEnvelope.isFrozen) ∧
      s.liveEnvelopes.map (·.isSerialized s.store) = [true, true, true] ∧
      ∃ freezing : Freezing copiedRun, frozenEnvelope.snapshot = some freezing.snapshot ∧
        let log := (freezing.extend copiedLater).attempts
        (∃ failures, log = attemptsOf freezing.content failures (rendering? log)) ∧
        ∀ copy ∈ s.liveEnvelopes, copy.snapshot = frozenEnvelope.snapshot →
          s.Renders copy (rendering? log) := by
  have live : frozenEnvelope ∈ (reached copiedRun).liveEnvelopes := by decide +kernel
  obtain ⟨freezing, taken, shape, -, copies, -⟩ := rendered_once copiedRun copiedLater live rfl
  exact ⟨⟨live, rfl⟩, by decide +kernel, freezing, taken, shape,
    fun copy member same => (copies copy member same).2⟩

end Session

end Bayeux
