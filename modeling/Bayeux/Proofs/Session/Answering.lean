import Bayeux.Proofs.Session.Frozen

set_option autoImplicit false

namespace Bayeux

-- What a codec makes of fields, and of a text, whatever it was asked before.
abbrev Generate := JsonMap → Except CodecError String

abbrev Parse := String → Except CodecError JsonMap

def Behavior.Generates (behavior : Behavior) (gen : Generate) : Prop :=
  ∀ calls fields, behavior.generate calls fields = gen fields

def Behavior.Parses (behavior : Behavior) (par : Parse) : Prop :=
  ∀ calls text, behavior.parse calls text = par text

def Attempt.Follows (gen : Generate) (attempt : Attempt) : Prop :=
  attempt.answer = gen attempt.fields

namespace Store

variable {a b : Store} {codec : CodecId}

theorem mem_attemptsSince {attempt : Attempt} : attempt ∈ a.attemptsSince b codec ↔
    .generate attempt.fields attempt.answer ∈ a.callsSince b codec := by
  simp only [attemptsSince, List.mem_filterMap]
  constructor
  · rintro ⟨call, member, same⟩
    cases call with
    | generate fields answer =>
      rw [← Option.some.inj same]
      exact member
    | parse text answer => simp [CodecCall.attempt?] at same
  · exact fun member => ⟨_, member, rfl⟩

theorem generate_follows {gen : Generate} (generates : (a.codec codec).behavior.Generates gen)
    (fields : JsonMap) : (a.generate codec fields).2 = gen fields :=
  generates _ fields

theorem parse_follows {par : Parse} (parses : (a.codec codec).behavior.Parses par) (text : String) :
    (a.parse codec text).2 = par text :=
  parses _ text

end Store

namespace Session

variable {s : Session} {e : Envelope} {id : SnapshotId} {gen : Generate}

theorem serialize_follows (wf : s.WellFormed) (live : e ∈ s.liveEnvelopes)
    (generates : (s.store.codec e.codec).behavior.Generates gen) :
    ∀ attempt ∈ s.store.attemptsSince (s.serialize e).1.store e.codec, attempt.Follows gen := by
  intro attempt member
  cases taken : e.snapshot with
  | none =>
    rw [serialize_unfrozen taken, Store.attemptsSince_self] at member
    exact absurd member List.not_mem_nil
  | some id =>
    cases bare : (s.store.snapshot id).stored with
    | some stored =>
      rw [serialize_stored taken bare, Store.attemptsSince_self] at member
      exact absurd member List.not_mem_nil
    | none =>
      have called := (serialize_pending (wf.envelopes e live).codec taken bare).1
      rw [Store.generate_follows generates] at called
      rw [Store.attemptsSince, called] at member
      rw [List.mem_singleton.mp member]
      rfl

theorem renderTimes_follows (wf : s.WellFormed) (live : e ∈ s.liveEnvelopes)
    (generates : (s.store.codec e.codec).behavior.Generates gen) (workers : Nat) :
    ∀ attempt ∈ s.store.attemptsSince (s.renderTimes e workers).1.store e.codec,
      attempt.Follows gen := by
  induction workers generalizing s with
  | zero => simp [renderTimes, Store.attemptsSince_self]
  | succ workers ih =>
    have has := (wf.envelopes e live).codec
    have first := serialize_sound wf live
    have live' : e ∈ (s.serialize e).1.liveEnvelopes := by simpa using live
    have rest := renderTimes_sound first.wf live' workers
    have both := Store.attemptsSince_trans first.advance.store rest.advance.store has
    have later := ih first.wf live' ((first.advance.store.codecs e.codec has).1 ▸ generates)
    intro attempt member
    rcases List.mem_append.mp (both ▸ member) with early | late
    · exact serialize_follows wf live generates attempt early
    · exact later attempt late

def UsesGenerate (s : Session) (id : SnapshotId) (gen : Generate) : Prop :=
  ∀ e ∈ s.liveEnvelopes, e.snapshot = some id → (s.store.codec e.codec).behavior.Generates gen

theorem UsesGenerate.advance {effect : Effect} {t : Session} (wf : s.WellFormed)
    (uses : s.UsesGenerate id gen) (has : s.store.HasSnapshot id) (step : Advance effect s t) :
    t.UsesGenerate id gen := by
  intro e live taken
  obtain ⟨old, live', taken', core⟩ := step.by_snapshot e live id taken has
  have codec : e.codec = old.codec := congrArg Factory.codec (Envelope.settings_eq_of_core_eq core)
  rw [codec, (step.store.codecs old.codec (wf.envelopes old live').codec).1]
  exact uses old live' taken'

theorem attemptsIn_follows (wf : s.WellFormed) (uses : s.UsesGenerate id gen) (step : Step) :
    ∀ attempt ∈ s.attemptsIn id step, attempt.Follows gen := by
  by_cases asked : ∃ e, s.rendered? step = some e ∧ e.snapshot = some id
  · obtain ⟨e, asked, taken⟩ := asked
    have subject := subject?_of_rendered? asked
    have live := live_of_subject? subject
    obtain ⟨workers, same⟩ := step_of_rendered? asked
    simp only [attemptsIn, subject, taken, if_true, same]
    exact renderTimes_follows wf live (uses e live taken) workers
  · rw [attemptsIn_eq_nil wf fun e here taken => asked ⟨e, here, taken⟩]
    exact fun _ member => absurd member List.not_mem_nil

theorem attempts_follow (wf : s.WellFormed) (has : s.store.HasSnapshot id)
    (uses : s.UsesGenerate id gen) (steps : List Step) :
    ∀ attempt ∈ s.attempts id steps, attempt.Follows gen := by
  induction steps generalizing s with
  | nil => exact fun _ member => absurd member List.not_mem_nil
  | cons first rest ih =>
    have sound := step_sound wf first
    have later := ih sound.wf (sound.advance.store.has_snapshot has)
      (uses.advance wf has sound.advance)
    intro attempt member
    rcases List.mem_append.mp member with here | there
    · exact attemptsIn_follows wf uses first attempt here
    · exact later attempt there

end Session

end Bayeux
