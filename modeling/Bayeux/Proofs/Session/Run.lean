import Bayeux.Proofs.Session.Steps

set_option autoImplicit false

namespace Bayeux.Session

variable {s : Session}

theorem step_sound (wf : s.WellFormed) (step : Step) : Sound (s.effect step) s (s.step step).1 := by
  have same : Sound (s.effect step) s s := .refl _ wf
  cases step with
  | addCodec name behavior =>
    have begun := quiet_sound wf (s.store.addCodec_advance (.fresh behavior))
    have has : (s.store.addCodec (.fresh behavior)).1.HasCodec
        (s.store.addCodec (.fresh behavior)).2 := by
      simp [Store.addCodec, Store.HasCodec]
    exact (begun.trans (insertCodec_sound begun.wf name has)).of_quiet
  | countCalls codec => exact withCodec_cases same fun _ _ => same
  | newValue name v =>
    have begun := alloc_sound wf v
    exact (begun.trans (insertHandle_sound begun.wf name (s.store.has_value_alloc v))).of_quiet
  | dropHandle name =>
    exact (handles_sound wf fun ref member => wf.handles ref (Table.mem_values_erase member)).of_quiet
  | showHandle name =>
    simp only [step]
    split <;> exact same
  | newProbe name handle =>
    simp only [step]
    split
    next ref found =>
      exact (insertProbe_sound wf name (wf.handles ref (Table.mem_values_of_get? found))).of_quiet
    next => exact same
  | askProbe name =>
    simp only [step]
    split <;> exact same
  | newMessage name fields => exact (newMessage_sound wf name fields).of_quiet
  | parseMessage name text =>
    simp only [step]
    split
    · exact same
    next members _ => exact (newMessage_sound wf name members).of_quiet
  | listFields message => exact withMessage_cases same fun _ _ => same
  | takeFields name =>
    exact withMessage_cases same fun _ _ => (eraseMessage_sound wf name).of_quiet
  | editMessage name edit into =>
    exact withMessage_cases same fun message found => editMessage_sound wf found edit into
  | getField message key into =>
    refine withMessage_cases same fun message found => give_sound same into fun ref here => ?_
    exact (wf.messages message (Table.mem_values_of_get? found)).get? here
  | showMessage name => exact withMessage_cases same fun _ _ => same
  | generateMessage name codec =>
    refine withMessage_cases same fun message _ => withCodec_cases same fun id found => ?_
    have called := s.store.generate_advance (wf.codecs id (Table.mem_values_of_get? found))
      (s.store.valuesOf message.fields)
    have begun : Sound (s.effect (.generateMessage name codec)) s
        { s with store := (s.store.generate id (s.store.valuesOf message.fields)).1 } :=
      (store_sound wf called fun _ => False.elim).weaken
        ⟨fun _ => False.elim, fun _ => False.elim, fun _ => rfl, False.elim⟩
    dsimp only
    split <;> exact begun
  | serializeMessage name => exact withMessage_cases same fun _ _ => same
  | cloneMessage name target =>
    exact withMessage_cases same fun message found =>
      (setMessage_sound wf target (wf.messages message (Table.mem_values_of_get? found))).of_quiet
  | compareMessages name other =>
    exact withMessage_cases same fun _ _ => withMessage_cases same fun _ _ => same
  | dropMessage name => exact (eraseMessage_sound wf name).of_quiet
  | newFactory name codec =>
    exact withCodec_cases same fun id found =>
      (addFactory_sound wf name (wf.codecs id (Table.mem_values_of_get? found))).of_quiet
  | parseFactory name codec text =>
    refine withCodec_cases same fun id found => ?_
    split
    · exact (addFactory_sound wf name (wf.codecs id (Table.mem_values_of_get? found))).of_quiet
    · exact same
  | adjustFactory name target threshold ignoreNull =>
    refine withFactory_cases same fun factory found => (addFactory_sound wf target ?_).of_quiet
    exact wf.factories factory (Table.mem_values_of_get? found)
  | parseWith factory text =>
    refine withFactory_cases same fun factory found => ?_
    have begun := quiet_sound wf
      (s.store.parse_advance (wf.factories factory (Table.mem_values_of_get? found)) text)
    dsimp only
    split <;> exact begun.of_quiet
  | createEnvelope factory target =>
    refine withFactory_cases same fun factory found => ?_
    have has := wf.factories factory (Table.mem_values_of_get? found)
    exact (takeId_addOpen_sound wf target (Envelope.new_wellFormed _ _ _ has) rfl rfl).of_quiet
  | wrapMessage factory message target =>
    refine withFactory_cases same fun factory found => withMessage_cases same fun message found' => ?_
    have ok := wrap_wellFormed wf (wf.factories factory (Table.mem_values_of_get? found))
      (Table.mem_values_of_get? found') s.nextId
    exact (takeId_addOpen_sound wf target ok rfl rfl).of_quiet
  | freezeMessage factory message target =>
    exact withFactory_cases same fun _ found => withMessage_cases same fun _ found' =>
      freezeMessage_sound wf target found found'
  | newEnvelope name codec threshold ignoreNull =>
    refine withCodec_cases same fun id found => ?_
    have ok := Envelope.new_wellFormed s.nextId threshold ignoreNull
      (wf.codecs id (Table.mem_values_of_get? found))
    exact (takeId_addOpen_sound wf name ok rfl rfl).of_quiet
  | envelopeOf name message codec threshold ignoreNull =>
    refine withMessage_cases same fun message found => withCodec_cases same fun id found' => ?_
    have ok := Envelope.ofMessage_wellFormed s.nextId
      (wf.messages message (Table.mem_values_of_get? found)) threshold ignoreNull
      (wf.codecs id (Table.mem_values_of_get? found'))
    exact (takeId_addOpen_sound wf name ok rfl rfl).of_quiet
  | copyEnvelope name hops target =>
    refine withEnvelope_cases same fun linked found => ?_
    have live := live_linked found
    have ok := (wf.envelopes _ live).of_core_eq (linked.envelope.core_copy s.nextId).symm
    exact (takeId_addEnvelope_sound wf target ok rfl fun id taken =>
      ⟨linked.envelope, live, taken, rfl⟩).of_quiet
  | dropEnvelope name => exact (eraseEnvelope_sound wf name).of_quiet
  | editEnvelope name edit into =>
    exact withWritable_cases same fun _ found unshared =>
      editEnvelope_sound wf found unshared edit into
  | readField name hops key into =>
    refine withEnvelope_cases same fun linked found => ?_
    have live := live_linked found
    have read := getField_sound wf live key
    exact (give_sound read into fun ref => getField_listed wf live key).of_quiet
  | readMap name hops field into =>
    refine withEnvelope_cases same fun linked found => ?_
    have live := live_linked found
    have read := readMapField_sound wf live field
    exact (giveMap_sound read into fun ref => readMapField_listed wf live field).of_quiet
  | freeze name =>
    exact withWritable_cases same fun _ found unshared => freeze_sound wf found unshared
  | setLazy name on =>
    refine withWritable_cases same fun linked found unshared => ?_
    refine (setFlag_sound wf found unshared ?_ ?_).of_quiet <;> rfl
  | setLocal name on =>
    refine withWritable_cases same fun linked found unshared => ?_
    refine (setFlag_sound wf found unshared ?_ ?_).of_quiet <;> rfl
  | associate name other =>
    refine withWritable_cases same fun linked found _ => ?_
    cases other with
    | none => exact (associate_sound wf found (by simp)).of_quiet
    | some other =>
      refine withEnvelope_cases same fun target found' => ?_
      dsimp only
      split
      · exact same
      · exact (associate_sound wf found fun e => live_of_linkedAt? found').of_quiet
  | showEnvelope name hops => exact withEnvelope_cases same fun _ _ => same
  | outlineEnvelope name hops indented => exact withEnvelope_cases same fun _ _ => same
  | render name hops form =>
    refine withEnvelope_cases same fun linked found => ?_
    have live := live_linked found
    rw [render_fst]
    exact (serialize_sound wf live).weaken (render_within (by simp [rendered?, found]) rfl)
  | renderAtOnce name hops workers =>
    refine withEnvelope_cases same fun linked found => ?_
    have live := live_linked found
    exact (renderTimes_sound wf live workers).weaken (render_within (by simp [rendered?, found]) rfl)

def after (s : Session) (steps : List Step) : Session := (s.run steps).1

@[simp] theorem after_nil : s.after [] = s := rfl

@[simp] theorem after_cons (first : Step) (rest : List Step) :
    s.after (first :: rest) = (s.step first).1.after rest := rfl

theorem after_append (before later : List Step) :
    s.after (before ++ later) = (s.after before).after later := by
  induction before generalizing s with
  | nil => rfl
  | cons first rest ih => exact ih

def reached (steps : List Step) : Session := empty.after steps

theorem reached_append (before later : List Step) :
    reached (before ++ later) = (reached before).after later :=
  after_append before later

theorem after_sound (wf : s.WellFormed) (steps : List Step) : Sound .any s (s.after steps) := by
  induction steps generalizing s with
  | nil => exact .refl _ wf
  | cons first rest ih =>
    have step := step_sound wf first
    exact (step.weaken (.to_any _)).trans (ih step.wf)

theorem reached_wellFormed (steps : List Step) : (reached steps).WellFormed :=
  (after_sound empty_wellFormed steps).wf

end Bayeux.Session
