import Bayeux.Proofs.Session.Releasing

set_option autoImplicit false

namespace Bayeux

inductive Holder where
  | handle (name : String)
  | message (name : String)
  | envelope (name : String)
  deriving DecidableEq

namespace Step

-- The object that a step changes where it is.
def target? : Step → Option Holder
  | .editMessage name _ _ => some (.message name)
  | .editEnvelope name _ _ | .freeze name | .setLazy name _ | .setLocal name _ =>
    some (.envelope name)
  | _ => none

def writes (step : Step) : List Holder :=
  (step.handle?.map .handle).toList ++ (step.message?.map .message).toList ++
    (step.envelope?.map .envelope).toList ++ step.target?.toList

variable {step : Step} {name : String} {holder : Holder}

theorem handle_mem_writes (named : step.handle? = some name) : .handle name ∈ step.writes := by
  simp [writes, named]

theorem message_mem_writes (named : step.message? = some name) : .message name ∈ step.writes := by
  simp [writes, named]

theorem envelope_mem_writes (named : step.envelope? = some name) : .envelope name ∈ step.writes := by
  simp [writes, named]

theorem target_mem_writes (named : step.target? = some holder) : holder ∈ step.writes := by
  simp [writes, named]

end Step

namespace Session

structure Keeps (written : List Holder) (s t : Session) : Prop where
  handles : ∀ name, .handle name ∉ written → t.handles.get? name = s.handles.get? name
  messages : ∀ name, .message name ∉ written → t.messages.get? name = s.messages.get? name
  envelopes : ∀ name, .envelope name ∉ written → t.envelopes.get? name = s.envelopes.get? name

variable {s t u : Session} {e : Envelope} {written : List Holder} {name : String}

namespace Keeps

theorem of_eq (handles : t.handles = s.handles) (messages : t.messages = s.messages)
    (envelopes : t.envelopes = s.envelopes) : Keeps written s t :=
  ⟨fun _ _ => by rw [handles], fun _ _ => by rw [messages], fun _ _ => by rw [envelopes]⟩

theorem trans (first : Keeps written s t) (second : Keeps written t u) : Keeps written s u :=
  ⟨fun name apart => (second.handles name apart).trans (first.handles name apart),
    fun name apart => (second.messages name apart).trans (first.messages name apart),
    fun name apart => (second.envelopes name apart).trans (first.envelopes name apart)⟩

theorem of_handle (named : .handle name ∈ written)
    (others : ∀ other, other ≠ name → t.handles.get? other = s.handles.get? other)
    (messages : t.messages = s.messages) (envelopes : t.envelopes = s.envelopes) :
    Keeps written s t :=
  ⟨fun other apart => others other fun same => apart (same ▸ named), fun _ _ => by rw [messages],
    fun _ _ => by rw [envelopes]⟩

theorem of_message (named : .message name ∈ written) (handles : t.handles = s.handles)
    (others : ∀ other, other ≠ name → t.messages.get? other = s.messages.get? other)
    (envelopes : t.envelopes = s.envelopes) : Keeps written s t :=
  ⟨fun _ _ => by rw [handles], fun other apart => others other fun same => apart (same ▸ named),
    fun _ _ => by rw [envelopes]⟩

theorem of_envelope (named : .envelope name ∈ written) (handles : t.handles = s.handles)
    (messages : t.messages = s.messages)
    (others : ∀ other, other ≠ name → t.envelopes.get? other = s.envelopes.get? other) :
    Keeps written s t :=
  ⟨fun _ _ => by rw [handles], fun _ _ => by rw [messages],
    fun other apart => others other fun same => apart (same ▸ named)⟩

theorem keep {into : Option String} (named : ∀ name, into = some name → .handle name ∈ written)
    (ref : Option Ref) : Keeps written s (s.keep into ref) := by
  unfold Session.keep
  split
  next name found =>
    exact of_handle (named name rfl) (fun _ differ => Table.get?_insert_of_ne _ _ _ _ differ) rfl rfl
  next => exact of_eq rfl rfl rfl

theorem give {into : Option String} (kept : Keeps written s t)
    (named : ∀ name, into = some name → .handle name ∈ written) (ref : Option Ref) :
    Keeps written s (t.give into ref).1 :=
  kept.trans (keep named ref)

theorem insertMessage (named : .message name ∈ written) (message : Message)
    (handles : t.handles = s.handles) (messages : t.messages = s.messages.insert name message)
    (envelopes : t.envelopes = s.envelopes) : Keeps written s t :=
  of_message named handles (fun _ differ => messages ▸ Table.get?_insert_of_ne _ _ _ _ differ)
    envelopes

theorem insertEnvelope (named : .envelope name ∈ written) (linked : Linked)
    (handles : t.handles = s.handles) (messages : t.messages = s.messages)
    (envelopes : t.envelopes = s.envelopes.insert name linked) : Keeps written s t :=
  of_envelope named handles messages fun _ differ =>
    envelopes ▸ Table.get?_insert_of_ne _ _ _ _ differ

theorem payload : Keeps written s (s.payload e).1 := by
  obtain ⟨store, events, same⟩ := payload_eq (s := s) (e := e)
  rw [same]
  exact of_eq rfl rfl rfl

end Keeps

theorem argument_eq {argument : Argument} {ref : Ref} (given : s.argument argument = some (t, ref)) :
    ∃ store, t = { s with store } := by
  cases argument with
  | handle name =>
    obtain ⟨found, -, same⟩ := Option.map_eq_some_iff.mp given
    cases same
    exact ⟨s.store, rfl⟩
  | fresh v =>
    cases given
    exact ⟨_, rfl⟩

theorem editExt_eq (s : Session) (fields : Fields) (create : Bool) (edits : List MapEdit) :
    ∃ values, (s.editExt fields create edits).1 =
      { s with store := { s.store with values } } := by
  unfold editExt createMap editMap makeExclusive
  dsimp only
  repeat' split
  all_goals exact ⟨_, rfl⟩

theorem editMessage_keeps (name : String) (message : Message) (edit : Edit) (into : Option String) :
    Keeps (Step.editMessage name edit into).writes s (s.editMessage name message edit into).1 := by
  have named : .message name ∈ (Step.editMessage name edit into).writes := Step.target_mem_writes rfl
  cases edit with
  | put key argument =>
    simp only [editMessage]
    split
    · exact .of_eq rfl rfl rfl
    next t ref given =>
      obtain ⟨store, rfl⟩ := argument_eq given
      have written : Keeps (Step.editMessage name (.put key argument) into).writes s
          ({ s with store }.setMessage name (message.put key ref).1) :=
        .insertMessage named _ rfl rfl rfl
      exact written.give (fun _ => Step.handle_mem_writes) _
  | assign key argument =>
    simp only [editMessage]
    split
    · exact .of_eq rfl rfl rfl
    next t ref given =>
      obtain ⟨store, rfl⟩ := argument_eq given
      exact .insertMessage named _ rfl rfl rfl
  | remove key =>
    have written : Keeps (Step.editMessage name (.remove key) into).writes s
        (s.setMessage name (message.remove key).1) :=
      .insertMessage named _ rfl rfl rfl
    exact written.give (fun _ => Step.handle_mem_writes) _
  | ext create edits =>
    obtain ⟨values, same⟩ := s.editExt_eq message.fields create edits
    simp only [editMessage, same]
    exact .insertMessage named _ rfl rfl rfl

theorem editEnvelope_keeps (name : String) (linked : Linked) (edit : Edit) (into : Option String) :
    Keeps (Step.editEnvelope name edit into).writes s (s.editEnvelope name linked edit into).1 := by
  have named : .envelope name ∈ (Step.editEnvelope name edit into).writes :=
    Step.target_mem_writes rfl
  unfold editEnvelope
  dsimp only
  split
  · exact .of_eq rfl rfl rfl
  cases edit with
  | put key argument =>
    dsimp only
    split
    · exact .of_eq rfl rfl rfl
    next t ref given =>
      obtain ⟨store, rfl⟩ := argument_eq given
      split
      next after old _ =>
        have written : Keeps (Step.editEnvelope name (.put key argument) into).writes s
            ({ s with store }.setEnvelope name linked after) :=
          .insertEnvelope named _ rfl rfl rfl
        exact written.give (fun _ => Step.handle_mem_writes) _
      · exact .of_eq rfl rfl rfl
  | assign key argument =>
    dsimp only
    split
    · exact .of_eq rfl rfl rfl
    next t ref given =>
      obtain ⟨store, rfl⟩ := argument_eq given
      split
      · exact .insertEnvelope named _ rfl rfl rfl
      · exact .of_eq rfl rfl rfl
  | remove key =>
    dsimp only
    split
    next after old _ =>
      have written : Keeps (Step.editEnvelope name (.remove key) into).writes s
          (s.setEnvelope name linked after) :=
        .insertEnvelope named _ rfl rfl rfl
      exact written.give (fun _ => Step.handle_mem_writes) _
    · exact .of_eq rfl rfl rfl
  | ext create edits =>
    obtain ⟨values, same⟩ := s.editExt_eq linked.envelope.fields create edits
    dsimp only
    rw [same]
    exact .insertEnvelope named _ rfl rfl rfl

theorem step_keeps (s : Session) (step : Step) : Keeps step.writes s (s.step step).1 := by
  have same {written : List Holder} : Keeps written s s := .of_eq rfl rfl rfl
  cases step with
  | addCodec name behavior => exact .of_eq rfl rfl rfl
  | countCalls codec => exact withCodec_cases same fun _ _ => same
  | newValue name v =>
    exact .of_handle (Step.handle_mem_writes rfl)
      (fun _ differ => Table.get?_insert_of_ne _ _ _ _ differ) rfl rfl
  | dropHandle name =>
    exact .of_handle (Step.handle_mem_writes rfl)
      (fun _ differ => Table.get?_erase_of_ne _ _ _ differ) rfl rfl
  | showHandle name | askProbe name =>
    simp only [Session.step]
    split <;> exact same
  | newProbe name handle =>
    simp only [Session.step]
    split
    · exact .of_eq rfl rfl rfl
    · exact same
  | newMessage name fields =>
    exact .of_message (Step.message_mem_writes rfl) rfl
      (fun _ differ => Table.get?_insert_of_ne _ _ _ _ differ) rfl
  | parseMessage name text =>
    simp only [Session.step]
    split
    · exact same
    · exact .of_message (Step.message_mem_writes rfl) rfl
        (fun _ differ => Table.get?_insert_of_ne _ _ _ _ differ) rfl
  | listFields message | showMessage message | serializeMessage message =>
    exact withMessage_cases same fun _ _ => same
  | takeFields name =>
    exact withMessage_cases same fun _ _ => .of_message (Step.message_mem_writes rfl) rfl
      (fun _ differ => Table.get?_erase_of_ne _ _ _ differ) rfl
  | editMessage name edit into =>
    exact withMessage_cases same fun message _ => editMessage_keeps name message edit into
  | getField message key into =>
    exact withMessage_cases same fun _ _ => same.give (fun _ => Step.handle_mem_writes) _
  | generateMessage name codec =>
    refine withMessage_cases same fun _ _ => withCodec_cases same fun _ _ => ?_
    dsimp only
    split <;> exact .of_eq rfl rfl rfl
  | cloneMessage name target =>
    exact withMessage_cases same fun message _ =>
      .insertMessage (Step.message_mem_writes rfl) message rfl rfl rfl
  | compareMessages name other =>
    exact withMessage_cases same fun _ _ => withMessage_cases same fun _ _ => same
  | dropMessage name =>
    exact .of_message (Step.message_mem_writes rfl) rfl
      (fun _ differ => Table.get?_erase_of_ne _ _ _ differ) rfl
  | newFactory name codec => exact withCodec_cases same fun _ _ => .of_eq rfl rfl rfl
  | parseFactory name codec text =>
    refine withCodec_cases same fun _ _ => ?_
    split
    · exact .of_eq rfl rfl rfl
    · exact same
  | adjustFactory name target threshold ignoreNull =>
    exact withFactory_cases same fun _ _ => .of_eq rfl rfl rfl
  | parseWith factory text =>
    refine withFactory_cases same fun _ _ => ?_
    dsimp only
    split <;> exact .of_eq rfl rfl rfl
  | createEnvelope factory target =>
    exact withFactory_cases same fun _ _ =>
      .insertEnvelope (Step.envelope_mem_writes rfl) _ rfl rfl rfl
  | wrapMessage factory message target | freezeMessage factory message target =>
    exact withFactory_cases same fun _ _ => withMessage_cases same fun _ _ =>
      .insertEnvelope (Step.envelope_mem_writes rfl) _ rfl rfl rfl
  | newEnvelope name codec threshold ignoreNull =>
    exact withCodec_cases same fun _ _ =>
      .insertEnvelope (Step.envelope_mem_writes rfl) _ rfl rfl rfl
  | envelopeOf name message codec threshold ignoreNull =>
    exact withMessage_cases same fun _ _ => withCodec_cases same fun _ _ =>
      .insertEnvelope (Step.envelope_mem_writes rfl) _ rfl rfl rfl
  | copyEnvelope name hops target =>
    exact withEnvelope_cases same fun _ _ =>
      .insertEnvelope (Step.envelope_mem_writes rfl) _ rfl rfl rfl
  | dropEnvelope name =>
    exact .of_envelope (Step.envelope_mem_writes rfl) rfl rfl
      fun _ differ => Table.get?_erase_of_ne _ _ _ differ
  | editEnvelope name edit into =>
    exact withWritable_cases same fun linked _ _ => editEnvelope_keeps name linked edit into
  | readField name hops key into =>
    refine withEnvelope_cases same fun linked _ => ?_
    have read : Keeps (Step.readField name hops key into).writes s
        (s.getField linked.envelope key).1 := by
      unfold getField
      split
      · exact .payload
      · exact same
    exact read.give (fun _ => Step.handle_mem_writes) _
  | readMap name hops field into =>
    refine withEnvelope_cases same fun linked _ => ?_
    have read : Keeps (Step.readMap name hops field into).writes s
        (s.readMapField linked.envelope field).1 := by
      cases field with
      | data => exact .payload
      | ext | advice => exact same
    exact read.give (fun _ => Step.handle_mem_writes) _
  | freeze name =>
    refine withWritable_cases same fun linked _ _ => ?_
    have named : .envelope name ∈ (Step.freeze name).writes := Step.target_mem_writes rfl
    unfold Session.freeze
    dsimp only
    split <;> exact .insertEnvelope named _ rfl rfl rfl
  | setLazy name on | setLocal name on =>
    exact withWritable_cases same fun _ _ _ =>
      .insertEnvelope (Step.target_mem_writes rfl) _ rfl rfl rfl
  | associate name other =>
    refine withWritable_cases same fun linked _ _ => ?_
    have named : .envelope name ∈ (Step.associate name other).writes :=
      Step.envelope_mem_writes rfl
    cases other with
    | none => exact .insertEnvelope named _ rfl rfl rfl
    | some other =>
      refine withEnvelope_cases same fun _ _ => ?_
      dsimp only
      split
      · exact same
      · exact .insertEnvelope named _ rfl rfl rfl
  | showEnvelope name hops => exact withEnvelope_cases same fun _ _ => same
  | outlineEnvelope name hops indented => exact withEnvelope_cases same fun _ _ => same
  | render name hops form =>
    refine withEnvelope_cases same fun linked _ => ?_
    obtain ⟨store, only⟩ := serialize_eq (s := s) (e := linked.envelope)
    rw [render_fst, only]
    exact .of_eq rfl rfl rfl
  | renderAtOnce name hops workers =>
    refine withEnvelope_cases same fun linked _ => ?_
    obtain ⟨store, only⟩ := renderTimes_eq (s := s) (e := linked.envelope) workers
    dsimp only
    rw [only]
    exact .of_eq rfl rfl rfl

end Session

end Bayeux
