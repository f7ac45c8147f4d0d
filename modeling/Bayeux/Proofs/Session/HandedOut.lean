import Bayeux.Proofs.Session.Sharing

set_option autoImplicit false

namespace Bayeux

-- The name that what a step hands out gets.
def Step.into? : Step → Option String
  | .newValue _ _ | .dropHandle _ => none
  | step => step.handle?

namespace Answer

-- The value that an answer hands out.
def handed? : Answer → Option Json
  | .payload found | .map found => found.map (·.value)
  | _ => none

def isMap : Answer → Bool
  | .map _ => true
  | _ => false

end Answer

namespace Session

variable {s : Session} {step : Step} {ref : Ref} {name : String}

-- What a result hands out is under the name, and is a map if it is handed out as one.
structure Hands (s : Session) (result : Session × Answer) (name : String) : Prop where
  handed : ∀ v, result.2.handed? = some v → ∃ ref, result.1.handles.get? name = some ref ∧
    result.1.value ref = v ∧ (result.2.isMap → ∃ members, v = .object members)
  nothing : result.2.handed? = none → result.1.handles = s.handles

theorem hands_nothing {result : Session × Answer} (nothing : result.2.handed? = none)
    (same : result.1.handles = s.handles) : s.Hands result name :=
  ⟨fun v handed => absurd (nothing.symm.trans handed) (Option.some_ne_none v).symm, fun _ => same⟩

theorem give_hands {t : Session} (same : t.handles = s.handles) (name : String) (ref : Option Ref) :
    s.Hands (t.give (some name) ref) name := by
  cases ref with
  | none => exact hands_nothing rfl same
  | some ref =>
    refine ⟨fun v handed => ?_, fun nothing => nomatch nothing⟩
    have value : t.value ref = v := by simpa [give, describe, Answer.handed?] using handed
    exact ⟨ref, Table.get?_insert_self _ _ _, value, by simp [give, Answer.isMap]⟩

theorem giveMap_hands {t : Session} (same : t.handles = s.handles) (name : String)
    (ref : Option Ref) : s.Hands (t.giveMap (some name) ref) name := by
  unfold giveMap
  cases map : ref.filter fun ref => (t.value ref).isObject with
  | none => exact hands_nothing rfl same
  | some found =>
    obtain ⟨-, object⟩ := Option.filter_eq_some_iff.mp map
    refine ⟨fun v handed => ?_, fun nothing => nomatch nothing⟩
    have value : t.value found = v := by simpa [map, describe, Answer.handed?] using handed
    refine ⟨found, Table.get?_insert_self _ _ _, value, fun _ => ?_⟩
    rw [value] at object
    cases v with
    | object members => exact ⟨members, rfl⟩
    | null | bool | number | string | array => exact nomatch object

theorem editMessage_hands {message : Message} {edit : Edit} {target : String}
    (named : (Step.editMessage target edit (some name)).handle? = some name) :
    s.Hands (s.editMessage target message edit (some name)) name := by
  cases edit with
  | put key argument =>
    simp only [editMessage]
    split
    · exact hands_nothing rfl rfl
    next t ref given =>
      obtain ⟨store, rfl⟩ := argument_eq given
      apply give_hands
      rfl
  | remove key =>
    apply give_hands
    rfl
  | assign | ext => simp [Step.handle?] at named

theorem editEnvelope_hands {linked : Linked} {edit : Edit} {target : String}
    (named : (Step.editEnvelope target edit (some name)).handle? = some name) :
    s.Hands (s.editEnvelope target linked edit (some name)) name := by
  unfold editEnvelope
  dsimp only
  split
  · exact hands_nothing rfl rfl
  cases edit with
  | put key argument =>
    dsimp only
    split
    · exact hands_nothing rfl rfl
    next t ref given =>
      obtain ⟨store, rfl⟩ := argument_eq given
      split
      · apply give_hands
        rfl
      · exact hands_nothing rfl rfl
  | remove key =>
    dsimp only
    split
    · apply give_hands
      rfl
    · exact hands_nothing rfl rfl
  | assign | ext => simp [Step.handle?] at named

theorem handles_payload (e : Envelope) : (s.payload e).1.handles = s.handles := by
  obtain ⟨store, events, same⟩ := payload_eq (s := s) (e := e)
  rw [same]

theorem handles_getField (e : Envelope) (key : String) :
    (s.getField e key).1.handles = s.handles := by
  unfold getField
  split
  · exact handles_payload e
  · rfl

theorem handles_readMapField (e : Envelope) (field : MapField) :
    (s.readMapField e field).1.handles = s.handles := by
  cases field with
  | data => exact handles_payload e
  | ext | advice => rfl

theorem step_hands (s : Session) (named : step.into? = some name) : s.Hands (s.step step) name := by
  cases step with
  | editMessage target edit into =>
    obtain rfl : into = some name := by cases edit <;> simp_all [Step.into?, Step.handle?]
    simp only [Session.step, withMessage]
    split
    · exact editMessage_hands named
    · exact hands_nothing rfl rfl
  | getField message key into =>
    obtain rfl : into = some name := named
    simp only [Session.step, withMessage]
    split
    · exact give_hands rfl _ _
    · exact hands_nothing rfl rfl
  | editEnvelope target edit into =>
    obtain rfl : into = some name := by cases edit <;> simp_all [Step.into?, Step.handle?]
    simp only [Session.step, withWritable, withEnvelope]
    split
    · split
      · exact hands_nothing rfl rfl
      · exact editEnvelope_hands named
    · exact hands_nothing rfl rfl
  | readField target hops key into =>
    obtain rfl : into = some name := named
    simp only [Session.step, withEnvelope]
    split
    · exact give_hands (handles_getField _ key) _ _
    · exact hands_nothing rfl rfl
  | readMap target hops field into =>
    obtain rfl : into = some name := named
    simp only [Session.step, withEnvelope]
    split
    · exact giveMap_hands (handles_readMapField _ field) _ _
    · exact hands_nothing rfl rfl
  | _ => simp [Step.into?, Step.handle?] at named

def taking (message : String) (under : String → String) (keys : List String) : List Step :=
  keys.map (fun key => .getField message key (some (under key))) ++ [.takeFields message]

theorem after_getFields {target : String} {message : Message}
    (found : s.messages.get? target = some message) {under : String → String}
    (injective : ∀ key other, under key = under other → key = other) (keys done : List String)
    (held : ∀ key ∈ done, ∀ ref, message.fields.get? key = some ref →
      s.handles.get? (under key) = some ref) :
    let t := s.after (keys.map fun key => .getField target key (some (under key)))
    t.store = s.store ∧ t.messages = s.messages ∧ ∀ key ∈ done ++ keys, ∀ ref,
      message.fields.get? key = some ref → t.handles.get? (under key) = some ref := by
  induction keys generalizing s done with
  | nil => exact ⟨rfl, rfl, by simpa using held⟩
  | cons first rest ih =>
    have step : (s.step (.getField target first (some (under first)))).1 =
        s.keep (some (under first)) (message.fields.get? first) := by
      simp [Session.step, withMessage, found, give, Message.get?]
    have next (key : String) (member : key ∈ done ++ [first]) (ref : Ref)
        (here : message.fields.get? key = some ref) :
        (s.keep (some (under first)) (message.fields.get? first)).handles.get? (under key) =
          some ref := by
      by_cases same : key = first
      · rw [← same, here]
        exact Table.get?_insert_self _ _ _
      · have before := held key (by simpa [same] using member) ref here
        have differ : under key ≠ under first := fun equal => same (injective _ _ equal)
        cases message.fields.get? first with
        | none => exact before
        | some other => exact (Table.get?_insert_of_ne _ _ _ _ differ).trans before
    obtain ⟨store, messages, rest⟩ := ih (s := s.keep (some (under first)) _)
      (by rw [messages_keep, found]) (done ++ [first]) next
    rw [List.map_cons, after_cons, step]
    refine ⟨store.trans (by simp), messages.trans (by simp), fun key member => rest key ?_⟩
    simpa using member

-- A handle has the value before each of the steps and after the last.
def HeldThrough (s : Session) (ref : Ref) (later : List Step) : Prop :=
  ∀ before, before <+: later → ref ∈ (s.after before).handles.values

theorem HeldThrough.value (wf : s.WellFormed) {later : List Step} (held : s.HeldThrough ref later) :
    (s.after later).value ref = s.value ref := by
  induction later generalizing s with
  | nil => rfl
  | cons first rest ih =>
    have here := held [] List.nil_prefix
    have later : (s.step first).1.HeldThrough ref rest := fun before within =>
      held (first :: before) (List.cons_prefix_cons.mpr ⟨rfl, within⟩)
    exact (ih (step_sound wf first).wf later).trans (value_of_handle first wf here)

-- Two messages and a handle share a map, and one of the messages edits it.
example :
    let s := reached
      [.newValue "map" (.object []), .newMessage "first" [],
        .editMessage "first" (.put "ext" (.handle "map")) none, .cloneMessage "first" "second",
        .editMessage "second" (.ext false [.set "ack" (.bool true)]) none]
    s.shown? (.handle "map") = some (.object []) ∧
      s.shown? (.message "first") = some (.object [("ext", .object [])]) ∧
      s.shown? (.message "second") = some (.object [("ext", .object [("ack", .bool true)])]) :=
  ⟨rfl, rfl, rfl⟩

end Session

end Bayeux
