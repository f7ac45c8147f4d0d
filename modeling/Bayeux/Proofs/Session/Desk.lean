import Bayeux.Proofs.Session.Answering
import Bayeux.Proofs.Session.FromMessage
import Bayeux.Proofs.Session.HandedOut
import Bayeux.Proofs.Session.Immutable

set_option autoImplicit false

namespace Bayeux

/-- What is done with an envelope that can be written to and with its copies, under names that are
not yet those of a session. -/
inductive Act where
  | edit (name : String) (edit : Edit) (into : Option String)
  | readField (name key : String) (into : Option String)
  | readMap (name : String) (field : MapField) (into : Option String)
  | look (name : String)
  | freeze (name : String)
  | setLazy (name : String) (on : Bool)
  | setLocal (name : String) (on : Bool)
  | render (name : String) (form : Form)
  | copy (name target : String)
  | drop (name : String)

-- The names in a session. An envelope may be some associations further, where it is only read.
structure Place where
  envelope : String → String
  handle : String → String
  hops : String → Nat := fun _ => 0

def Argument.at (place : Place) : Argument → Argument
  | .handle name => .handle (place.handle name)
  | .fresh v => .fresh v

def Edit.at (place : Place) : Edit → Edit
  | .put key argument => .put key (argument.at place)
  | .assign key argument => .assign key (argument.at place)
  | .remove key => .remove key
  | .ext create edits => .ext create edits

namespace Act

def step (place : Place) : Act → Step
  | .edit name made into =>
    .editEnvelope (place.envelope name) (made.at place) (into.map place.handle)
  | .readField name key into =>
    .readField (place.envelope name) (place.hops name) key (into.map place.handle)
  | .readMap name field into =>
    .readMap (place.envelope name) (place.hops name) field (into.map place.handle)
  | .look name => .showEnvelope (place.envelope name) (place.hops name)
  | .freeze name => .freeze (place.envelope name)
  | .setLazy name on => .setLazy (place.envelope name) on
  | .setLocal name on => .setLocal (place.envelope name) on
  | .render name form => .render (place.envelope name) (place.hops name) form
  | .copy name target =>
    .copyEnvelope (place.envelope name) (place.hops name) (place.envelope target)
  | .drop name => .dropEnvelope (place.envelope name)

def into? : Act → Option String
  | .edit _ (.put _ _) into | .edit _ (.remove _) into | .readField _ _ into
  | .readMap _ _ into => into
  | _ => none

-- The name whose envelope an act changes, adds or drops.
def written? : Act → Option String
  | .edit name _ _ | .freeze name | .setLazy name _ | .setLocal name _ | .drop name => some name
  | .copy _ target => some target
  | _ => none

end Act

-- What is seen of an answer: values, texts and errors, but not which handles have a value.
inductive Sight where
  | outcome (outcome : Outcome)
  | refused
  | flag (b : Bool)
  | text (text : String)
  | bytes (bytes : ByteArray)
  | wire (bytes : ByteArray)
  | error (error : EnvelopeError)
  | state (channel id clientId : Option String) (isFrozen : Bool)
  | other

def Answer.sight : Answer → Sight
  | .done => .outcome .done
  | .refused => .refused
  | .flag b => .flag b
  | .payload found | .map found => .outcome (.previous (found.map (·.value)))
  | .edited members => .outcome (.edited members)
  | .text s => .text s
  | .bytes sent => .bytes sent
  | .wire sent => .wire sent
  | .envelopeError error => .error error
  | .envelope state => .state state.channel state.id state.clientId state.isFrozen
  | _ => .other

-- The value that is handed out.
def Sight.handed? : Sight → Option Json
  | .outcome (.previous v) => v
  | _ => none

structure Draft where
  members : JsonMap
  frozen : Bool

def Draft.shown (draft : Draft) (key : String) : Option Json :=
  shownField key (draft.members.get? key)

def MapField.key : MapField → String
  | .data => FieldName.data
  | .ext => FieldName.ext
  | .advice => FieldName.advice

/-- An envelope and its copies by their values, and the values that are held. -/
structure Desk where
  drafts : String → Option Draft
  hands : String → Option Json

-- The settings of an envelope, and what its codec makes of fields and of texts.
structure Workshop where
  settings : Factory
  gen : Generate
  par : Parse

namespace Workshop

variable (shop : Workshop)

-- How fields with a payload are rendered.
def rendered (form : Form) (members : JsonMap) : Sight :=
  match shop.gen (normalized shop.settings.ignoreNull members) with
  | .error error => .error (.codec error)
  | .ok text =>
    match form with
    | .text => .text text
    | .bytes => .bytes text.toUTF8
    | .wire => .wire (Stored.ofText text shop.settings.threshold.toNat).wire

end Workshop

namespace Desk

def given? (desk : Desk) : Argument → Option Json
  | .handle name => desk.hands name
  | .fresh v => some v

def change? (desk : Desk) : Edit → Option Change
  | .put key argument => (desk.given? argument).map (.put key)
  | .assign key argument => (desk.given? argument).map (.assign key)
  | .remove key => some (.remove key)
  | .ext create edits => some (.ext create edits)

def write (desk : Desk) (name : String) (draft : Option Draft) : Desk :=
  { desk with drafts := fun other => if other = name then draft else desk.drafts other }

def keep (desk : Desk) (into : Option String) (v : Option Json) : Desk :=
  match into, v with
  | some name, some v =>
    { desk with hands := fun other => if other = name then some v else desk.hands other }
  | _, _ => desk

def withDraft (desk : Desk) (name : String) (run : Draft → Desk × Sight) : Desk × Sight :=
  match desk.drafts name with
  | some draft => run draft
  | none => (desk, .refused)

def act (shop : Workshop) (desk : Desk) : Act → Desk × Sight
  | .edit name edit _ =>
    desk.withDraft name fun draft =>
      if draft.frozen then (desk, .error .frozen)
      else
        match desk.change? edit with
        | none => (desk, .refused)
        | some change =>
          (desk.write name (some { draft with members := change.apply draft.members }),
            .outcome (change.shown (change.outcome draft.members)))
  | .readField name key _ =>
    desk.withDraft name fun draft => (desk, .outcome (.previous (draft.shown key)))
  | .readMap name field _ =>
    desk.withDraft name fun draft =>
      (desk, .outcome (.previous ((draft.shown field.key).filter Json.isObject)))
  | .look name =>
    desk.withDraft name fun draft =>
      let string (key : String) := (draft.members.get? key).bind Json.string?
      (desk, .state (string FieldName.channel) (string FieldName.id) (string FieldName.clientId)
        draft.frozen)
  | .freeze name =>
    desk.withDraft name fun draft =>
      (desk.write name (some { draft with frozen := true }), .outcome .done)
  | .setLazy name _ | .setLocal name _ => desk.withDraft name fun _ => (desk, .outcome .done)
  | .render name form =>
    desk.withDraft name fun draft =>
      (desk, if draft.frozen then shop.rendered form draft.members else .error .notFrozen)
  | .copy name target =>
    desk.withDraft name fun draft => (desk.write target (some draft), .outcome .done)
  | .drop name => (desk.write name none, .flag (desk.drafts name).isSome)

variable {shop : Workshop} {desk : Desk} {name : String}

theorem hands_withDraft {run : Draft → Desk × Sight}
    (found : ∀ draft, (run draft).1.hands = desk.hands) :
    (desk.withDraft name run).1.hands = desk.hands := by
  unfold withDraft
  split
  · exact found _
  · rfl

theorem hands_act (act : Act) : (desk.act shop act).1.hands = desk.hands := by
  cases act with
  | readField | readMap | look | freeze | setLazy | setLocal | render | copy =>
    exact hands_withDraft fun _ => rfl
  | drop => rfl
  | edit =>
    refine hands_withDraft fun draft => ?_
    split
    · rfl
    · split <;> rfl

@[simp] theorem keep_none (into : Option String) : desk.keep into none = desk := by
  cases into <;> rfl

@[simp] theorem drafts_keep (into : Option String) (v : Option Json) :
    (desk.keep into v).drafts = desk.drafts := by
  unfold keep
  split <;> rfl

theorem hands_keep_other {into : Option String} (other : into ≠ some name) (v : Option Json) :
    (desk.keep into v).hands name = desk.hands name := by
  unfold keep
  split
  next taken v =>
    have differ : name ≠ taken := fun same => other (congrArg some same.symm)
    exact if_neg differ
  next => rfl

def step (shop : Workshop) (desk : Desk) (act : Act) : Desk × Sight :=
  let (after, sight) := desk.act shop act
  (after.keep act.into? sight.handed?, sight)

def sights (shop : Workshop) (desk : Desk) : List Act → List Sight
  | [] => []
  | first :: rest =>
    let (after, sight) := desk.step shop first
    sight :: after.sights shop rest

end Desk

end Bayeux
