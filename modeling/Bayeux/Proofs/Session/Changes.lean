import Bayeux.Proofs.Session.Run

set_option autoImplicit false

namespace Bayeux

-- An edit that has values for what it names.
inductive Change where
  | put (key : String) (v : Json)
  | assign (key : String) (v : Json)
  | remove (key : String)
  | ext (create : Bool) (edits : List MapEdit)

inductive Outcome where
  | done
  | previous (v : Option Json)
  | edited (members : Option JsonMap)

-- A payload that is null is shown as none.
def shownField (key : String) (v : Option Json) : Option Json :=
  if key = FieldName.data then v.filter (!·.isNull) else v

namespace Change

def ext? (members : JsonMap) (create : Bool) (edits : List MapEdit) : Option Json :=
  (Json.withMap create (members.get? FieldName.ext)).map (Json.editMembers edits)

def apply (members : JsonMap) : Change → JsonMap
  | .put key v | .assign key v => members.insert key v
  | .remove key => members.erase key
  | .ext create edits =>
    match ext? members create edits with
    | some v => members.insert FieldName.ext v
    | none => members

def outcome (members : JsonMap) : Change → Outcome
  | .put key _ | .remove key => .previous (members.get? key)
  | .assign _ _ => .done
  | .ext create edits => .edited ((ext? members create edits).bind Json.members?)

-- What an envelope answers to a change where a message gives the outcome.
def shown (outcome : Outcome) (change : Change) : Outcome :=
  match change, outcome with
  | .put key _, .previous v | .remove key, .previous v => .previous (shownField key v)
  | _, outcome => outcome

theorem sorted_apply {members : JsonMap} (sorted : members.Sorted) (change : Change) :
    (change.apply members).Sorted := by
  cases change with
  | put key v | assign key v => exact sorted.insert key v
  | remove key => exact sorted.erase key
  | ext create edits =>
    simp only [apply]
    split
    · exact sorted.insert _ _
    · exact sorted

theorem get?_apply_ext_of_ne {members : JsonMap} {create : Bool} {edits : List MapEdit}
    {key : String} (other : key ≠ FieldName.ext) :
    ((Change.ext create edits).apply members).get? key = members.get? key := by
  simp only [apply]
  split
  · exact Table.get?_insert_of_ne _ _ _ _ other
  · rfl

/-- What edits of a map do to the object that has it: the other fields stay, and in the map each
member becomes what the edits make of it. -/
structure EditsExt (create : Bool) (edits : List MapEdit) (members after : JsonMap) : Prop where
  others : ∀ key, key ≠ FieldName.ext → after.get? key = members.get? key
  map : ∀ map : JsonMap, Json.withMap create (members.get? FieldName.ext) = some (.object map) →
    map.Sorted → ∃ map' : JsonMap, after.get? FieldName.ext = some (.object map') ∧
      ∀ name, map'.get? name = edits.foldl (MapEdit.memberAfter name) (map.get? name)

theorem editsExt (members : JsonMap) (create : Bool) (edits : List MapEdit) :
    EditsExt create edits members ((Change.ext create edits).apply members) := by
  refine ⟨fun key other => get?_apply_ext_of_ne other, fun map there sorted => ?_⟩
  refine ⟨edits.foldl MapEdit.apply map, ?_, MapEdit.get?_foldl_apply sorted edits⟩
  rw [apply, ext?, there]
  exact Table.get?_insert_self _ _ _

theorem apply_ext_erase {members : JsonMap} (sorted : members.Sorted) {create : Bool}
    {edits : List MapEdit} :
    (Change.ext create edits).apply (members.erase FieldName.data) =
      ((Change.ext create edits).apply members).erase FieldName.data := by
  have differ : FieldName.ext ≠ FieldName.data := by decide
  simp only [apply, ext?, Table.get?_erase_of_ne _ _ _ differ]
  split
  · rw [Table.erase_insert_of_ne sorted differ]
  · rfl

end Change

def Answer.outcome? : Answer → Option Outcome
  | .done => some .done
  | .payload found => some (.previous (found.map (·.value)))
  | .edited members => some (.edited members)
  | _ => none

structure Edited where
  change : Change
  outcome : Option Outcome

def Change.follow (members : JsonMap) : List Change → List Edited
  | [] => []
  | change :: rest => ⟨change, some (change.outcome members)⟩ :: follow (change.apply members) rest

def Edited.shown (edited : Edited) : Edited :=
  { edited with outcome := edited.outcome.map fun outcome => edited.change.shown outcome }

def Step.editOfMessage? (name : String) : Step → Option Edit
  | .editMessage target edit _ => if target = name then some edit else none
  | _ => none

def Step.editOfEnvelope? (name : String) : Step → Option Edit
  | .editEnvelope target edit _ => if target = name then some edit else none
  | _ => none

namespace Session

def given? (s : Session) : Argument → Option Json
  | .handle name => (s.handles.get? name).map s.value
  | .fresh v => some v

-- The change that an edit makes; none if it is refused.
def change? (s : Session) : Edit → Option Change
  | .put key argument => (s.given? argument).map (.put key)
  | .assign key argument => (s.given? argument).map (.assign key)
  | .remove key => some (.remove key)
  | .ext create edits => some (.ext create edits)

-- The edits of one object that the steps make, with their outcomes.
def edits (s : Session) (edit? : Step → Option Edit) : List Step → List Edited
  | [] => []
  | first :: rest =>
    let made := ((edit? first).bind s.change?).toList
    made.map (⟨·, (s.step first).2.outcome?⟩) ++ (s.step first).1.edits edit? rest

variable {s : Session} {edit? : Step → Option Edit} {first : Step}

theorem edits_cons_of_change {change : Change} (made : (edit? first).bind s.change? = some change)
    (rest : List Step) : s.edits edit? (first :: rest) =
      ⟨change, (s.step first).2.outcome?⟩ :: (s.step first).1.edits edit? rest := by
  simp [edits, made]

theorem edits_cons_of_none (unmade : (edit? first).bind s.change? = none) (rest : List Step) :
    s.edits edit? (first :: rest) = (s.step first).1.edits edit? rest := by
  simp [edits, unmade]

end Session

end Bayeux
