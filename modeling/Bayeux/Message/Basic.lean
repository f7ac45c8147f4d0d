import Bayeux.Json.Printer
import Bayeux.Store.Basic

set_option autoImplicit false

namespace Bayeux

structure Message where
  fields : Fields
  deriving DecidableEq

inductive MapEdit where
  | set (key : String) (v : Json)
  | delete (key : String)
  | clear

def MapEdit.apply (members : JsonMap) : MapEdit → JsonMap
  | .set key v => members.insert key v
  | .delete key => members.erase key
  | .clear => []

-- What an edit makes of the member of one name.
def MapEdit.memberAfter (name : String) (member : Option Json) : MapEdit → Option Json
  | .set key v => if key = name then some v else member
  | .delete key => if key = name then none else member
  | .clear => none

theorem MapEdit.get?_apply {members : JsonMap} (sorted : Table.Sorted members) (edit : MapEdit)
    (name : String) :
    (edit.apply members).get? name = edit.memberAfter name (members.get? name) := by
  cases edit with
  | set key v =>
    by_cases same : key = name
    · simp [apply, memberAfter, same]
    · simp [apply, memberAfter, same, Table.get?_insert_of_ne _ _ _ _ (Ne.symm same)]
  | delete key =>
    by_cases same : key = name
    · simp [apply, memberAfter, same, Table.get?_erase_self sorted]
    · simp [apply, memberAfter, same, Table.get?_erase_of_ne _ _ _ (Ne.symm same)]
  | clear => rfl

namespace Store

def stringField (store : Store) (fields : Fields) (key : String) : Option String :=
  (fields.get? key).bind fun ref => (store.value ref).string?

def mapField (store : Store) (fields : Fields) (key : String) : Option JsonMap :=
  (fields.get? key).bind fun ref => (store.value ref).members?

def holdsMap (store : Store) (fields : Fields) (key : String) : Bool :=
  match fields.get? key with
  | some ref => (store.value ref).isObject
  | none => false

def fieldsOutline (store : Store) (fields : Fields) : Text.Outline :=
  Json.mapOutline (store.valuesOf fields)

-- Puts fresh values under the names; of equal names the last counts.
def allocFields (store : Store) (entries : List (String × Json)) : Store × Fields :=
  entries.foldl
    (fun state entry =>
      let (store, ref) := state.1.alloc entry.2
      (store, state.2.insert entry.1 ref))
    (store, [])

end Store

namespace Message

def get? (message : Message) (key : String) : Option Ref := message.fields.get? key

def put (message : Message) (key : String) (ref : Ref) : Message × Option Ref :=
  (⟨message.fields.insert key ref⟩, message.fields.get? key)

def remove (message : Message) (key : String) : Message × Option Ref :=
  (⟨message.fields.erase key⟩, message.fields.get? key)

end Message

end Bayeux
