import Bayeux.Envelope.Basic
import Bayeux.Log.Level

set_option autoImplicit false

namespace Bayeux

-- An envelope, the one it is associated with, the one that one is associated with, and so on.
structure Linked where
  envelope : Envelope
  chain : List Envelope

def Linked.all (linked : Linked) : List Envelope := linked.envelope :: linked.chain

def Linked.at? (linked : Linked) (hops : Nat) : Option Linked :=
  match linked.all.drop hops with
  | [] => none
  | envelope :: chain => some ⟨envelope, chain⟩

structure Session where
  store : Store
  handles : Table Ref
  probes : Table Ref
  messages : Table Message
  factories : Table Factory
  envelopes : Table Linked
  codecs : Table CodecId
  nextId : Nat
  -- What was reported, the last first.
  events : List Log.Event

namespace Session

def empty : Session :=
  { store := .empty
    handles := []
    probes := []
    messages := []
    factories := []
    envelopes := []
    codecs := []
    nextId := 0
    events := [] }

def liveEnvelopes (s : Session) : List Envelope := s.envelopes.values.flatMap Linked.all

def owners (s : Session) : List Ref :=
  s.handles.values ++ s.messages.values.flatMap (·.fields.values) ++
    s.liveEnvelopes.flatMap (·.owned s.store)

def watchers (s : Session) : List Ref :=
  s.probes.values ++ s.liveEnvelopes.flatMap (·.watched s.store)

def isAlive (s : Session) (ref : Ref) : Bool := s.owners.contains ref

def value (s : Session) (ref : Ref) : Json := s.store.value ref

def alloc (s : Session) (v : Json) : Session × Ref :=
  let (store, ref) := s.store.alloc v
  ({ s with store }, ref)

def report (s : Session) (level : Log.Level) (message : String) : Session :=
  { s with events := ⟨level, "cometd::weak", message⟩ :: s.events }

/-- A value may change in place if one holder has it and nothing else refers to it. -/
def isExclusive (s : Session) (ref : Ref) : Bool :=
  s.owners.count ref ≤ 1 && !s.watchers.contains ref

/-- The same value where it may change in place; a shared one is copied, one that is merely watched
moves away from its watchers. -/
def makeExclusive (s : Session) (ref : Ref) : Session × Ref :=
  if s.isExclusive ref then (s, ref) else s.alloc (s.value ref)

def setValue (s : Session) (ref : Ref) (v : Json) : Session :=
  { s with store := s.store.setValue ref v }

def createMap (s : Session) (fields : Fields) (key : String) : Session × Fields :=
  if s.store.holdsMap fields key then (s, fields)
  else
    let (s, ref) := s.alloc (.object [])
    (s, fields.insert key ref)

-- Edits the map in a field, which nobody else sees. The fields are those of an object that the
-- session holds.
def editMap (s : Session) (fields : Fields) (key : String) (edits : List MapEdit) :
    Session × Fields × Option JsonMap :=
  match fields.get? key with
  | none => (s, fields, none)
  | some ref =>
    let (s, own) := s.makeExclusive ref
    let fields := fields.insert key own
    match s.value own with
    | .object members =>
      let edited := edits.foldl MapEdit.apply members
      (s.setValue own (.object edited), fields, some edited)
    | _ => (s, fields, none)

def editExt (s : Session) (fields : Fields) (create : Bool) (edits : List MapEdit) :
    Session × Fields × Option JsonMap :=
  let (s, fields) := if create then s.createMap fields FieldName.ext else (s, fields)
  s.editMap fields FieldName.ext edits

def takeId (s : Session) : Session × Nat := ({ s with nextId := s.nextId + 1 }, s.nextId)

def addEnvelope (s : Session) (name : String) (e : Envelope) : Session :=
  { s with envelopes := s.envelopes.insert name ⟨e, []⟩ }

-- An envelope that another one is associated with can only be read.
def isShared (s : Session) (e : Envelope) : Bool :=
  s.envelopes.values.any fun linked => linked.chain.any fun other => other.id = e.id

def nameOf? (s : Session) (e : Envelope) : Option String :=
  (s.envelopes.find? fun entry => entry.2.envelope.id = e.id).map (·.1)

def handlesOf (s : Session) (ref : Ref) : List String :=
  (s.handles.filter fun entry => entry.2 = ref).map (·.1)

end Session

end Bayeux
