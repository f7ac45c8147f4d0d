import Bayeux.Session.Basic

set_option autoImplicit false

namespace Bayeux.Session

/-- The stored form of an envelope. The first call that succeeds renders the snapshot, lets go of
its payload and decides on the form; a call that fails leaves everything as it was. -/
def serialize (s : Session) (e : Envelope) : Session × Except EnvelopeError Stored :=
  match e.snapshot with
  | none => (s, .error .notFrozen)
  | some id =>
    let snapshot := s.store.snapshot id
    match snapshot.stored with
    | some stored => (s, .ok stored)
    | none =>
      let fields := s.store.snapshotFields s.isAlive snapshot
      let (store, result) := s.store.generate e.codec fields
      match result with
      | .error error => ({ s with store }, .error (.codec error))
      | .ok text =>
        let stored := Stored.ofText text e.threshold.toNat
        ({ s with store := store.setSnapshot id (snapshot.serialized stored) }, .ok stored)

def json (s : Session) (e : Envelope) : Session × Except EnvelopeError String :=
  let (s, result) := s.serialize e
  (s, result.bind fun stored => stored.text.mapError .codec)

def jsonBytes (s : Session) (e : Envelope) : Session × Except EnvelopeError ByteArray :=
  let (s, result) := s.serialize e
  (s, result.bind fun stored => stored.bytes.mapError .codec)

def wire (s : Session) (e : Envelope) : Session × Except EnvelopeError ByteArray :=
  let (s, result) := s.serialize e
  (s, result.map Stored.wire)

def unreadable (error : String) : String :=
  "Error while reading json data from WeakMessage, " ++ error

def unparsable (error : String) : String :=
  "Error while parsing json data from WeakMessage, " ++ error

-- A fresh value for the payload in a stored form; none where it is missing or null.
def reread (s : Session) (codec : CodecId) (stored : Stored) : Session × Option Ref :=
  match stored.text with
  | .error error => (s.report .error (unreadable (EnvelopeError.codec error).message), none)
  | .ok text =>
    let (store, result) := s.store.parse codec text
    let s := { s with store }
    match result with
    | .error error => (s.report .error (unparsable error.message), none)
    | .ok members =>
      match members.get? FieldName.data with
      | none => (s, none)
      | some v =>
        if v.isNull then (s, none)
        else
          let (s, ref) := s.alloc v
          (s, some ref)

/-- The payload of an envelope. A frozen one has it from its snapshot as long as it is alive, then
from the stored form. -/
def payload (s : Session) (e : Envelope) : Session × Option Ref :=
  match e.snapshot with
  | none => (s, e.payload.upgrade s.isAlive)
  | some id =>
    let snapshot := s.store.snapshot id
    match snapshot.payload.upgrade s.isAlive with
    | some ref => (s, some ref)
    | none =>
      match snapshot.stored with
      | none => (s, none)
      | some stored => s.reread e.codec stored

def getField (s : Session) (e : Envelope) (key : String) : Session × Option Ref :=
  if key = FieldName.data then s.payload e else (s, e.fields.get? key)

def alreadyFrozen (id channel : Option String) : String :=
  let shown (field : Option String) := (Text.Outline.optional (field.map Text.Outline.str)).line
  "message " ++ shown id ++ " on " ++ shown channel ++ " is already frozen"

def freeze (s : Session) (e : Envelope) : Session × Envelope :=
  if e.isFrozen then
    let id := s.store.stringField e.fields FieldName.id
    let channel := s.store.stringField e.fields FieldName.channel
    (s.report .debug (alreadyFrozen id channel), e)
  else
    let (store, e) := e.freeze s.store
    ({ s with store }, e)

end Bayeux.Session
