import Bayeux.Message.Basic

set_option autoImplicit false

namespace Bayeux

inductive EnvelopeError where
  | frozen
  | notFrozen
  | codec (error : CodecError)
  deriving DecidableEq

def EnvelopeError.message : EnvelopeError → String
  | .frozen => "message is already frozen"
  | .notFrozen => "message is not frozen yet"
  | .codec error => "Codec error: " ++ error.message

/-- A message on its way out. It can be written to until it is frozen; then its snapshot is
serialized once, and after that only other holders keep its payload alive. -/
structure Envelope where
  id : Nat
  fields : Fields
  payload : Slot
  lazy : Bool
  isLocal : Bool
  snapshot : Option SnapshotId
  threshold : UInt64
  ignoreNull : Bool
  codec : CodecId
  deriving DecidableEq

namespace Envelope

def new (id : Nat) (threshold : UInt64) (ignoreNull : Bool) (codec : CodecId) : Envelope :=
  { id, threshold, ignoreNull, codec
    fields := []
    payload := .absent
    lazy := false
    isLocal := false
    snapshot := none }

def ofMessage (store : Store) (id : Nat) (message : Message) (threshold : UInt64)
    (ignoreNull : Bool) (codec : CodecId) : Envelope :=
  { new id threshold ignoreNull codec with
    fields := message.fields.erase FieldName.data
    payload :=
      match message.get? FieldName.data with
      | some ref => store.slotOf ref
      | none => .absent }

def isFrozen (e : Envelope) : Bool := e.snapshot.isSome

def stored? (store : Store) (e : Envelope) : Option Stored :=
  e.snapshot.bind fun id => (store.snapshot id).stored

def isSerialized (store : Store) (e : Envelope) : Bool := (e.stored? store).isSome

def isZipped (store : Store) (e : Envelope) : Bool :=
  match e.stored? store with
  | some stored => stored.isZipped
  | none => false

def owned (store : Store) (e : Envelope) : List Ref :=
  e.fields.values ++ e.payload.owned ++
    match e.snapshot with
    | some id => (store.snapshot id).owned
    | none => []

def watched (store : Store) (e : Envelope) : List Ref :=
  e.payload.watched ++
    match e.snapshot with
    | some id => (store.snapshot id).payload.watched
    | none => []

-- Before it is frozen a payload is live, null or absent.
def livePayload (e : Envelope) : Option Ref := e.payload.upgrade fun _ => false

def put (store : Store) (e : Envelope) (key : String) (ref : Ref) :
    Except EnvelopeError (Envelope × Option Ref) :=
  if e.isFrozen then .error .frozen
  else if key = FieldName.data then .ok ({ e with payload := store.slotOf ref }, e.livePayload)
  else .ok ({ e with fields := e.fields.insert key ref }, e.fields.get? key)

def remove (e : Envelope) (key : String) : Except EnvelopeError (Envelope × Option Ref) :=
  if e.isFrozen then .error .frozen
  else if key = FieldName.data then .ok ({ e with payload := .absent }, e.livePayload)
  else .ok ({ e with fields := e.fields.erase key }, e.fields.get? key)

-- The payload of the snapshot: an absent one is written as null unless nulls are ignored.
def frozenPayload (e : Envelope) : Slot :=
  match e.payload with
  | .absent => if e.ignoreNull then .absent else .null
  | .null => if e.ignoreNull then .absent else .null
  | slot => slot

def freeze (store : Store) (e : Envelope) : Store × Envelope :=
  if e.isFrozen then (store, e)
  else
    let (store, id) := store.addSnapshot ⟨e.fields, e.frozenPayload, none⟩
    (store, { e with payload := e.payload.downgrade, snapshot := some id })

-- The same fields and settings; a snapshot is shared. The flags are not carried over.
def copy (e : Envelope) (id : Nat) : Envelope := { e with id, lazy := false, isLocal := false }

def slotText (store : Store) (isAlive : Ref → Bool) (slot : Slot) : String :=
  match slot with
  | .absent => "Absent"
  | .null => "Null"
  | .live ref => "Live(" ++ (store.value ref).text ++ ")"
  | .weak ref =>
    if isAlive ref then "Weak(" ++ (store.value ref).text ++ ")" else "Weak(<reclaimed>)"

def outline (store : Store) (isAlive : Ref → Bool) (e : Envelope) : Text.Outline :=
  .record "WeakMessage"
    [("fields", store.fieldsOutline e.fields), ("data", .text (slotText store isAlive e.payload)),
      ("lazy", .bool e.lazy), ("local", .bool e.isLocal), ("frozen", .bool e.isFrozen),
      ("serialized", .bool (e.isSerialized store)), ("compressed", .bool (e.isZipped store))]

end Envelope

structure Factory where
  threshold : UInt64
  ignoreNull : Bool
  codec : CodecId
  deriving DecidableEq

namespace Factory

def create (factory : Factory) (id : Nat) : Envelope :=
  .new id factory.threshold factory.ignoreNull factory.codec

def wrap (factory : Factory) (store : Store) (id : Nat) (message : Message) : Envelope :=
  .ofMessage store id message factory.threshold factory.ignoreNull factory.codec

def freeze (factory : Factory) (store : Store) (id : Nat) (message : Message) : Store × Envelope :=
  (factory.wrap store id message).freeze store

end Factory

end Bayeux
