import Bayeux.Codec.Behavior

set_option autoImplicit false

-- The fields that the Bayeux protocol gives a meaning.
namespace Bayeux.FieldName

def channel : String := "channel"

def id : String := "id"

def clientId : String := "clientId"

def data : String := "data"

def ext : String := "ext"

def advice : String := "advice"

end Bayeux.FieldName

namespace Bayeux

-- Stands for a value in the store; who has it shares the value.
structure Ref where
  index : Nat
  deriving DecidableEq

/-- Where a payload is kept. A live slot keeps its value alive, a weak one does not. -/
inductive Slot where
  | absent
  | null
  | live (ref : Ref)
  | weak (ref : Ref)
  deriving DecidableEq

namespace Slot

def owned : Slot → List Ref
  | .live ref => [ref]
  | _ => []

def watched : Slot → List Ref
  | .weak ref => [ref]
  | _ => []

def downgrade : Slot → Slot
  | .live ref => .weak ref
  | slot => slot

def upgrade (isAlive : Ref → Bool) : Slot → Option Ref
  | .live ref => some ref
  | .weak ref => if isAlive ref then some ref else none
  | _ => none

@[simp] theorem owned_downgrade (slot : Slot) : slot.downgrade.owned = [] := by
  cases slot <;> rfl

end Slot

inductive Stored where
  | plain (text : String)
  | zipped (bytes : ByteArray)

namespace Stored

def ofText (text : String) (threshold : Nat) : Stored :=
  if threshold < text.utf8ByteSize then .zipped (Gzip.compress text.toUTF8) else .plain text

def isZipped : Stored → Bool
  | .plain _ => false
  | .zipped _ => true

def text : Stored → Except CodecError String
  | .plain text => .ok text
  | .zipped bytes => Codec.gunzipText bytes

def bytes : Stored → Except CodecError ByteArray
  | .plain text => .ok text.toUTF8
  | .zipped bytes => Codec.gunzip bytes

def wire : Stored → ByteArray
  | .plain text => text.toUTF8
  | .zipped bytes => bytes

end Stored

structure SnapshotId where
  index : Nat
  deriving DecidableEq

structure CodecId where
  index : Nat
  deriving DecidableEq

abbrev Fields := Table Ref

/-- The fields of a message when it was frozen, shared by all its copies. The payload is kept apart,
and let go of once the stored form exists. -/
structure Snapshot where
  fields : Fields
  payload : Slot
  stored : Option Stored

/-- What messages share: values, snapshots and codecs. What nobody holds any more stays listed; who
holds what is known from the holders. -/
structure Store where
  values : Array Json
  snapshots : Array Snapshot
  codecs : Array LiveCodec

namespace Snapshot

def empty : Snapshot := ⟨[], .absent, none⟩

def owned (snapshot : Snapshot) : List Ref := snapshot.fields.values ++ snapshot.payload.owned

def serialized (snapshot : Snapshot) (stored : Stored) : Snapshot :=
  { snapshot with payload := snapshot.payload.downgrade, stored := some stored }

end Snapshot

namespace Store

def empty : Store := ⟨#[], #[], #[]⟩

def value (store : Store) (ref : Ref) : Json := store.values.getD ref.index .null

def alloc (store : Store) (v : Json) : Store × Ref :=
  ({ store with values := store.values.push v }, ⟨store.values.size⟩)

def setValue (store : Store) (ref : Ref) (v : Json) : Store :=
  { store with values := store.values.setIfInBounds ref.index v }

def snapshot (store : Store) (id : SnapshotId) : Snapshot :=
  store.snapshots.getD id.index .empty

def addSnapshot (store : Store) (snapshot : Snapshot) : Store × SnapshotId :=
  ({ store with snapshots := store.snapshots.push snapshot }, ⟨store.snapshots.size⟩)

def setSnapshot (store : Store) (id : SnapshotId) (snapshot : Snapshot) : Store :=
  { store with snapshots := store.snapshots.setIfInBounds id.index snapshot }

def codec (store : Store) (id : CodecId) : LiveCodec :=
  store.codecs.getD id.index (.fresh .faithful)

def addCodec (store : Store) (codec : LiveCodec) : Store × CodecId :=
  ({ store with codecs := store.codecs.push codec }, ⟨store.codecs.size⟩)

def setCodec (store : Store) (id : CodecId) (codec : LiveCodec) : Store :=
  { store with codecs := store.codecs.setIfInBounds id.index codec }

def generate (store : Store) (id : CodecId) (fields : JsonMap) :
    Store × Except CodecError String :=
  let (codec, result) := (store.codec id).generate fields
  (store.setCodec id codec, result)

def parse (store : Store) (id : CodecId) (text : String) : Store × Except CodecError JsonMap :=
  let (codec, result) := (store.codec id).parse text
  (store.setCodec id codec, result)

def valuesOf (store : Store) (fields : Fields) : JsonMap := fields.mapValues store.value

-- A null payload is not kept.
def slotOf (store : Store) (ref : Ref) : Slot :=
  if (store.value ref).isNull then .null else .live ref

def snapshotFields (store : Store) (isAlive : Ref → Bool) (snapshot : Snapshot) : JsonMap :=
  let fields := store.valuesOf snapshot.fields
  match snapshot.payload with
  | .null => fields.insert FieldName.data .null
  | slot =>
    match slot.upgrade isAlive with
    | some ref => fields.insert FieldName.data (store.value ref)
    | none => fields

end Store

end Bayeux
