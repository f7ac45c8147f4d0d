import Bayeux.Codec.Behavior
import Bayeux.Session.Payload
import Bayeux.Settings.Json

set_option autoImplicit false

namespace Bayeux

-- A value that is given to an operation: that of a handle, or a fresh one.
inductive Argument where
  | handle (name : String)
  | fresh (v : Json)

-- A change of a message or of an envelope. Assigning is putting without a look at the old value.
inductive Edit where
  | put (key : String) (argument : Argument)
  | assign (key : String) (argument : Argument)
  | remove (key : String)
  | ext (create : Bool) (edits : List MapEdit)

inductive MapField where
  | data | ext | advice

inductive Form where
  | text | bytes | wire

/-- One operation on the objects of a session. Reading an envelope may start `hops` associations
further; what is read may become a handle under the name `into`. -/
inductive Step where
  | addCodec (name : String) (behavior : Behavior)
  | countCalls (codec : String)
  | newValue (name : String) (v : Json)
  | dropHandle (name : String)
  | showHandle (name : String)
  | newProbe (name handle : String)
  | askProbe (name : String)
  | newMessage (name : String) (fields : List (String × Json))
  | parseMessage (name text : String)
  | listFields (message : String)
  | takeFields (message : String)
  | editMessage (name : String) (edit : Edit) (into : Option String)
  | getField (message key : String) (into : Option String)
  | showMessage (name : String)
  | generateMessage (name codec : String)
  | serializeMessage (name : String)
  | cloneMessage (name target : String)
  | compareMessages (name other : String)
  | dropMessage (name : String)
  | newFactory (name codec : String)
  | parseFactory (name codec text : String)
  | adjustFactory (name target : String) (threshold : Option UInt64) (ignoreNull : Option Bool)
  | parseWith (factory text : String)
  | createEnvelope (factory target : String)
  | wrapMessage (factory message target : String)
  | freezeMessage (factory message target : String)
  | newEnvelope (name codec : String) (threshold : UInt64) (ignoreNull : Bool)
  | envelopeOf (name message codec : String) (threshold : UInt64) (ignoreNull : Bool)
  | copyEnvelope (name : String) (hops : Nat) (target : String)
  | dropEnvelope (name : String)
  | editEnvelope (name : String) (edit : Edit) (into : Option String)
  | readField (envelope : String) (hops : Nat) (key : String) (into : Option String)
  | readMap (envelope : String) (hops : Nat) (field : MapField) (into : Option String)
  | freeze (name : String)
  | setLazy (name : String) (on : Bool)
  | setLocal (name : String) (on : Bool)
  | associate (name : String) (other : Option String)
  | showEnvelope (name : String) (hops : Nat)
  | outlineEnvelope (name : String) (hops : Nat) (indented : Bool)
  | render (name : String) (hops : Nat) (form : Form)
  | renderAtOnce (name : String) (hops : Nat) (workers : Nat)

def Step.newCodec (name : String) (generateScript parseScript : List Reply) : Step :=
  .addCodec name (.scripted generateScript parseScript)

-- A value that was handed out, and the handles that have the identical one.
structure Payload where
  value : Json
  same : List String

structure MessageState where
  channel : Option String
  id : Option String
  clientId : Option String
  ext : Option JsonMap
  advice : Option JsonMap
  data : Option Json
  outline : Text.Outline

structure EnvelopeState where
  channel : Option String
  id : Option String
  clientId : Option String
  lazy : Bool
  isLocal : Bool
  isFrozen : Bool
  isSerialized : Bool
  isZipped : Bool
  threshold : UInt64
  ignoreNull : Bool
  hasAssociated : Bool
  associated : Option String

/-- What a step answers. It is refused where it names something that is not there, or would write
to a shared envelope. -/
inductive Answer where
  | done
  | refused
  | flag (b : Bool)
  | value (v : Json)
  | text (s : String)
  | bytes (bytes : ByteArray)
  | wire (bytes : ByteArray)
  | payload (payload : Option Payload)
  | map (payload : Option Payload)
  | edited (members : Option JsonMap)
  | entries (entries : JsonMap)
  | message (state : MessageState)
  | envelope (state : EnvelopeState)
  | outline (s : String)
  | counts (generated parsed : Nat)
  | texts (results : List (Except EnvelopeError String))
  | codecError (error : CodecError)
  | envelopeError (error : EnvelopeError)
  | settingsError (problem : Json.Problem)

namespace Session

def argument (s : Session) : Argument → Option (Session × Ref)
  | .handle name => (s.handles.get? name).map fun ref => (s, ref)
  | .fresh v => some (s.alloc v)

def describe (s : Session) (ref : Option Ref) : Option Payload :=
  ref.map fun ref => ⟨s.value ref, s.handlesOf ref⟩

def keep (s : Session) (into : Option String) (ref : Option Ref) : Session :=
  match into, ref with
  | some name, some ref => { s with handles := s.handles.insert name ref }
  | _, _ => s

def give (s : Session) (into : Option String) (ref : Option Ref) : Session × Answer :=
  (s.keep into ref, .payload (s.describe ref))

def giveMap (s : Session) (into : Option String) (ref : Option Ref) : Session × Answer :=
  let ref := ref.filter fun ref => (s.value ref).isObject
  (s.keep into ref, .map (s.describe ref))

def setMessage (s : Session) (name : String) (message : Message) : Session :=
  { s with messages := s.messages.insert name message }

def editMessage (s : Session) (name : String) (message : Message) (edit : Edit)
    (into : Option String) : Session × Answer :=
  match edit with
  | .put key argument =>
    match s.argument argument with
    | none => (s, .refused)
    | some (s, ref) =>
      let (message, old) := message.put key ref
      (s.setMessage name message).give into old
  | .assign key argument =>
    match s.argument argument with
    | none => (s, .refused)
    | some (s, ref) => (s.setMessage name (message.put key ref).1, .done)
  | .remove key =>
    let (message, old) := message.remove key
    (s.setMessage name message).give into old
  | .ext create edits =>
    let (s, fields, edited) := s.editExt message.fields create edits
    (s.setMessage name ⟨fields⟩, .edited edited)

def setEnvelope (s : Session) (name : String) (linked : Linked) (e : Envelope) : Session :=
  { s with envelopes := s.envelopes.insert name { linked with envelope := e } }

def editEnvelope (s : Session) (name : String) (linked : Linked) (edit : Edit)
    (into : Option String) : Session × Answer :=
  let e := linked.envelope
  if e.isFrozen then (s, .envelopeError .frozen)
  else
    match edit with
    | .put key argument =>
      match s.argument argument with
      | none => (s, .refused)
      | some (s, ref) =>
        match e.put s.store key ref with
        | .ok (e, old) => (s.setEnvelope name linked e).give into old
        | .error error => (s, .envelopeError error)
    | .assign key argument =>
      match s.argument argument with
      | none => (s, .refused)
      | some (s, ref) =>
        match e.put s.store key ref with
        | .ok (e, _) => (s.setEnvelope name linked e, .done)
        | .error error => (s, .envelopeError error)
    | .remove key =>
      match e.remove key with
      | .ok (e, old) => (s.setEnvelope name linked e).give into old
      | .error error => (s, .envelopeError error)
    | .ext create edits =>
      let (s, fields, edited) := s.editExt e.fields create edits
      (s.setEnvelope name linked { e with fields }, .edited edited)

def messageState (s : Session) (message : Message) : MessageState :=
  { channel := s.store.stringField message.fields FieldName.channel
    id := s.store.stringField message.fields FieldName.id
    clientId := s.store.stringField message.fields FieldName.clientId
    ext := s.store.mapField message.fields FieldName.ext
    advice := s.store.mapField message.fields FieldName.advice
    data := (message.get? FieldName.data).map s.value
    outline := s.store.fieldsOutline message.fields }

def envelopeState (s : Session) (linked : Linked) : EnvelopeState :=
  let e := linked.envelope
  { channel := s.store.stringField e.fields FieldName.channel
    id := s.store.stringField e.fields FieldName.id
    clientId := s.store.stringField e.fields FieldName.clientId
    lazy := e.lazy
    isLocal := e.isLocal
    isFrozen := e.isFrozen
    isSerialized := e.isSerialized s.store
    isZipped := e.isZipped s.store
    threshold := e.threshold
    ignoreNull := e.ignoreNull
    hasAssociated := !linked.chain.isEmpty
    associated := linked.chain.head?.bind s.nameOf? }

def withMessage (s : Session) (name : String) (run : Message → Session × Answer) :
    Session × Answer :=
  match s.messages.get? name with
  | some message => run message
  | none => (s, .refused)

def withCodec (s : Session) (name : String) (run : CodecId → Session × Answer) :
    Session × Answer :=
  match s.codecs.get? name with
  | some id => run id
  | none => (s, .refused)

def withFactory (s : Session) (name : String) (run : Factory → Session × Answer) :
    Session × Answer :=
  match s.factories.get? name with
  | some factory => run factory
  | none => (s, .refused)

def withEnvelope (s : Session) (name : String) (hops : Nat) (run : Linked → Session × Answer) :
    Session × Answer :=
  match (s.envelopes.get? name).bind (·.at? hops) with
  | some linked => run linked
  | none => (s, .refused)

def withWritable (s : Session) (name : String) (run : Linked → Session × Answer) :
    Session × Answer :=
  s.withEnvelope name 0 fun linked =>
    if s.isShared linked.envelope then (s, .refused) else run linked

def addFactory (s : Session) (name : String) (factory : Factory) : Session × Answer :=
  ({ s with factories := s.factories.insert name factory }, .done)

def factoryOf (message : MessageSettings) (codec : CodecId) : Factory :=
  ⟨message.zipThreshold.count, message.ignoreNullData, codec⟩

def readMapField (s : Session) (e : Envelope) : MapField → Session × Option Ref
  | .data => s.payload e
  | .ext => (s, e.fields.get? FieldName.ext)
  | .advice => (s, e.fields.get? FieldName.advice)

def render (s : Session) (e : Envelope) : Form → Session × Answer
  | .text =>
    match s.json e with
    | (s, .ok text) => (s, .text text)
    | (s, .error error) => (s, .envelopeError error)
  | .bytes =>
    match s.jsonBytes e with
    | (s, .ok bytes) => (s, .bytes bytes)
    | (s, .error error) => (s, .envelopeError error)
  | .wire =>
    match s.wire e with
    | (s, .ok bytes) => (s, .wire bytes)
    | (s, .error error) => (s, .envelopeError error)

def sameResult : Except EnvelopeError String → Except EnvelopeError String → Bool
  | .ok a, .ok b => a == b
  | .error a, .error b => a = b
  | _, _ => false

-- Of equal results in a row the first is kept.
def collapse : List (Except EnvelopeError String) → List (Except EnvelopeError String)
  | [] => []
  | first :: rest =>
    match collapse rest with
    | [] => [first]
    | second :: more => if sameResult first second then second :: more else first :: second :: more

def renderTimes (s : Session) (e : Envelope) : (workers : Nat) →
    Session × List (Except EnvelopeError String)
  | 0 => (s, [])
  | workers + 1 =>
    let (s, result) := s.json e
    let (s, results) := s.renderTimes e workers
    (s, result :: results)

def step (s : Session) : Step → Session × Answer
  | .addCodec name behavior =>
    let (store, id) := s.store.addCodec (.fresh behavior)
    ({ s with store, codecs := s.codecs.insert name id }, .done)
  | .countCalls codec =>
    s.withCodec codec fun id =>
      let codec := s.store.codec id
      (s, .counts codec.generated codec.parsed)
  | .newValue name v =>
    let (s, ref) := s.alloc v
    ({ s with handles := s.handles.insert name ref }, .done)
  | .dropHandle name =>
    ({ s with handles := s.handles.erase name }, .flag (s.handles.contains name))
  | .showHandle name =>
    match s.handles.get? name with
    | some ref => (s, .value (s.value ref))
    | none => (s, .refused)
  | .newProbe name handle =>
    match s.handles.get? handle with
    | some ref => ({ s with probes := s.probes.insert name ref }, .done)
    | none => (s, .refused)
  | .askProbe name =>
    match s.probes.get? name with
    | some ref => (s, .flag (s.isAlive ref))
    | none => (s, .refused)
  | .newMessage name fields =>
    let (store, fields) := s.store.allocFields fields
    ({ s with store }.setMessage name ⟨fields⟩, .done)
  | .parseMessage name text =>
    match Codec.parse text with
    | .error error => (s, .codecError error)
    | .ok members =>
      let (store, fields) := s.store.allocFields members
      ({ s with store }.setMessage name ⟨fields⟩, .done)
  | .listFields message =>
    s.withMessage message fun message => (s, .entries (s.store.valuesOf message.fields))
  | .takeFields name =>
    s.withMessage name fun message =>
      ({ s with messages := s.messages.erase name }, .entries (s.store.valuesOf message.fields))
  | .editMessage name edit into =>
    s.withMessage name fun message => s.editMessage name message edit into
  | .getField message key into =>
    s.withMessage message fun message => s.give into (message.get? key)
  | .showMessage name => s.withMessage name fun message => (s, .message (s.messageState message))
  | .generateMessage name codec =>
    s.withMessage name fun message =>
      s.withCodec codec fun id =>
        let (store, result) := s.store.generate id (s.store.valuesOf message.fields)
        let s := { s with store }
        match result with
        | .ok text => (s, .text text)
        | .error error => (s, .codecError error)
  | .serializeMessage name =>
    s.withMessage name fun message => (s, .value (.object (s.store.valuesOf message.fields)))
  | .cloneMessage name target =>
    s.withMessage name fun message => (s.setMessage target message, .done)
  | .compareMessages name other =>
    s.withMessage name fun a =>
      s.withMessage other fun b =>
        let whole (message : Message) : Json := .object (s.store.valuesOf message.fields)
        (s, .flag (Json.same (whole a) (whole b)))
  | .dropMessage name =>
    ({ s with messages := s.messages.erase name }, .flag (s.messages.contains name))
  | .newFactory name codec =>
    s.withCodec codec fun id => s.addFactory name (factoryOf .default id)
  | .parseFactory name codec text =>
    s.withCodec codec fun id =>
      match MessageSettings.ofJson text with
      | .ok message => s.addFactory name (factoryOf message id)
      | .error problem => (s, .settingsError problem)
  | .adjustFactory name target threshold ignoreNull =>
    s.withFactory name fun factory =>
      s.addFactory target
        { factory with
          threshold := threshold.getD factory.threshold
          ignoreNull := ignoreNull.getD factory.ignoreNull }
  | .parseWith factory text =>
    s.withFactory factory fun factory =>
      let (store, result) := s.store.parse factory.codec text
      let s := { s with store }
      match result with
      | .ok members => (s, .value (.object members))
      | .error error => (s, .codecError error)
  | .createEnvelope factory target =>
    s.withFactory factory fun factory =>
      let (s, id) := s.takeId
      (s.addEnvelope target (factory.create id), .done)
  | .wrapMessage factory message target =>
    s.withFactory factory fun factory =>
      s.withMessage message fun message =>
        let (s, id) := s.takeId
        (s.addEnvelope target (factory.wrap s.store id message), .done)
  | .freezeMessage factory message target =>
    s.withFactory factory fun factory =>
      s.withMessage message fun message =>
        let (s, id) := s.takeId
        let (store, e) := factory.freeze s.store id message
        ({ s with store }.addEnvelope target e, .done)
  | .newEnvelope name codec threshold ignoreNull =>
    s.withCodec codec fun codec =>
      let (s, id) := s.takeId
      (s.addEnvelope name (.new id threshold ignoreNull codec), .done)
  | .envelopeOf name message codec threshold ignoreNull =>
    s.withMessage message fun message =>
      s.withCodec codec fun codec =>
        let (s, id) := s.takeId
        (s.addEnvelope name (.ofMessage s.store id message threshold ignoreNull codec), .done)
  | .copyEnvelope name hops target =>
    s.withEnvelope name hops fun linked =>
      let (s, id) := s.takeId
      (s.addEnvelope target (linked.envelope.copy id), .done)
  | .dropEnvelope name =>
    ({ s with envelopes := s.envelopes.erase name }, .flag (s.envelopes.contains name))
  | .editEnvelope name edit into =>
    s.withWritable name fun linked => s.editEnvelope name linked edit into
  | .readField name hops key into =>
    s.withEnvelope name hops fun linked =>
      let (s, ref) := s.getField linked.envelope key
      s.give into ref
  | .readMap name hops field into =>
    s.withEnvelope name hops fun linked =>
      let (s, ref) := s.readMapField linked.envelope field
      s.giveMap into ref
  | .freeze name =>
    s.withWritable name fun linked =>
      let (s, e) := s.freeze linked.envelope
      (s.setEnvelope name linked e, .done)
  | .setLazy name on =>
    s.withWritable name fun linked =>
      (s.setEnvelope name linked { linked.envelope with lazy := on }, .done)
  | .setLocal name on =>
    s.withWritable name fun linked =>
      (s.setEnvelope name linked { linked.envelope with isLocal := on }, .done)
  | .associate name other =>
    s.withWritable name fun linked =>
      match other with
      | none => ({ s with envelopes := s.envelopes.insert name { linked with chain := [] } }, .done)
      | some other =>
        s.withEnvelope other 0 fun target =>
          if target.all.any (·.id = linked.envelope.id) then (s, .refused)
          else
            let linked := { linked with chain := target.all }
            ({ s with envelopes := s.envelopes.insert name linked }, .done)
  | .showEnvelope name hops =>
    s.withEnvelope name hops fun linked => (s, .envelope (s.envelopeState linked))
  | .outlineEnvelope name hops indented =>
    s.withEnvelope name hops fun linked =>
      let outline := linked.envelope.outline s.store s.isAlive
      (s, .outline (if indented then outline.indented "" else outline.line))
  | .render name hops form => s.withEnvelope name hops fun linked => s.render linked.envelope form
  | .renderAtOnce name hops workers =>
    s.withEnvelope name hops fun linked =>
      let (s, results) := s.renderTimes linked.envelope workers
      (s, .texts (collapse results))

def run (s : Session) : List Step → Session × List Answer
  | [] => (s, [])
  | first :: rest =>
    let (s, answer) := s.step first
    let (s, answers) := s.run rest
    (s, answer :: answers)

end Session

end Bayeux
