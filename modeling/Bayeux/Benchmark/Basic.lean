import Bayeux.Folder
import Bayeux.Json.Basic
import Bayeux.Session.Step

set_option autoImplicit false

namespace Bayeux

/-- How many messages wait in the queue, what they carry, and whether the producer holds on to the
payloads while the queue drains. -/
structure Benchmark where
  count : Nat
  payloadFile : Option String
  retain : Bool
  deriving DecidableEq

namespace Benchmark

def objectUrl (path : String) : Json :=
  .string ("http://inventory.local/managedObjects/" ++ path)

def referenceList (path : String) (references : List Json) : Json :=
  .object [("references", .array references), ("self", objectUrl path)]

def inventoryUpdate : JsonMap :=
  let child : Json :=
    .object
      [("managedObject", .object [("id", .string "3200"), ("self", objectUrl "3200")]),
        ("self", objectUrl "3201/childAssets/3200")]
  [("data",
      .object
        [("additionParents", referenceList "3201/additionParents" []),
          ("assetParents", referenceList "3201/assetParents" []),
          ("c8y_IsDeviceGroup", .object []),
          ("childAdditions", referenceList "3201/childAdditions" []),
          ("childAssets", referenceList "3201/childAssets" [child]),
          ("childDevices", referenceList "3201/childDevices" []),
          ("creationTime", .string "2020-08-28T09:20:30.186Z"),
          ("deviceParents", referenceList "3201/deviceParents" []),
          ("id", .string "3201"),
          ("lastUpdated", .string "2020-08-28T09:20:30.186Z"),
          ("name", .string "testGroup1"),
          ("owner", .string "admin"),
          ("self", objectUrl "3201")]),
    ("realtimeAction", .string "UPDATE")]

inductive Problem where
  | unreadable (path : String) (error : FileError)
  | payload (error : CodecError)
  | message (error : EnvelopeError)
  deriving DecidableEq

def Problem.text : Problem → String
  | .unreadable path error => "unable to read payload file " ++ path ++ ", " ++ error.message
  | .payload error => error.message
  | .message error => error.message

/-- What was counted: sizes in bytes, and how many payloads could still be read. The numbers are
exact; `runInWords` counts them in words. -/
structure Report where
  messages : Nat
  compressed : Nat
  wireBytes : Nat
  jsonBytes : Nat
  readable : Nat
  deriving DecidableEq

structure Report.Fits (report : Report) : Prop where
  messages : report.messages < 2 ^ 64
  compressed : report.compressed < 2 ^ 64
  wireBytes : report.wireBytes < 2 ^ 64
  jsonBytes : report.jsonBytes < 2 ^ 64
  readable : report.readable < 2 ^ 64

def loadPayload (benchmark : Benchmark) (folder : Folder) : Except Problem JsonMap :=
  match benchmark.payloadFile with
  | none => .ok inventoryUpdate
  | some path =>
    match folder.read path with
    | .error error => .error (.unreadable path error)
    | .ok text => (Codec.parse text).mapError .payload

def start (settings : MessageSettings) : Session :=
  (Session.empty.run
    [.newCodec "codec" [] [],
      .newFactory "factory" "codec",
      .adjustFactory "factory" "factory" (some settings.zipThreshold.count)
        (some settings.ignoreNullData)]).1

def channelOf (i : Nat) : String := "/inventory/managedObjects/" ++ toString i

def clientId : String := "cometd-bench"

-- Builds and freezes message `i`. The producer drops the message, and unless it retains it the
-- payload too.
def produceSteps (payload : JsonMap) (retain : Bool) (i : Nat) : List Step :=
  [.newValue "payload" (.object payload),
    .newMessage "message" [],
    .editMessage "message" (.assign FieldName.channel (.fresh (.string (channelOf i)))) none,
    .editMessage "message" (.assign FieldName.id (.fresh (.string (toString i)))) none,
    .editMessage "message" (.assign FieldName.clientId (.fresh (.string clientId))) none,
    .editMessage "message" (.assign FieldName.data (.handle "payload")) none,
    .freezeMessage "factory" "message" "queued",
    .dropMessage "message"] ++
    if retain then [] else [.dropHandle "payload"]

-- The queue. Each message has a payload of its own and shares nothing with the others, so each has
-- a session of its own.
def produce (benchmark : Benchmark) (settings : MessageSettings) (payload : JsonMap) :
    List Session :=
  let first := start settings
  (List.range benchmark.count).map fun i =>
    (first.run (produceSteps payload benchmark.retain i)).1

structure Sizes where
  wire : Nat
  json : Nat
  zipped : Bool
  deriving DecidableEq

def serializeSteps : List Step :=
  [.render "queued" 0 .wire, .render "queued" 0 .bytes, .showEnvelope "queued" 0]

-- The answers to the steps above, or the first error among them.
def sizesOf : List Answer → Except Problem Sizes
  | [.wire wire, .bytes json, .envelope state] => .ok ⟨wire.size, json.size, state.isZipped⟩
  | .envelopeError error :: _ => .error (.message error)
  | _ :: .envelopeError error :: _ => .error (.message error)
  | _ => .error (.message .notFrozen)

def serialize (s : Session) : Except Problem (Session × Sizes) :=
  let (s, answers) := s.run serializeSteps
  (sizesOf answers).map fun sizes => (s, sizes)

def isReadable (s : Session) : Bool :=
  match (s.run [.readField "queued" 0 FieldName.data none]).2 with
  | [.payload (some _)] => true
  | _ => false

def countReadable (queue : List Session) : Nat := queue.countP isReadable

def reportOf (benchmark : Benchmark) (sizes : List Sizes) (readable : Nat) : Report :=
  { messages := benchmark.count
    compressed := sizes.countP (·.zipped)
    wireBytes := (sizes.map (·.wire)).sum
    jsonBytes := (sizes.map (·.json)).sum
    readable }

structure Counters where
  compressed : UInt64
  wireBytes : UInt64
  jsonBytes : UInt64

def Counters.add (counters : Counters) (sizes : Sizes) : Counters :=
  { compressed := counters.compressed + if sizes.zipped then 1 else 0
    wireBytes := counters.wireBytes + UInt64.ofNat sizes.wire
    jsonBytes := counters.jsonBytes + UInt64.ofNat sizes.json }

-- The same report with counters of 64 bits, to which each message is added in turn.
def reportInWords (benchmark : Benchmark) (sizes : List Sizes) (readable : Nat) : Report :=
  let counters := sizes.foldl Counters.add ⟨0, 0, 0⟩
  { messages := (UInt64.ofNat benchmark.count).toNat
    compressed := counters.compressed.toNat
    wireBytes := counters.wireBytes.toNat
    jsonBytes := counters.jsonBytes.toNat
    readable := (UInt64.ofNat readable).toNat }

def runWith (report : Benchmark → List Sizes → Nat → Report) (benchmark : Benchmark)
    (settings : MessageSettings) (folder : Folder) : Except Problem Report := do
  let payload ← benchmark.loadPayload folder
  let served ← (benchmark.produce settings payload).mapM serialize
  return report benchmark (served.map (·.2)) (countReadable (served.map (·.1)))

def run : Benchmark → MessageSettings → Folder → Except Problem Report := runWith reportOf

def runInWords : Benchmark → MessageSettings → Folder → Except Problem Report :=
  runWith reportInWords

def Report.lines (report : Report) : List (String × String) :=
  [("messages", toString report.messages),
    ("compressed", toString report.compressed),
    ("wire bytes", (ByteSize.ofNat report.wireBytes).text),
    ("json bytes", (ByteSize.ofNat report.jsonBytes).text),
    ("data readable", toString report.readable)]

def timeLabels : List String := ["produce+freeze", "serialize", "read data"]

end Benchmark

end Bayeux
