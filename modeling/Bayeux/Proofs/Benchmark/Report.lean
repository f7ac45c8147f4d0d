import Bayeux.Proofs.Benchmark.Message
import Bayeux.Proofs.Session.Reading
import Bayeux.Proofs.Session.Steps
import Bayeux.Proofs.Store.Operations

set_option autoImplicit false

namespace Bayeux.Benchmark

open Session

section Waiting

variable {s t : Session} {linked : Linked} (here : s.linkedAt? "queued" 0 = some linked)

include here

theorem serialize_eq (there : t.linkedAt? "queued" 0 = some linked) {stored : Stored}
    {json : ByteArray} (first : s.serialize linked.envelope = (t, .ok stored))
    (again : t.serialize linked.envelope = (t, .ok stored)) (bytes : stored.bytes = .ok json)
    (zipped : linked.envelope.isZipped t.store = stored.isZipped) :
    serialize s = .ok (t, ⟨stored.wire.size, json.size, stored.isZipped⟩) := by
  have wired : s.step (.render "queued" 0 .wire) = (t, .wire stored.wire) := by
    simp only [step, withEnvelope_found here, render, wire, first, Except.map]
  have read : t.step (.render "queued" 0 .bytes) = (t, .bytes json) := by
    simp only [step, withEnvelope_found there, render, jsonBytes, again, Except.bind, bytes,
      mapError_ok]
  have shown : t.step (.showEnvelope "queued" 0) = (t, .envelope (t.envelopeState linked)) := by
    simp only [step, withEnvelope_found there]
  simp only [serialize, serializeSteps, Session.run, wired, read, shown, sizesOf, Except.map,
    envelopeState, zipped]

theorem isReadable_eq : isReadable s = (s.payload linked.envelope).2.isSome := by
  have read : (s.step (.readField "queued" 0 FieldName.data none)).2 =
      .payload ((s.payload linked.envelope).1.describe (s.payload linked.envelope).2) := by
    simp only [step, withEnvelope_found here, getField, if_true, give]
  simp only [isReadable, Session.run, read]
  cases (s.payload linked.envelope).2 <;> rfl

end Waiting

def queuedFields : Fields :=
  [(FieldName.channel, ⟨1⟩), (FieldName.clientId, ⟨3⟩), (FieldName.id, ⟨2⟩)]

def payloadRef : Ref := ⟨0⟩

def queuedEnvelope (settings : MessageSettings) : Envelope :=
  { Envelope.new 0 settings.zipThreshold.count settings.ignoreNullData ⟨0⟩ with
    fields := queuedFields
    payload := .weak payloadRef
    snapshot := some ⟨0⟩ }

section Message

variable (settings : MessageSettings) (payload : JsonMap) (retain : Bool) (i : Nat)

def holding (snapshot : Snapshot) (calls : List CodecCall) : Session :=
  { start settings with
    store :=
      { values :=
          #[.object payload, .string (channelOf i), .string (toString i), .string clientId]
        snapshots := #[snapshot]
        codecs := #[⟨.scripted [] [], calls⟩] }
    handles := if retain then [("payload", payloadRef)] else []
    envelopes := [("queued", ⟨queuedEnvelope settings, []⟩)]
    nextId := 1 }

def queued : Session :=
  holding settings payload retain i ⟨queuedFields, .live payloadRef, none⟩ []

def storedOf : Stored :=
  .ofText (messageText payload (toString i)) settings.zipThreshold.count.toNat

def served : Session :=
  holding settings payload retain i
    ⟨queuedFields, .weak payloadRef, some (storedOf settings payload i)⟩
    [.generate (messageFields payload (toString i)) (.ok (messageText payload (toString i)))]

theorem run_produceSteps :
    ((start settings).run (produceSteps payload retain i)).1 =
      queued settings payload retain i := by
  -- The steps compute whatever the payload and the number are.
  cases retain <;> rfl

theorem linkedAt?_queued : (queued settings payload retain i).linkedAt? "queued" 0 =
    some ⟨queuedEnvelope settings, []⟩ := rfl

theorem linkedAt?_served : (served settings payload retain i).linkedAt? "queued" 0 =
    some ⟨queuedEnvelope settings, []⟩ := rfl

theorem serialize_queued :
    (queued settings payload retain i).serialize (queuedEnvelope settings) =
      (served settings payload retain i, .ok (storedOf settings payload i)) := rfl

theorem serialize_served :
    (served settings payload retain i).serialize (queuedEnvelope settings) =
      (served settings payload retain i, .ok (storedOf settings payload i)) := rfl

def sizesAt : Sizes :=
  { wire := (storedOf settings payload i).wire.size
    json := messageSize payload i
    zipped := settings.zipThreshold.count.toNat < messageSize payload i }

theorem wire_sizesAt (plain : (sizesAt settings payload i).zipped = false) :
    (sizesAt settings payload i).wire = (sizesAt settings payload i).json := by
  simp only [sizesAt, decide_eq_false_iff_not] at plain ⊢
  rw [← utf8ByteSize_messageText] at plain ⊢
  rw [storedOf, Stored.ofText, if_neg plain]
  rfl

theorem serialize_produced :
    serialize (queued settings payload retain i) =
      .ok (served settings payload retain i, sizesAt settings payload i) := by
  have bytes : (storedOf settings payload i).bytes =
      .ok (messageText payload (toString i)).toUTF8 := Stored.bytes_ofText ..
  have size : (messageText payload (toString i)).toUTF8.size = messageSize payload i :=
    utf8ByteSize_messageText payload i
  have zipped : (storedOf settings payload i).isZipped =
      decide (settings.zipThreshold.count.toNat < messageSize payload i) := by
    rw [storedOf, Stored.isZipped_ofText, utf8ByteSize_messageText]
  rw [sizesAt, ← zipped, ← size]
  exact serialize_eq (linkedAt?_queued ..) (linkedAt?_served ..) (serialize_queued ..)
    (serialize_served ..) bytes rfl

end Message

variable {settings : MessageSettings} {payload : JsonMap}

theorem produce_eq (benchmark : Benchmark) : benchmark.produce settings payload =
    (List.range benchmark.count).map (queued settings payload benchmark.retain) := by
  simp only [produce, run_produceSteps]

theorem mapM_map_ok {α β γ ε : Type} {f : α → β} {g : β → Except ε γ} {h : α → γ}
    (each : ∀ a, g (f a) = .ok (h a)) (items : List α) :
    (items.map f).mapM g = .ok (items.map h) := by
  induction items with
  | nil => rfl
  | cons a rest ih =>
    rw [List.map_cons, List.mapM_cons, each, ih]
    rfl

/-- What a message reads as once it is serialized: only the producer can keep the payload itself
alive, and without it the payload is a fresh value from the stored form. -/
structure Reads (settings : MessageSettings) (payload : JsonMap) (retain : Bool) (s : Session) :
    Prop where
  waiting : s.linkedAt? "queued" 0 = some ⟨queuedEnvelope settings, []⟩
  referred : s.value payloadRef = .object payload
  alive : s.isAlive payloadRef = retain
  itself : (s.payload (queuedEnvelope settings)).2 = some payloadRef ↔ retain = true
  value : (s.payload (queuedEnvelope settings)).2.map (s.payload (queuedEnvelope settings)).1.value =
    some (.object payload)

theorem reads_served (whole : (Json.object payload).Holds Number.IsInteger)
    (shallow : (Json.object payload).depth ≤ 126) (retain : Bool) (i : Nat) :
    Reads settings payload retain (served settings payload retain i) := by
  cases retain with
  | true => exact ⟨rfl, rfl, rfl, iff_of_true rfl rfl, rfl⟩
  | false =>
    -- Nobody holds the payload any more, so the stored form is parsed.
    have text : (storedOf settings payload i).text = .ok (messageText payload (toString i)) :=
      Stored.text_ofText ..
    have parsed : ((served settings payload false i).store.parse ⟨0⟩
        (messageText payload (toString i))).2 = .ok (messageFields payload (toString i)) :=
      parse_messageText whole shallow _
    have reread : (served settings payload false i).payload (queuedEnvelope settings) =
        (served settings payload false i).reread ⟨0⟩ (storedOf settings payload i) := rfl
    refine ⟨rfl, rfl, rfl, ?_, ?_⟩
    · rw [reread]
      refine iff_of_false (fun same => reread_fresh text same ?_) Bool.false_ne_true
      exact Nat.zero_lt_succ _
    · rw [reread, reread_value text, parsed]
      rfl

theorem runWith_eq (benchmark : Benchmark) {folder : Folder}
    (loaded : benchmark.loadPayload folder = .ok payload)
    (whole : (Json.object payload).Holds Number.IsInteger)
    (shallow : (Json.object payload).depth ≤ 126) (report : Benchmark → List Sizes → Nat → Report) :
    benchmark.runWith report settings folder =
      .ok (report benchmark ((List.range benchmark.count).map (sizesAt settings payload))
        benchmark.count) := by
  have readable (i : Nat) : isReadable (served settings payload benchmark.retain i) = true := by
    rw [isReadable_eq (linkedAt?_served settings payload benchmark.retain i), ← Option.isSome_map,
      (reads_served whole shallow benchmark.retain i).value]
    rfl
  have all : countReadable ((List.range benchmark.count).map
      (served settings payload benchmark.retain)) = benchmark.count := by
    rw [countReadable, List.countP_eq_length.mpr (by simp [readable]), List.length_map,
      List.length_range]
  have serialized := mapM_map_ok (serialize_produced settings payload benchmark.retain)
    (List.range benchmark.count)
  simp only [runWith, loaded, produce_eq, bind, Except.bind, serialized, pure, Except.pure,
    List.map_map, Function.comp_def]
  rw [all]

-- Each counter is the sum so far, as a word.
theorem foldl_add (sizes : List Sizes) (counters : Counters) :
    sizes.foldl Counters.add counters =
      { compressed := counters.compressed + UInt64.ofNat (sizes.countP (·.zipped))
        wireBytes := counters.wireBytes + UInt64.ofNat (sizes.map (·.wire)).sum
        jsonBytes := counters.jsonBytes + UInt64.ofNat (sizes.map (·.json)).sum } := by
  induction sizes generalizing counters with
  | nil => simp
  | cons first rest ih =>
    have counted : (first :: rest).countP (·.zipped) =
        (if first.zipped then 1 else 0) + rest.countP (·.zipped) := by
      rw [List.countP_cons, Nat.add_comm]
    rw [List.foldl_cons, ih, counted]
    cases zipped : first.zipped <;>
      simp [Counters.add, zipped, UInt64.ofNat_add, UInt64.add_assoc]

theorem reportInWords_eq {benchmark : Benchmark} {sizes : List Sizes} {readable : Nat}
    (fits : (benchmark.reportOf sizes readable).Fits) :
    benchmark.reportInWords sizes readable = benchmark.reportOf sizes readable := by
  obtain ⟨messages, compressed, wireBytes, jsonBytes, readable⟩ := fits
  simp only [reportOf] at messages compressed wireBytes jsonBytes readable
  simp only [reportInWords, reportOf, foldl_add, UInt64.zero_add,
    UInt64.toNat_ofNat_of_lt' messages, UInt64.toNat_ofNat_of_lt' compressed,
    UInt64.toNat_ofNat_of_lt' wireBytes, UInt64.toNat_ofNat_of_lt' jsonBytes,
    UInt64.toNat_ofNat_of_lt' readable]

structure Exact (settings : MessageSettings) (payload : JsonMap) (count : Nat) (report : Report) :
    Prop where
  messages : report.messages = count
  readable : report.readable = count
  jsonBytes : report.jsonBytes = ((List.range count).map (messageSize payload)).sum
  compressed : report.compressed =
    (List.range count).countP (settings.zipThreshold.count.toNat < messageSize payload ·)
  wireBytes : report.wireBytes =
    ((List.range count).map fun i => (storedOf settings payload i).wire.size).sum
  plain : report.compressed = 0 → report.wireBytes = report.jsonBytes

theorem exact_reportOf (benchmark : Benchmark) :
    Exact settings payload benchmark.count
      (benchmark.reportOf ((List.range benchmark.count).map (sizesAt settings payload))
        benchmark.count) := by
  refine
    { messages := rfl
      readable := rfl
      jsonBytes := by simp [reportOf, sizesAt, Function.comp_def]
      compressed := by simp [reportOf, List.countP_map, sizesAt, Function.comp_def]
      wireBytes := by simp [reportOf, sizesAt, Function.comp_def]
      plain := fun none => ?_ }
  have same (i : Nat) (member : i ∈ List.range benchmark.count) :
      (sizesAt settings payload i).wire = (sizesAt settings payload i).json := by
    have unzipped := List.countP_eq_zero.mp none _ (List.mem_map_of_mem member)
    exact wire_sizesAt settings payload i ((Bool.not_eq_true _).mp unzipped)
  simp only [reportOf, List.map_map, Function.comp_def]
  rw [List.map_congr_left same]

/-- The report counts every message exactly, and is the same whether or not the producer holds on to
the payloads. Counters of 64 bits come to the same report where it fits. -/
theorem run_exact {benchmark : Benchmark} {folder : Folder}
    (loaded : benchmark.loadPayload folder = .ok payload)
    (whole : ∀ n ∈ (Json.object payload).numbers, ¬ n.isFloat)
    (shallow : (Json.object payload).depth ≤ 126) (settings : MessageSettings) :
    (∃ report, Exact settings payload benchmark.count report ∧
      (∀ retain, { benchmark with retain }.run settings folder = .ok report) ∧
      (report.Fits → ∀ retain, { benchmark with retain }.runInWords settings folder = .ok report)) ∧
    ∀ retain, ∀ s ∈ { benchmark with retain }.produce settings payload,
      ∃ t sizes, serialize s = .ok (t, sizes) ∧ Reads settings payload retain t := by
  have integers := (inRange_of_loadPayload loaded).isInteger whole
  refine ⟨⟨_, exact_reportOf benchmark, fun retain => ?_, fun fits retain => ?_⟩,
    fun retain s member => ?_⟩
  · exact runWith_eq { benchmark with retain } loaded integers shallow reportOf
  · rw [← reportInWords_eq fits]
    exact runWith_eq { benchmark with retain } loaded integers shallow reportInWords
  · rw [produce_eq] at member
    obtain ⟨i, -, rfl⟩ := List.mem_map.mp member
    exact ⟨_, _, serialize_produced settings payload retain i,
      reads_served integers shallow retain i⟩

def update : JsonMap :=
  [("a", .string "é"), ("b", .array [.number (.int 1), .number (.int (-2))])]

def updateFolder : Folder := ⟨"/", [("update.json", "\x7b\"b\":[1,-2],\"a\":\"é\"\x7d")]⟩

-- Of the numbers only the last one has a second digit.
def updates : Benchmark :=
  { count := 11
    payloadFile := some "update.json"
    retain := false }

theorem run_updates :
    updates.loadPayload updateFolder = .ok update ∧
    ((∀ n ∈ (Json.object update).numbers, ¬ n.isFloat) ∧ (Json.object update).depth ≤ 126) ∧
    ∃ report : Report, report.readable = 11 ∧ report.jsonBytes = 1157 ∧ report.compressed = 1 ∧
      ∀ retain, { updates with retain }.run ⟨⟨105⟩, false⟩ updateFolder = .ok report := by
  have loaded : updates.loadPayload updateFolder = .ok update := by with_unfolding_all rfl
  have fits : (∀ n ∈ (Json.object update).numbers, ¬ n.isFloat) ∧
      (Json.object update).depth ≤ 126 := by decide
  obtain ⟨⟨report, counted, same, -⟩, -⟩ := run_exact loaded fits.1 fits.2 ⟨⟨105⟩, false⟩
  refine ⟨loaded, fits, report, counted.readable, counted.jsonBytes.trans ?_,
    counted.compressed.trans ?_, same⟩
  · decide +kernel
  · decide +kernel

end Bayeux.Benchmark
