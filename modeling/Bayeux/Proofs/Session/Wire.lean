import Bayeux.Proofs.Gzip.Magic
import Bayeux.Proofs.Session.Rendering

set_option autoImplicit false

namespace Bayeux

-- What a receiver makes of the bytes that are sent: it looks at the first two of them only.
def Codec.received (bytes : ByteArray) : Except CodecError ByteArray :=
  if Gzip.hasMagic bytes then gunzip bytes else .ok bytes

structure Carried (text : String) (zipped : Bool) (wire : ByteArray) : Prop where
  plain : zipped = false → wire = text.toUTF8
  member : zipped = true →
    Codec.gunzip wire = .ok text.toUTF8 ∧ Codec.gunzipText wire = .ok text
  magic : Gzip.hasMagic wire = zipped
  received : Codec.received wire = .ok text.toUTF8

theorem carried_plain (text : String) : Carried text false text.toUTF8 :=
  { plain := fun _ => rfl
    member := nofun
    magic := Gzip.hasMagic_toUTF8 text
    received := by rw [Codec.received, Gzip.hasMagic_toUTF8, if_neg Bool.false_ne_true] }

theorem carried_zipped (text : String) : Carried text true (Gzip.compress text.toUTF8) :=
  { plain := nofun
    member := fun _ => ⟨Codec.gunzip_compress _, Codec.gunzipText_compress text⟩
    magic := Gzip.hasMagic_compress _
    received := by rw [Codec.received, Gzip.hasMagic_compress, if_pos rfl, Codec.gunzip_compress] }

theorem Stored.carried (text : String) (threshold : Nat) :
    Carried text (ofText text threshold).isZipped (ofText text threshold).wire := by
  unfold ofText
  split
  · exact carried_zipped text
  · exact carried_plain text

namespace Session

/-- All accessors of an envelope give the text, in the form that the threshold asks for, and leave
the session `t`. -/
structure Delivers (s : Session) (e : Envelope) (text : String) (t : Session) : Prop where
  json : s.json e = (t, .ok text)
  jsonBytes : s.jsonBytes e = (t, .ok text.toUTF8)
  isZipped : e.isZipped t.store = decide (e.threshold.toNat < text.utf8ByteSize)
  wire : ∃ wire, s.wire e = (t, .ok wire) ∧ Carried text (e.isZipped t.store) wire

variable {s t start : Session} {e origin : Envelope} {log : List Attempt} {text : String}

theorem delivers_of_serialize
    (serialized : s.serialize e = (t, .ok (Stored.ofText text e.threshold.toNat)))
    (stored : e.stored? t.store = some (Stored.ofText text e.threshold.toNat)) :
    s.Delivers e text t := by
  have isZipped : e.isZipped t.store = (Stored.ofText text e.threshold.toNat).isZipped := by
    simp only [Envelope.isZipped, stored]
  refine
    { json := by simp [json, serialized, Except.bind]
      jsonBytes := by simp [jsonBytes, serialized, Except.bind]
      isZipped := isZipped.trans (Stored.isZipped_ofText text _)
      wire := ⟨(Stored.ofText text e.threshold.toNat).wire, ?_, ?_⟩ }
  · simp [Session.wire, serialized, Except.map]
  · rw [isZipped]
    exact Stored.carried text _

-- The first text that a codec makes of a snapshot is what is delivered from then on.
theorem delivers_of_generate (wf : s.WellFormed) (live : e ∈ s.liveEnvelopes) {id : SnapshotId}
    (taken : e.snapshot = some id) (bare : (s.store.snapshot id).stored = none)
    (answer : (s.store.generate e.codec (s.toRender id)).2 = .ok text) :
    s.Delivers e text (s.serialize e).1 := by
  have ok := wf.envelopes e live
  have quiet := s.store.generate_advance ok.codec (s.toRender id)
  rcases rendered : s.store.generate e.codec (s.toRender id) with ⟨store, result⟩
  rw [rendered] at answer quiet
  subst answer
  have serialized := serialize_rendered taken bare rendered
  rw [serialized]
  refine delivers_of_serialize serialized ?_
  have has := quiet.has_snapshot (ok.frozen id taken).2.1
  simp only [Envelope.stored?, taken, Option.bind_some, store.snapshot_setSnapshot_self has,
    Snapshot.serialized]

theorem rendering?_append_done {more : List Attempt} (done : rendering? log = some text) :
    rendering? (log ++ more) = some text := by
  rw [rendering?, List.findSome?_append, ← rendering?, done]
  rfl

namespace Carries

variable (carries : Carries start origin s log)
  (taken : e.snapshot = some start.store.nextSnapshot)

include carries taken

theorem threshold (live : e ∈ s.liveEnvelopes) : e.threshold = origin.threshold :=
  congrArg Factory.threshold (carries.settings_eq live taken)

theorem delivers (live : e ∈ s.liveEnvelopes) (done : rendering? log = some text) :
    s.Delivers e text s := by
  have threshold := carries.threshold taken live
  refine delivers_of_serialize (threshold ▸ carries.serialize_done taken done) ?_
  simp [Envelope.stored?, taken, carries.stored, done, threshold]

theorem delivers_first (wf : s.WellFormed) (live : e ∈ s.liveEnvelopes)
    (pending : rendering? log = none)
    (answer : (s.store.generate e.codec (origin.content start.store)).2 = .ok text) :
    s.Delivers e text (s.serialize e).1 ∧
      rendering? (log ++ s.store.attemptsSince (s.serialize e).1.store e.codec) = some text := by
  have has := (wf.envelopes e live).codec
  have bare : (s.store.snapshot start.store.nextSnapshot).stored = none := by
    rw [carries.stored, pending, Option.map_none]
  have fields := carries.toRender live taken pending
  have called := (serialize_pending has taken bare).1
  rw [fields, answer] at called
  constructor
  · exact delivers_of_generate wf live taken bare (fields ▸ answer)
  · rw [Store.attemptsSince, called, rendering?, List.findSome?_append, ← rendering?, pending]
    rfl

end Carries

/-- What a codec has made of a frozen envelope is what all its copies give from then on, as text, in
bytes and on the wire. -/
theorem wire_faithful (steps : List Step) {e : Envelope} (live : e ∈ (reached steps).liveEnvelopes)
    (frozen : e.isFrozen) :
    let s := reached steps
    ∃ freezing : Freezing steps, e.snapshot = some freezing.snapshot ∧
      e.isSerialized s.store = (rendering? freezing.attempts).isSome ∧
      (∀ text, rendering? freezing.attempts = some text → s.Delivers e text s) ∧
      (e.isSerialized s.store = false →
        ∀ text, (s.store.generate e.codec freezing.content).2 = .ok text →
          let t := (s.serialize e).1
          s.Delivers e text t ∧
            ∀ later, ∀ copy ∈ (t.after later).liveEnvelopes, copy.snapshot = e.snapshot →
              copy.threshold = e.threshold ∧ (t.after later).Delivers copy text (t.after later)) := by
  intro s
  obtain ⟨freezing, taken⟩ := exists_freezing steps live frozen
  have carries := freezing.carries
  have wf := reached_wellFormed steps
  have serialized := (carries.renders live taken).isSerialized
  refine ⟨freezing, taken, serialized, fun text => carries.delivers taken live,
    fun unserialized text answer => ?_⟩
  have pending : rendering? freezing.attempts = none := by
    rw [unserialized] at serialized
    simpa using serialized.symm
  obtain ⟨delivers, done⟩ := carries.delivers_first taken wf live pending answer
  refine ⟨delivers, fun later copy live' same => ?_⟩
  have wf' := (serialize_sound wf live).wf
  have carries' := (carries.serialize wf live taken).after wf' later
  have taken' := same.trans taken
  exact ⟨(carries'.threshold taken' live').trans (carries.threshold taken live).symm,
    carries'.delivers taken' live' (rendering?_append_done done)⟩

-- The text has fewer characters than the threshold allows bytes, and begins with a byte of the magic.
def wiredRun : List Step :=
  [.newCodec "codec" [.text "\x1fé"] [],
    .newMessage "message" [("data", .string "payload")],
    .envelopeOf "envelope" "message" "codec" 2 false,
    .freeze "envelope"]

def wiredEnvelope : Envelope :=
  { Envelope.new 0 2 false ⟨0⟩ with
    payload := .weak ⟨0⟩
    snapshot := some ⟨0⟩ }

theorem wiredRun_faithful :
    let s := reached wiredRun
    (wiredEnvelope ∈ s.liveEnvelopes ∧ wiredEnvelope.isFrozen) ∧
      let t := (s.serialize wiredEnvelope).1
      wiredEnvelope.isZipped t.store = true ∧ s.Delivers wiredEnvelope "\x1fé" t := by
  have live : wiredEnvelope ∈ (reached wiredRun).liveEnvelopes := by decide +kernel
  obtain ⟨freezing, taken, -, -, first⟩ := wire_faithful wiredRun live rfl
  have delivers := (first (by decide +kernel) "\x1fé" rfl).1
  exact ⟨⟨live, rfl⟩, delivers.isZipped.trans (by decide), delivers⟩

end Session

end Bayeux
