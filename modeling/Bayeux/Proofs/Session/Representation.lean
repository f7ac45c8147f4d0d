import Bayeux.Proofs.Gzip.Container
import Bayeux.Proofs.Session.Freezing

set_option autoImplicit false

namespace Bayeux

namespace Slot

def Writable (store : Store) : Slot → Prop
  | .absent | .null => True
  | .live ref => (store.value ref).isNull = false
  | .weak _ => False

-- The payload of a snapshot that is still to be rendered. What was missing is left out where nulls
-- are ignored, and written as null elsewhere.
def Unrendered (store : Store) (ignoreNull : Bool) : Slot → Prop
  | .absent => ignoreNull = true
  | .null => ignoreNull = false
  | .live ref => (store.value ref).isNull = false
  | .weak _ => False

def Released : Slot → Prop
  | .live _ => False
  | .absent | .null | .weak _ => True

variable {store : Store} {slot : Slot}

theorem writable_iff : slot.Writable store ↔
    slot.watched = [] ∧ ∀ ref ∈ slot.owned, (store.value ref).isNull = false := by
  cases slot <;> simp [Writable, watched, owned]

theorem released_iff : slot.Released ↔ slot.owned = [] := by
  cases slot <;> simp [Released, owned]

theorem released_downgrade (slot : Slot) : slot.downgrade.Released :=
  released_iff.mpr slot.owned_downgrade

theorem Writable.advance {effect : Effect} {later : Store} (writable : slot.Writable store)
    (step : Store.Advance effect store later) (listed : ∀ ref ∈ slot.owned, store.HasValue ref) :
    slot.Writable later := by
  cases slot with
  | absent | null | weak => exact writable
  | live ref =>
    have has := listed ref (List.mem_singleton_self ref)
    exact (step.isNull_value has).trans writable

end Slot

/-- The stored form of a text: as it is up to the threshold, and above it as a member for its bytes. -/
structure Stored.FormOf (text : String) (threshold : Nat) (stored : Stored) : Prop where
  asText : stored.text = .ok text
  asBytes : stored.bytes = .ok text.toUTF8
  plain : stored = .plain text ↔ text.utf8ByteSize ≤ threshold
  zipped : (∃ bytes, stored = .zipped bytes ∧ Gzip.IsMember bytes text.toUTF8) ↔
    threshold < text.utf8ByteSize

theorem Stored.formOf_ofText (text : String) (threshold : Nat) :
    (ofText text threshold).FormOf text threshold := by
  refine ⟨text_ofText text threshold, bytes_ofText text threshold, ?_, ?_⟩ <;> unfold ofText
  · split
    next long => simp [Nat.not_le.mpr long]
    next short => simp [Nat.le_of_not_lt short]
  · split
    next long => exact ⟨fun _ => long, fun _ => ⟨_, rfl, Gzip.isMember_compress _⟩⟩
    next short => simp [short]

structure Snapshot.KeptBy (settings : Factory) (store : Store) (snapshot : Snapshot) : Prop where
  apart : snapshot.fields.get? FieldName.data = none
  unrendered : snapshot.stored = none → snapshot.payload.Unrendered store settings.ignoreNull
  released : snapshot.stored.isSome → snapshot.payload.Released
  form : ∀ stored, snapshot.stored = some stored →
    ∃ text, stored.FormOf text settings.threshold.toNat

namespace Envelope

variable {store : Store} {e : Envelope}

theorem WellFormed.writable (ok : e.WellFormed store) (open_ : e.snapshot = none) :
    e.payload.Writable store :=
  Slot.writable_iff.mpr (ok.unfrozen open_)

theorem unrendered_frozenPayload (writable : e.payload.Writable store) :
    e.frozenPayload.Unrendered store e.ignoreNull := by
  cases payload : e.payload with
  | absent | null =>
    cases ignored : e.ignoreNull <;> simp [frozenPayload, payload, ignored, Slot.Unrendered]
  | live ref => simpa [frozenPayload, payload, Slot.Unrendered, Slot.Writable] using writable
  | weak ref => simp [payload, Slot.Writable] at writable

end Envelope

namespace Freezing

open Session

variable {steps : List Step} (freezing : Freezing steps)

theorem unrendered : freezing.origin.frozenPayload.Unrendered (reached steps).store
    freezing.origin.ignoreNull := by
  have ok := freezing.origin_wellFormed
  have writable := ok.writable freezing.origin_open
  refine Envelope.unrendered_frozenPayload (writable.advance freezing.advance.store fun ref owned => ?_)
  exact ok.payload ref (List.mem_append_left _ owned)

theorem keptBy : ((reached steps).store.snapshot freezing.snapshot).KeptBy freezing.origin.settings
    (reached steps).store := by
  rw [freezing.snapshot_now]
  cases rendering? freezing.attempts with
  | none =>
    exact
      { apart := freezing.origin_wellFormed.apart
        unrendered := fun _ => freezing.unrendered
        released := nofun
        form := nofun }
  | some text =>
    exact
      { apart := freezing.origin_wellFormed.apart
        unrendered := nofun
        released := fun _ => Slot.released_downgrade _
        form := fun stored here => by
          obtain rfl := Option.some.inj here
          exact ⟨text, Stored.formOf_ofText text _⟩ }

end Freezing

namespace Session

/-- How the envelopes of a session and their snapshots are kept. All envelopes that have a snapshot
have the settings it was taken with. -/
structure Represented (s : Session) : Prop where
  apart : ∀ e ∈ s.liveEnvelopes, e.fields.get? FieldName.data = none
  unfrozen : ∀ e ∈ s.liveEnvelopes, e.isFrozen = false → e.payload.Writable s.store
  frozen : ∀ e ∈ s.liveEnvelopes, ∀ id, e.snapshot = some id → e.payload.Released ∧
    s.store.HasSnapshot id ∧ e.fields = (s.store.snapshot id).fields
  -- A snapshot stays listed when no envelope has it any more.
  snapshots : ∀ id, s.store.HasSnapshot id → ∃ settings : Factory,
    (s.store.snapshot id).KeptBy settings s.store ∧
    ∀ e ∈ s.liveEnvelopes, e.snapshot = some id → e.settings = settings

/-- After any steps payloads are apart from the fields, a frozen envelope and a rendered snapshot hold
theirs at most weakly, and the threshold has decided on every stored form. -/
theorem reached_represented (steps : List Step) : (reached steps).Represented := by
  have ok := (reached_wellFormed steps).envelopes
  constructor
  case apart => exact fun e live => (ok e live).apart
  case unfrozen =>
    exact fun e live open_ => (ok e live).writable ((e.isFrozen_eq_false_iff).mp open_)
  case frozen =>
    intro e live id taken
    obtain ⟨owned, has, captured⟩ := (ok e live).frozen id taken
    exact ⟨Slot.released_iff.mpr owned, has, captured.fields.symm⟩
  case snapshots =>
    intro id has
    obtain ⟨freezing, rfl⟩ := freezing_of_snapshot steps has
    exact ⟨freezing.origin.settings, freezing.keptBy, fun e => freezing.carries.settings_eq⟩

-- The envelope holds its payload weakly at once, the snapshot once the second attempt succeeds.
example :
    let payloads (attempts : Nat) :=
      let s := (reached frozenRun).after (.replicate attempts (.render "envelope" 0 .text))
      ((s.envelopes.get? "envelope").map (·.envelope.payload), (s.store.snapshot ⟨0⟩).payload)
    [0, 1, 2].map payloads =
      [(some (.weak ⟨0⟩), .live ⟨0⟩), (some (.weak ⟨0⟩), .live ⟨0⟩),
        (some (.weak ⟨0⟩), .weak ⟨0⟩)] := by decide +kernel

end Session

end Bayeux
