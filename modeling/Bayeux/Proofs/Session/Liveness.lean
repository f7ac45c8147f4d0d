import Bayeux.Proofs.Session.Releasing

set_option autoImplicit false

namespace Bayeux

namespace Session

/-- What keeps a value alive after the steps: a payload is held by its envelope until that is frozen,
then by the snapshot until an attempt to render it succeeds. -/
inductive Held (steps : List Step) (ref : Ref) : Prop where
  | handle (held : ref ∈ (reached steps).handles.values)
  | message {message : Message} (listed : message ∈ (reached steps).messages.values)
    (held : ref ∈ message.fields.values)
  | field {e : Envelope} {key : String} (live : e ∈ (reached steps).liveEnvelopes)
    (other : key ≠ FieldName.data) (held : e.fields.get? key = some ref)
  | captured {e : Envelope} {key : String} (live : e ∈ (reached steps).liveEnvelopes)
    (freezing : Freezing steps) (taken : e.snapshot = some freezing.snapshot)
    (other : key ≠ FieldName.data)
    (held : ((reached steps).store.snapshot freezing.snapshot).fields.get? key = some ref)
  | payload {e : Envelope} (live : e ∈ (reached steps).liveEnvelopes) (unfrozen : e.isFrozen = false)
    (held : e.payload = .live ref)
  | pending {e : Envelope} (live : e ∈ (reached steps).liveEnvelopes) (freezing : Freezing steps)
    (taken : e.snapshot = some freezing.snapshot) (pending : rendering? freezing.attempts = none)
    (held : freezing.origin.payload = .live ref)

end Session

namespace Freezing

open Session

variable {steps : List Step} (freezing : Freezing steps)

structure Pins (e : Envelope) : Prop where
  envelope : e.payload.owned = []
  pending : rendering? freezing.attempts = none →
    ((reached steps).store.snapshot freezing.snapshot).payload.owned = freezing.origin.payload.owned
  rendered : (rendering? freezing.attempts).isSome →
    ((reached steps).store.snapshot freezing.snapshot).payload.owned = []
  apart : e.fields.get? FieldName.data = none ∧
    ((reached steps).store.snapshot freezing.snapshot).fields.get? FieldName.data = none

theorem owned_pending (pending : rendering? freezing.attempts = none) :
    ((reached steps).store.snapshot freezing.snapshot).payload.owned =
      freezing.origin.payload.owned := by
  rw [freezing.snapshot_now, pending]
  exact freezing.origin.owned_frozenPayload

theorem pins {e : Envelope} (live : e ∈ (reached steps).liveEnvelopes)
    (taken : e.snapshot = some freezing.snapshot) : freezing.Pins e := by
  have ok := (reached_wellFormed steps).envelopes e live
  obtain ⟨owned, -, captured⟩ := ok.frozen _ taken
  refine ⟨owned, freezing.owned_pending, fun done => ?_, ok.apart, captured.fields ▸ ok.apart⟩
  obtain ⟨text, rendered⟩ := Option.isSome_iff_exists.mp done
  exact freezing.owned_rendered rendered

end Freezing

namespace Session

variable {steps : List Step} {ref : Ref}

theorem isAlive_iff {s : Session} : s.isAlive ref ↔ ref ∈ s.owners := by
  simp [isAlive]

theorem eq_live_of_owned {slot : Slot} (held : ref ∈ slot.owned) : slot = .live ref := by
  cases slot <;> simp_all [Slot.owned]

theorem held_of_envelope {e : Envelope} (live : e ∈ (reached steps).liveEnvelopes)
    (owned : ref ∈ e.owned (reached steps).store) : Held steps ref := by
  have ok := (reached_wellFormed steps).envelopes e live
  have named (held : ref ∈ e.fields.values) :
      ∃ key, key ≠ FieldName.data ∧ e.fields.get? key = some ref := by
    obtain ⟨key, found⟩ := (Table.mem_values_iff ok.fields.sorted ref).mp held
    refine ⟨key, ?_, found⟩
    rintro rfl
    exact nomatch found.symm.trans ok.apart
  cases taken : e.snapshot with
  | none =>
    rcases (Envelope.mem_owned_open taken).mp owned with field | payload
    · obtain ⟨key, other, found⟩ := named field
      exact .field live other found
    · exact .payload live ((e.isFrozen_eq_false_iff).mpr taken) (eq_live_of_owned payload)
  | some id =>
    obtain ⟨none, -, captured⟩ := ok.frozen id taken
    simp only [Envelope.owned, taken, none, Snapshot.owned, captured.fields, List.append_nil,
      List.mem_append] at owned
    rcases owned with field | field | payload
    · obtain ⟨key, other, found⟩ := named field
      exact .field live other found
    · obtain ⟨key, other, found⟩ := named field
      exact .field live other found
    · obtain ⟨freezing, same⟩ := exists_freezing steps live ((e.isFrozen_iff).mpr ⟨id, taken⟩)
      rw [Option.some.inj (taken.symm.trans same)] at payload
      cases pending : rendering? freezing.attempts with
      | none =>
        rw [freezing.owned_pending pending] at payload
        exact .pending live freezing same pending (eq_live_of_owned payload)
      | some text =>
        rw [freezing.owned_rendered pending] at payload
        exact absurd payload List.not_mem_nil

theorem Held.owned (held : Held steps ref) : ref ∈ (reached steps).owners := by
  cases held with
  | handle held => exact owned_by_handle held
  | message listed held => exact owned_by_message listed held
  | field live other held =>
    refine owned_by_envelope live ?_
    exact List.mem_append_left _ (List.mem_append_left _ (Table.mem_values_of_get? held))
  | captured live freezing taken other held =>
    refine owned_by_envelope live ?_
    simp only [Envelope.owned, taken, Snapshot.owned, List.mem_append]
    exact .inr (.inl (Table.mem_values_of_get? held))
  | payload live unfrozen held =>
    refine owned_by_envelope live ?_
    rw [Envelope.mem_owned_open ((Envelope.isFrozen_eq_false_iff _).mp unfrozen), held]
    exact .inr (List.mem_singleton_self ref)
  | pending live freezing taken pending held =>
    refine owned_by_envelope live ?_
    simp only [Envelope.owned, taken, Snapshot.owned, freezing.owned_pending pending, held,
      List.mem_append]
    exact .inr (.inr (List.mem_singleton_self ref))

/-- A value is alive as long as something holds it. A payload is let go of when its snapshot is
rendered; no other step lets a value go but one that drops or replaces a holder, and what is gone
stays gone. -/
theorem liveness (steps : List Step) :
    let s := reached steps
    (∀ e ∈ s.liveEnvelopes, e.isFrozen →
      ∃ freezing : Freezing steps, e.snapshot = some freezing.snapshot) ∧
    (∀ freezing : Freezing steps, ∀ e ∈ s.liveEnvelopes, e.snapshot = some freezing.snapshot →
      freezing.Pins e ∧ ∀ form, freezing.AsksOnce e form) ∧
    ∀ ref, (s.isAlive ref ↔ Held steps ref) ∧
      (∀ probe, s.probes.get? probe = some ref →
        (s.step (.askProbe probe)).2 = .flag (s.isAlive ref) ∧
        (s.isAlive ref = false → ∀ later, (s.after later).isAlive ref = false)) ∧
      ∀ step, s.isAlive ref → (s.step step).1.isAlive ref = false → s.Releases ref step := by
  have wf := reached_wellFormed steps
  refine ⟨fun e => exists_freezing steps,
    fun freezing e live taken => ⟨freezing.pins live taken, freezing.asksOnce live taken⟩,
    fun ref => ⟨⟨fun alive => ?_, fun held => ?_⟩, fun probe found => ⟨?_, fun gone later => ?_⟩,
      fun step => releases_of_dead wf⟩⟩
  · rcases WellFormed.mem_owners.mp (isAlive_iff.mp alive) with
      handle | ⟨message, listed, held⟩ | ⟨e, live, held⟩
    · exact .handle handle
    · exact .message listed held
    · exact held_of_envelope live held
  · exact isAlive_iff.mpr held.owned
  · simp only [Session.step, found]
  · have dead : (reached steps).IsDead ref :=
      ⟨wf.probes ref (Table.mem_values_of_get? found), by simpa [isAlive] using gone⟩
    simpa [isAlive] using (dead.after wf later).2

-- The codec fails once: only the second attempt lets go of the payload.
example :
    let frozen : List Step :=
      [.newCodec "codec" [.fail .utf8] [], .newMessage "message" [("data", .string "payload")],
        .envelopeOf "envelope" "message" "codec" 1000 false, .freeze "envelope",
        .dropMessage "message"]
    let render : Step := .render "envelope" 0 .text
    [frozen, frozen ++ [render], frozen ++ [render, render]].map
      (fun steps => (reached steps).isAlive ⟨0⟩) = [true, true, false] := by decide +kernel

end Session

end Bayeux
