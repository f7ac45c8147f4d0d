import Bayeux.Proofs.Session.Envelopes

set_option autoImplicit false

namespace Bayeux.Session

variable {s : Session} {e : Envelope}

theorem serialize_unfrozen (open_ : e.snapshot = none) : s.serialize e = (s, .error .notFrozen) := by
  simp only [serialize, open_]

theorem serialize_stored {id : SnapshotId} {stored : Stored} (taken : e.snapshot = some id)
    (done : (s.store.snapshot id).stored = some stored) : s.serialize e = (s, .ok stored) := by
  simp only [serialize, taken, done]

def toRender (s : Session) (id : SnapshotId) : JsonMap :=
  s.store.snapshotFields s.isAlive (s.store.snapshot id)

theorem serialize_failed {id : SnapshotId} {store : Store} {error : CodecError}
    (taken : e.snapshot = some id) (bare : (s.store.snapshot id).stored = none)
    (failed : s.store.generate e.codec (s.toRender id) = (store, .error error)) :
    s.serialize e = ({ s with store }, .error (.codec error)) := by
  simp only [toRender] at failed
  simp only [serialize, taken, bare, failed]

theorem serialize_rendered {id : SnapshotId} {store : Store} {text : String}
    (taken : e.snapshot = some id) (bare : (s.store.snapshot id).stored = none)
    (rendered : s.store.generate e.codec (s.toRender id) = (store, .ok text)) :
    let stored := Stored.ofText text e.threshold.toNat
    let snapshot := (s.store.snapshot id).serialized stored
    s.serialize e = ({ s with store := store.setSnapshot id snapshot }, .ok stored) := by
  simp only [toRender] at rendered
  simp only [serialize, taken, bare, rendered]

def renderEffect (e : Envelope) : Effect :=
  { Effect.quiet with
    serializes := fun id => e.snapshot = some id
    generates := True }

theorem serialize_sound (wf : s.WellFormed) (live : e ∈ s.liveEnvelopes) :
    Sound (renderEffect e) s (s.serialize e).1 := by
  have ok := wf.envelopes e live
  cases taken : e.snapshot with
  | none =>
    rw [serialize_unfrozen taken]
    exact .refl _ wf
  | some id =>
    obtain ⟨-, has, captured⟩ := ok.frozen id taken
    cases bare : (s.store.snapshot id).stored with
    | some stored =>
      rw [serialize_stored taken bare]
      exact .refl _ wf
    | none =>
      have called := s.store.generate_advance ok.codec (s.toRender id)
      have asked : Effect.Within { Effect.quiet with generates := True } (renderEffect e) :=
        ⟨fun _ => False.elim, fun _ => False.elim, fun _ => trivial, False.elim⟩
      rcases answer : s.store.generate e.codec (s.toRender id) with ⟨store, error | text⟩
      · rw [answer] at called
        rw [serialize_failed taken bare answer]
        exact (store_sound wf called fun _ => False.elim).weaken asked
      · rw [answer] at called
        rw [serialize_rendered taken bare answer]
        have kept : store.snapshot id = s.store.snapshot id := called.snapshot_same has False.elim
        have stored : Store.Advance (renderEffect e) store (store.setSnapshot id
            ((s.store.snapshot id).serialized (Stored.ofText text e.threshold.toNat))) := by
          rw [← kept] at bare ⊢
          exact (store.setSnapshot_advance (called.has_snapshot has) bare _).weaken
            ⟨fun _ => False.elim, fun other (same : other = id) => same ▸ taken, False.elim,
              False.elim⟩
        refine advance_sound wf ((called.weaken asked).trans stored) fun other member id' taken' => ?_
        obtain ⟨-, has', captured'⟩ := (wf.envelopes other member).frozen id' taken'
        by_cases same : id' = id
        · subst same
          have twin : e.core = other.core :=
            wf.twins e live other member ((e.isFrozen_iff).mpr ⟨id', taken⟩) (taken.trans taken'.symm)
          rw [store.snapshot_setSnapshot_self (called.has_snapshot has)]
          exact (captured.serialized text).of_core_eq twin
        · rw [store.snapshot_setSnapshot_of_ne same, called.snapshot_same has' False.elim]
          exact captured'

@[simp] theorem json_fst : (s.json e).1 = (s.serialize e).1 := rfl

@[simp] theorem jsonBytes_fst : (s.jsonBytes e).1 = (s.serialize e).1 := rfl

@[simp] theorem wire_fst : (s.wire e).1 = (s.serialize e).1 := rfl

@[simp] theorem render_fst (form : Form) : (s.render e form).1 = (s.serialize e).1 := by
  cases form with
  | text =>
    rw [← json_fst, render]
    rcases s.json e with ⟨t, answer⟩
    cases answer <;> rfl
  | bytes =>
    rw [← jsonBytes_fst, render]
    rcases s.jsonBytes e with ⟨t, answer⟩
    cases answer <;> rfl
  | wire =>
    rw [← wire_fst, render]
    rcases s.wire e with ⟨t, answer⟩
    cases answer <;> rfl

theorem serialize_eq : ∃ store, (s.serialize e).1 = { s with store } := by
  cases taken : e.snapshot with
  | none => exact ⟨s.store, by rw [serialize_unfrozen taken]⟩
  | some id =>
    cases bare : (s.store.snapshot id).stored with
    | some stored => exact ⟨s.store, by rw [serialize_stored taken bare]⟩
    | none =>
      rcases answer : s.store.generate e.codec (s.toRender id) with ⟨store, error | text⟩
      · exact ⟨store, by rw [serialize_failed taken bare answer]⟩
      · exact ⟨_, by rw [serialize_rendered taken bare answer]⟩

@[simp] theorem live_serialize : (s.serialize e).1.liveEnvelopes = s.liveEnvelopes := by
  obtain ⟨store, same⟩ := serialize_eq (s := s) (e := e)
  rw [same]
  rfl

theorem renderTimes_sound (wf : s.WellFormed) (live : e ∈ s.liveEnvelopes) (workers : Nat) :
    Sound (renderEffect e) s (s.renderTimes e workers).1 := by
  induction workers generalizing s with
  | zero => exact .refl _ wf
  | succ workers ih =>
    have first := serialize_sound wf live
    exact first.trans (ih first.wf (by simpa using live))

theorem reread_sound (wf : s.WellFormed) {codec : CodecId} (has : s.store.HasCodec codec)
    (stored : Stored) : Sound .quiet s (s.reread codec stored).1 := by
  unfold reread
  split
  · exact report_sound wf _ _
  next text _ =>
    have parsed := quiet_sound wf (s.store.parse_advance has text)
    split
    next store answer split =>
      simp only [split] at parsed
      split
      · exact parsed.trans (report_sound parsed.wf _ _)
      · split
        · exact parsed
        · split
          · exact parsed
          next v _ _ => exact parsed.trans (alloc_sound parsed.wf v)

theorem payload_sound (wf : s.WellFormed) (live : e ∈ s.liveEnvelopes) :
    Sound .quiet s (s.payload e).1 := by
  unfold payload
  split
  · exact .refl _ wf
  · dsimp only
    split
    · exact .refl _ wf
    · split
      · exact .refl _ wf
      · exact reread_sound wf (wf.envelopes e live).codec _

theorem getField_sound (wf : s.WellFormed) (live : e ∈ s.liveEnvelopes) (key : String) :
    Sound .quiet s (s.getField e key).1 := by
  unfold getField
  split
  · exact payload_sound wf live
  · exact .refl _ wf

theorem reread_listed (codec : CodecId) (stored : Stored) {ref : Ref}
    (found : (s.reread codec stored).2 = some ref) :
    (s.reread codec stored).1.store.HasValue ref := by
  revert found
  unfold reread
  split
  · simp
  · dsimp only
    split
    · simp
    · split
      · simp
      · split
        · simp
        next v _ _ =>
          intro found
          simp only [Option.some.injEq] at found
          exact found ▸ Store.has_value_alloc _ v

theorem payload_listed (wf : s.WellFormed) (live : e ∈ s.liveEnvelopes) {ref : Ref}
    (found : (s.payload e).2 = some ref) : (s.payload e).1.store.HasValue ref := by
  revert found
  unfold payload
  split
  next open_ =>
    exact fun found => (wf.envelopes e live).payload ref (Slot.listed_of_upgrade found)
  next id taken =>
    dsimp only
    split
    next other here =>
      intro found
      have kept := Slot.listed_of_upgrade here
      rw [Option.some.inj found] at kept
      apply wf.listed_envelope live
      simp only [Envelope.owned, Envelope.watched, taken, Snapshot.owned]
      simp only [List.mem_append] at kept ⊢
      exact kept.elim (fun owned => .inl (.inr (.inr owned))) fun watched => .inr (.inr watched)
    next =>
      split
      · simp
      · exact reread_listed e.codec _

theorem getField_listed (wf : s.WellFormed) (live : e ∈ s.liveEnvelopes) (key : String) {ref : Ref}
    (found : (s.getField e key).2 = some ref) : (s.getField e key).1.store.HasValue ref := by
  revert found
  unfold getField
  split
  · exact payload_listed wf live
  · exact fun found => (wf.envelopes e live).fields.get? found

end Bayeux.Session
