import Bayeux.Proofs.Session.Frame
import Bayeux.Proofs.Session.Reclaimed

set_option autoImplicit false

namespace Bayeux

def Holder.drop : Holder → Step
  | .handle name => .dropHandle name
  | .message name => .dropMessage name
  | .envelope name => .dropEnvelope name

theorem Holder.writes_drop (holder : Holder) : holder.drop.writes = [holder] := by
  cases holder <;> rfl

/-- A part of what a worker does with an envelope that all of them have, or a holder that is
dropped. Who renders has the payload to itself until it lets go of it, but stores what it has
rendered later; who reads looks for the payload first and for the stored form later. -/
inductive Move where
  | render (worker : Nat)
  | store (worker : Nat)
  | look (worker : Nat) (into : Option String)
  | reread (worker : Nat) (into : Option String)
  | drop (holder : Holder)

namespace Session

-- The first part of serializing.
def renderSlot (s : Session) (e : Envelope) (id : SnapshotId) :
    Session × Except CodecError Stored :=
  let snapshot := s.store.snapshot id
  let fields := s.store.snapshotFields s.isAlive snapshot
  let (store, result) := s.store.generate e.codec fields
  match result with
  | .error error => ({ s with store }, .error error)
  | .ok text =>
    let snapshot := { snapshot with payload := snapshot.payload.downgrade }
    ({ s with store := store.setSnapshot id snapshot }, .ok (Stored.ofText text e.threshold.toNat))

-- The second part: from now on the stored form is seen.
def publish (s : Session) (id : SnapshotId) (stored : Stored) : Session :=
  let snapshot := s.store.snapshot id
  { s with store := s.store.setSnapshot id { snapshot with stored := some stored } }

end Session

structure Crew where
  session : Session
  name : String
  envelope : Envelope
  snapshot : SnapshotId
  -- Who has rendered the snapshot and not stored it yet.
  storing : Option (Nat × Stored)
  -- Who has looked for the payload and not found it.
  missed : List Nat

namespace Crew

def start (s : Session) (name : String) (e : Envelope) (id : SnapshotId) : Crew :=
  ⟨s, name, e, id, none, []⟩

def captured (c : Crew) : Snapshot := c.session.store.snapshot c.snapshot

def isBusy (c : Crew) (worker : Nat) : Bool :=
  c.missed.contains worker || c.storing.any (·.1 = worker)

/-- A move, and what was read where a worker has read the payload. A move that a worker cannot make,
or that has to wait, changes nothing. -/
def move (c : Crew) : Move → Crew × Option (Option Ref)
  | .render worker =>
    if c.isBusy worker then (c, none)
    else
      match c.storing, c.captured.stored with
      | none, none =>
        match c.session.renderSlot c.envelope c.snapshot with
        | (session, .error _) => ({ c with session }, none)
        | (session, .ok stored) => ({ c with session, storing := some (worker, stored) }, none)
      | _, _ => (c, none)
  | .store worker =>
    match c.storing with
    | some (owner, stored) =>
      if owner = worker then
        ({ c with session := c.session.publish c.snapshot stored, storing := none }, none)
      else (c, none)
    | none => (c, none)
  | .look worker into =>
    if c.isBusy worker then (c, none)
    else
      match c.captured.payload.upgrade c.session.isAlive with
      | some ref => ({ c with session := c.session.keep into (some ref) }, some (some ref))
      | none => ({ c with missed := worker :: c.missed }, none)
  | .reread worker into =>
    if c.missed.contains worker then
      let c := { c with missed := c.missed.filter (· ≠ worker) }
      match c.captured.stored with
      | none => (c, some none)
      | some stored =>
        let (session, ref) := c.session.reread c.envelope.codec stored
        ({ c with session := session.keep into ref }, some ref)
    else (c, none)
  | .drop holder =>
    if holder = .envelope c.name then (c, none)
    else ({ c with session := (c.session.step holder.drop).1 }, none)

def after (c : Crew) : List Move → Crew
  | [] => c
  | first :: rest => (c.move first).1.after rest

-- The session as if all that is rendered was stored.
def settled (c : Crew) : Session :=
  match c.storing with
  | some (_, stored) => c.session.publish c.snapshot stored
  | none => c.session

end Crew

namespace Session

variable {s : Session} {e : Envelope} {id : SnapshotId} {stored : Stored}

theorem publish_renderSlot (taken : e.snapshot = some id) (has : s.store.HasSnapshot id)
    (hasCodec : s.store.HasCodec e.codec) (bare : (s.store.snapshot id).stored = none) :
    s.serialize e =
      match s.renderSlot e id with
      | (t, .error error) => (t, .error (.codec error))
      | (t, .ok stored) => (t.publish id stored, .ok stored) := by
  have kept := (s.store.generate_advance hasCodec (s.toRender id)).has_snapshot has
  rcases called : s.store.generate e.codec (s.toRender id) with ⟨store, error | text⟩
  · rw [serialize_failed taken bare called]
    rw [toRender] at called
    simp only [renderSlot, called]
  · rw [serialize_rendered taken bare called]
    rw [called] at kept
    rw [toRender] at called
    simp only [renderSlot, called, publish, store.snapshot_setSnapshot_self kept]
    simp [Store.setSnapshot, Snapshot.serialized]

theorem stored_renderSlot (has : s.store.HasSnapshot id) (hasCodec : s.store.HasCodec e.codec) :
    ((s.renderSlot e id).1.store.snapshot id).stored = (s.store.snapshot id).stored := by
  have called := s.store.generate_advance hasCodec (s.toRender id)
  have kept := called.has_snapshot has
  have same := called.snapshot_same has False.elim
  unfold toRender at called kept same
  simp only [renderSlot]
  split
  · rw [same]
  · rw [Store.snapshot_setSnapshot_self _ kept]

-- A stored form is all that becomes known.
theorem snapshot_publish (other : SnapshotId) : ∃ known,
    (s.publish id stored).store.snapshot other = { s.store.snapshot other with stored := known } := by
  by_cases same : other = id
  · subst same
    by_cases has : s.store.HasSnapshot other
    · exact ⟨some stored, s.store.snapshot_setSnapshot_self has _⟩
    · have out : s.store.snapshots.size ≤ other.index := by simpa [Store.HasSnapshot] using has
      exact ⟨(s.store.snapshot other).stored, by
        simp [publish, Store.setSnapshot, Store.snapshot, out]⟩
  · exact ⟨(s.store.snapshot other).stored, s.store.snapshot_setSnapshot_of_ne same _⟩

theorem step_readPayload {name : String} {chain : List Envelope}
    (found : s.envelopes.get? name = some ⟨e, chain⟩) (into : Option String) :
    (s.step (.readField name 0 FieldName.data into)).1 =
      (s.payload e).1.keep into (s.payload e).2 := by
  rw [Session.step, withEnvelope_found ((linkedAt?_zero name).trans found)]
  rfl

theorem payload_publish (other : SnapshotId) :
    ((s.publish id stored).store.snapshot other).payload = (s.store.snapshot other).payload := by
  obtain ⟨known, same⟩ : ∃ known, (s.publish id stored).store.snapshot other = _ :=
    snapshot_publish other
  rw [same]

theorem isAlive_publish : (s.publish id stored).isAlive = s.isAlive := by
  have owned : Envelope.owned (s.publish id stored).store = Envelope.owned s.store := by
    funext e
    cases taken : e.snapshot with
    | none => simp only [Envelope.owned, taken]
    | some other =>
      obtain ⟨known, same⟩ : ∃ known, (s.publish id stored).store.snapshot other = _ :=
        snapshot_publish other
      simp only [Envelope.owned, taken, same, Snapshot.owned]
  funext ref
  rw [isAlive, isAlive, owners, owners, owned]
  rfl

theorem keep_publish (into : Option String) (ref : Option Ref) :
    (s.keep into ref).publish id stored = (s.publish id stored).keep into ref := by
  cases into <;> cases ref <;> rfl

theorem drop_publish (holder : Holder) : ((s.step holder.drop).1).publish id stored =
    ((s.publish id stored).step holder.drop).1 := by
  cases holder <;> rfl

end Session

namespace Crew

open Session

variable {c : Crew} {chain : List Envelope}

theorem isAlive_settled : c.settled.isAlive = c.session.isAlive := by
  unfold settled
  split
  · exact Session.isAlive_publish
  · rfl

theorem payload_settled : (c.settled.store.snapshot c.snapshot).payload = c.captured.payload := by
  unfold settled
  split
  · exact Session.payload_publish c.snapshot
  · rfl

theorem value_settled (ref : Ref) : c.settled.value ref = c.session.value ref := by
  unfold settled
  split <;> rfl

structure Ready (c : Crew) : Prop where
  taken : c.envelope.snapshot = some c.snapshot
  found : ∃ chain, c.settled.envelopes.get? c.name = some ⟨c.envelope, chain⟩
  -- What is rendered is not seen before it is stored.
  hidden : c.storing.isSome → c.captured.stored = none
  -- What was not found stays away.
  lost : ∀ worker ∈ c.missed, c.captured.payload.upgrade c.session.isAlive = none

theorem Ready.settled_of_stored (ready : c.Ready) {stored : Stored}
    (seen : c.captured.stored = some stored) : c.storing = none ∧ c.settled = c.session := by
  cases storing : c.storing with
  | none => exact ⟨rfl, by simp only [settled, storing]⟩
  | some rendered =>
    have hidden := ready.hidden (by simp [storing])
    exact nomatch seen.symm.trans hidden

-- A move is no other step of the session than one that is made at once, or none.
theorem move_settled (ready : c.Ready) (wf : c.settled.WellFormed) (move : Move) :
    ∃ steps : List Step, (∀ step ∈ steps, .envelope c.name ∉ step.writes) ∧
      (c.move move).1.settled = c.settled.after steps := by
  obtain ⟨chain, found⟩ := ready.found
  have same : ∃ steps : List Step, (∀ step ∈ steps, .envelope c.name ∉ step.writes) ∧
      c.settled = c.settled.after steps := ⟨[], by simp, rfl⟩
  have reads (into : Option String) :
      Holder.envelope c.name ∉ (Step.readField c.name 0 FieldName.data into).writes := by
    simp [Step.writes, Step.handle?, Step.message?, Step.envelope?, Step.target?]
  cases move with
  | render worker =>
    simp only [Crew.move]
    split
    · exact same
    split
    next free bare =>
      have here : c.settled = c.session := by simp only [settled, free]
      have ok := wf.envelopes _ (live_head found)
      rw [here] at found ok ⊢
      have rendered :=
        Session.publish_renderSlot ready.taken (ok.frozen _ ready.taken).2.1 ok.codec bare
      have step :
          (c.session.step (.render c.name 0 .text)).1 = (c.session.serialize c.envelope).1 := by
        rw [Session.step, withEnvelope_found ((linkedAt?_zero _).trans found), render_fst]
      refine ⟨[.render c.name 0 .text], ?_, ?_⟩
      · simp [Step.writes, Step.handle?, Step.message?, Step.envelope?, Step.target?]
      · rw [Session.after_cons, Session.after_nil, step, rendered]
        split <;> simp_all [settled]
    · exact same
  | store worker =>
    simp only [Crew.move]
    split
    next owner stored storing =>
      split
      · refine ⟨[], by simp, ?_⟩
        simp only [settled, storing, Session.after_nil]
      · exact same
    · exact same
  | look worker into =>
    simp only [Crew.move]
    split
    · exact same
    split
    next ref alive =>
      refine ⟨[.readField c.name 0 FieldName.data into], by simpa using reads into, ?_⟩
      have read : c.settled.payload c.envelope = (c.settled, some ref) := by
        simp only [Session.payload, ready.taken, payload_settled, isAlive_settled, alive]
      rw [Session.after_cons, Session.after_nil, step_readPayload found, read]
      unfold settled
      dsimp only
      split
      · exact Session.keep_publish into (some ref)
      · rfl
    · exact same
  | reread worker into =>
    simp only [Crew.move]
    split
    next missed =>
      have lost := ready.lost worker (by simpa using missed)
      split
      next bare => exact ⟨[], by simp, rfl⟩
      next stored seen =>
        obtain ⟨free, here⟩ := ready.settled_of_stored seen
        refine ⟨[.readField c.name 0 FieldName.data into], by simpa using reads into, ?_⟩
        have read : c.session.payload c.envelope = c.session.reread c.envelope.codec stored := by
          have seen' : (c.session.store.snapshot c.snapshot).stored = some stored := seen
          have lost' :
              (c.session.store.snapshot c.snapshot).payload.upgrade c.session.isAlive = none :=
            lost
          simp only [Session.payload, ready.taken, lost', seen']
        rw [here] at found ⊢
        rw [Session.after_cons, Session.after_nil, step_readPayload found, read]
        simp only [settled, free]
    · exact same
  | drop holder =>
    simp only [Crew.move]
    split
    · exact same
    next other =>
      refine ⟨[holder.drop], ?_, ?_⟩
      · simpa [Holder.writes_drop] using Ne.symm other
      · rw [Session.after_cons, Session.after_nil]
        unfold settled
        dsimp only
        split
        · exact Session.drop_publish holder
        · rfl

theorem move_name (move : Move) : (c.move move).1.name = c.name ∧
    (c.move move).1.envelope = c.envelope ∧ (c.move move).1.snapshot = c.snapshot := by
  cases move <;> simp only [Crew.move] <;> (repeat' split) <;> exact ⟨rfl, rfl, rfl⟩

theorem after_envelope (moves : List Move) : (c.after moves).envelope = c.envelope := by
  induction moves generalizing c with
  | nil => rfl
  | cons first rest ih => exact (ih (c := (c.move first).1)).trans (move_name first).2.1

theorem missed_move {worker : Nat} {move : Move} (missed : worker ∈ (c.move move).1.missed) :
    worker ∈ c.missed ∨ c.captured.payload.upgrade c.session.isAlive = none := by
  cases move with
  | look other into =>
    simp only [Crew.move] at missed
    split at missed
    · exact .inl missed
    split at missed
    · exact .inl missed
    next lost => exact .inr lost
  | reread other into =>
    simp only [Crew.move] at missed
    split at missed
    · left
      split at missed <;> exact (List.mem_filter.mp missed).1
    · exact .inl missed
  | render | store | drop =>
    simp only [Crew.move] at missed
    revert missed
    (repeat' split) <;> exact fun missed => .inl missed

theorem Ready.hidden_move (ready : c.Ready) (wf : c.settled.WellFormed) (move : Move)
    (storing : (c.move move).1.storing.isSome) : (c.move move).1.captured.stored = none := by
  revert storing
  have same : c.storing.isSome → c.captured.stored = none := ready.hidden
  cases move with
  | render worker =>
    simp only [Crew.move]
    split
    · exact same
    split
    next free bare =>
      obtain ⟨chain, found⟩ := ready.found
      have ok := wf.envelopes _ (live_head found)
      have here : c.settled = c.session := by simp only [settled, free]
      rw [here] at ok
      have kept := stored_renderSlot (ok.frozen _ ready.taken).2.1 ok.codec
      rw [show (c.session.store.snapshot c.snapshot).stored = none from bare] at kept
      split
      next => simp [free]
      next rendered =>
        rw [rendered] at kept
        exact fun _ => kept
    · exact same
  | store worker =>
    simp only [Crew.move]
    split
    · split
      · simp
      · exact same
    · exact same
  | look worker into =>
    simp only [Crew.move]
    split
    · exact same
    split
    · cases into <;> exact same
    · exact same
  | reread worker into =>
    simp only [Crew.move]
    split
    · split
      · exact same
      next seen => exact fun storing => nomatch seen.symm.trans (same storing)
    · exact same
  | drop holder =>
    simp only [Crew.move]
    split
    · exact same
    · cases holder <;> exact same

end Crew

end Bayeux
