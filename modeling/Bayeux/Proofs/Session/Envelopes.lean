import Bayeux.Proofs.Session.Advance

set_option autoImplicit false

namespace Bayeux.Session

variable {s : Session}

def LiveElsewhere (s : Session) (name : String) (e : Envelope) : Prop :=
  ∃ other linked, other ≠ name ∧ s.envelopes.get? other = some linked ∧ e ∈ linked.all

theorem LiveElsewhere.live {name : String} {e : Envelope} (elsewhere : s.LiveElsewhere name e) :
    e ∈ s.liveEnvelopes := by
  obtain ⟨other, linked, -, found, member⟩ := elsewhere
  exact live_of_get? found member

theorem live_insert (sorted : s.envelopes.Sorted) {t : Session} {name : String} {linked : Linked}
    (inserted : t.envelopes = s.envelopes.insert name linked) (e : Envelope) :
    e ∈ t.liveEnvelopes ↔ e ∈ linked.all ∨ s.LiveElsewhere name e := by
  rw [mem_liveEnvelopes (inserted ▸ sorted.insert name linked), inserted]
  constructor
  · rintro ⟨other, found, here, member⟩
    by_cases same : other = name
    · rw [same, Table.get?_insert_self] at here
      exact .inl (Option.some.inj here ▸ member)
    · rw [Table.get?_insert_of_ne _ _ _ _ same] at here
      exact .inr ⟨other, found, same, here, member⟩
  · rintro (member | ⟨other, found, differ, here, member⟩)
    · exact ⟨name, linked, Table.get?_insert_self _ _ _, member⟩
    · exact ⟨other, found, by rwa [Table.get?_insert_of_ne _ _ _ _ differ], member⟩

structure Enrolls (s : Session) (store : Store) (nextId : Nat) (name : String) (linked : Linked) :
    Prop where
  ok : ∀ e ∈ linked.all, e.WellFormed store
  ids : ∀ e ∈ linked.all, e.id < nextId
  unique : ∀ e ∈ linked.all, ∀ other ∈ linked.all, e.id = other.id → e = other
  apart : ∀ e ∈ linked.all, ∀ other, s.LiveElsewhere name other → e.id = other.id → e = other
  head : ∀ other a, other ≠ name → s.envelopes.get? other = some a →
    linked.envelope.id ≠ a.envelope.id
  twins : ∀ e ∈ linked.all, ∀ other ∈ linked.all, ∀ id, e.snapshot = some id →
    other.snapshot = some id → ¬ s.store.HasSnapshot id → e.core = other.core
  by_id : ∀ e ∈ linked.all, e.id < s.nextId →
    ∃ old ∈ s.liveEnvelopes, old.id = e.id ∧ (old.isFrozen → e.core = old.core)
  by_snapshot : ∀ e ∈ linked.all, ∀ id, e.snapshot = some id → s.store.HasSnapshot id →
    ∃ old ∈ s.liveEnvelopes, old.snapshot = some id ∧ e.core = old.core

namespace Enrolls

variable {store : Store} {nextId : Nat} {name : String} {linked : Linked}

theorem core_eq (enrolls : s.Enrolls store nextId name linked) (wf : s.WellFormed) {e other : Envelope}
    {id : SnapshotId} (member : e ∈ linked.all)
    (rest : other ∈ linked.all ∨ s.LiveElsewhere name other) (taken : e.snapshot = some id)
    (same : other.snapshot = some id) : e.core = other.core := by
  by_cases has : s.store.HasSnapshot id
  · obtain ⟨old, live, taken', core⟩ := enrolls.by_snapshot e member id taken has
    have frozen : old.isFrozen := (old.isFrozen_iff).mpr ⟨id, taken'⟩
    rcases rest with inside | elsewhere
    · obtain ⟨old', live', taken'', core'⟩ := enrolls.by_snapshot other inside id same has
      rw [core, core']
      exact wf.twins old live old' live' frozen (taken'.trans taken''.symm)
    · rw [core]
      exact wf.twins old live other elsewhere.live frozen (taken'.trans same.symm)
  · rcases rest with inside | elsewhere
    · exact enrolls.twins e member other inside id taken same has
    · exact absurd ((wf.envelopes other elsewhere.live).frozen id same).2.1 has

theorem all_twins (enrolls : s.Enrolls store nextId name linked) (wf : s.WellFormed)
    {e other : Envelope} (here : e ∈ linked.all ∨ s.LiveElsewhere name e)
    (there : other ∈ linked.all ∨ s.LiveElsewhere name other) (frozen : e.isFrozen)
    (same : e.snapshot = other.snapshot) : e.core = other.core := by
  obtain ⟨id, taken⟩ := (e.isFrozen_iff).mp frozen
  rcases here with inside | elsewhere
  · exact enrolls.core_eq wf inside there taken (same ▸ taken)
  · rcases there with inside | elsewhere'
    · exact (enrolls.core_eq wf inside (.inr elsewhere) (same ▸ taken) taken).symm
    · exact wf.twins e elsewhere.live other elsewhere'.live frozen same

theorem all_unique (enrolls : s.Enrolls store nextId name linked) (wf : s.WellFormed)
    {e other : Envelope} (here : e ∈ linked.all ∨ s.LiveElsewhere name e)
    (there : other ∈ linked.all ∨ s.LiveElsewhere name other) (same : e.id = other.id) :
    e = other := by
  rcases here with inside | elsewhere <;> rcases there with inside' | elsewhere'
  · exact enrolls.unique e inside other inside' same
  · exact enrolls.apart e inside other elsewhere' same
  · exact (enrolls.apart other inside' e elsewhere same.symm).symm
  · exact wf.unique e elsewhere.live other elsewhere'.live same

theorem all_heads (enrolls : s.Enrolls store nextId name linked) (wf : s.WellFormed)
    {one other : String} {a b : Linked}
    (first : (s.envelopes.insert name linked).get? one = some a)
    (second : (s.envelopes.insert name linked).get? other = some b)
    (same : a.envelope.id = b.envelope.id) : one = other := by
  by_cases left : one = name <;> by_cases right : other = name
  · rw [left, right]
  · rw [left, Table.get?_insert_self, Option.some.injEq] at first
    rw [Table.get?_insert_of_ne _ _ _ _ right] at second
    exact absurd (first ▸ same) (enrolls.head other b right second)
  · rw [right, Table.get?_insert_self, Option.some.injEq] at second
    rw [Table.get?_insert_of_ne _ _ _ _ left] at first
    exact absurd (second ▸ same.symm) (enrolls.head one a left first)
  · rw [Table.get?_insert_of_ne _ _ _ _ left] at first
    rw [Table.get?_insert_of_ne _ _ _ _ right] at second
    exact wf.heads one other a b first second same

theorem sound {effect : Effect} (enrolls : s.Enrolls store nextId name linked) (wf : s.WellFormed)
    (step : Store.Advance effect s.store store) (calm : ∀ id, ¬ effect.serializes id)
    (later : s.nextId ≤ nextId) :
    Sound effect s { s with store, nextId, envelopes := s.envelopes.insert name linked } := by
  let t : Session := { s with store, nextId, envelopes := s.envelopes.insert name linked }
  have live (e : Envelope) : e ∈ t.liveEnvelopes ↔ e ∈ linked.all ∨ s.LiveElsewhere name e :=
    live_insert wf.sorted rfl e
  have grown := (store_sound wf step calm).wf
  refine ⟨{ grown with
    sorted := wf.sorted.insert name linked
    envelopes := ?_
    ids := ?_
    unique := fun e member other member' =>
      enrolls.all_unique wf ((live e).mp member) ((live other).mp member')
    heads := fun _ _ _ _ => enrolls.all_heads wf
    twins := fun e member other member' =>
      enrolls.all_twins wf ((live e).mp member) ((live other).mp member') }, ⟨step, later, ?_, ?_⟩⟩
  · intro e member
    rcases (live e).mp member with inside | elsewhere
    · exact enrolls.ok e inside
    · exact (wf.envelopes e elsewhere.live).mono step calm
  · intro e member
    rcases (live e).mp member with inside | elsewhere
    · exact enrolls.ids e inside
    · exact Nat.lt_of_lt_of_le (wf.ids e elsewhere.live) later
  · intro e member known
    rcases (live e).mp member with inside | elsewhere
    · exact enrolls.by_id e inside known
    · exact ⟨e, elsewhere.live, rfl, fun _ => rfl⟩
  · intro e member id taken has
    rcases (live e).mp member with inside | elsewhere
    · exact enrolls.by_snapshot e inside id taken has
    · exact ⟨e, elsewhere.live, taken, rfl⟩

end Enrolls

-- A new envelope is open, or frozen just now, or a copy of one that is there.
theorem addEnvelope_sound {effect : Effect} {store : Store} (wf : s.WellFormed)
    (step : Store.Advance effect s.store store) (calm : ∀ id, ¬ effect.serializes id) (name : String)
    {e : Envelope} (ok : e.WellFormed store) (number : e.id = s.nextId)
    (by_snapshot : ∀ id, e.snapshot = some id → s.store.HasSnapshot id →
      ∃ old ∈ s.liveEnvelopes, old.snapshot = some id ∧ e.core = old.core) :
    Sound effect s ({ s with store, nextId := s.nextId + 1 }.addEnvelope name e) := by
  have new (other : Envelope) (elsewhere : s.LiveElsewhere name other) : e.id ≠ other.id := by
    have := wf.ids other elsewhere.live
    omega
  have enrolls : s.Enrolls store (s.nextId + 1) name ⟨e, []⟩ := by
    constructor <;> simp only [mem_all, List.not_mem_nil, or_false, forall_eq, number]
    · exact ok
    · omega
    · exact fun _ => trivial
    · exact fun other elsewhere same => absurd (number.trans same) (new other elsewhere)
    · intro other a differ found same
      exact new a.envelope ⟨other, a, differ, found, by simp [mem_all]⟩ (number.trans same)
    · exact fun _ _ _ _ => trivial
    · omega
    · exact by_snapshot
  exact enrolls.sound wf step calm (by omega)

theorem isShared_eq_false_iff {e : Envelope} : s.isShared e = false ↔
    ∀ linked ∈ s.envelopes.values, ∀ other ∈ linked.chain, other.id ≠ e.id := by
  simp [isShared]

theorem not_in_chain {e : Envelope} (unshared : s.isShared e = false) {name : String}
    {linked : Linked} (found : s.envelopes.get? name = some linked) {other : Envelope}
    (member : other ∈ linked.chain) : other.id ≠ e.id :=
  isShared_eq_false_iff.mp unshared linked (Table.mem_values_of_get? found) other member

theorem elsewhere_id_ne (wf : s.WellFormed) {name : String} {linked : Linked}
    (found : s.envelopes.get? name = some linked) (unshared : s.isShared linked.envelope = false)
    {other : Envelope} (elsewhere : s.LiveElsewhere name other) : other.id ≠ linked.envelope.id := by
  obtain ⟨name', linked', differ, found', member⟩ := elsewhere
  rcases (mem_all linked' other).mp member with head | chained
  · intro same
    exact differ (wf.heads name' name linked' linked found' found (head ▸ same))
  · exact not_in_chain unshared found' chained

-- Changes an envelope that is not frozen, or what copies do not take over.
theorem setEnvelope_sound {effect : Effect} {store : Store} (wf : s.WellFormed)
    (step : Store.Advance effect s.store store) (calm : ∀ id, ¬ effect.serializes id) {name : String}
    {linked : Linked} (found : s.envelopes.get? name = some linked)
    (unshared : s.isShared linked.envelope = false) {e : Envelope} (ok : e.WellFormed store)
    (number : e.id = linked.envelope.id)
    (kept : linked.envelope.isFrozen → e.core = linked.envelope.core)
    (fresh : ∀ id, e.snapshot = some id → s.store.HasSnapshot id → e.core = linked.envelope.core) :
    Sound effect s ({ s with store }.setEnvelope name linked e) := by
  have head : linked.envelope ∈ s.liveEnvelopes := live_head found
  have chained (other : Envelope) (member : other ∈ linked.chain) : other ∈ s.liveEnvelopes :=
    live_of_get? found (by simp [mem_all, member])
  have alone (other : Envelope) (member : other ∈ linked.chain) : other.id ≠ e.id :=
    number ▸ not_in_chain unshared found member
  have enrolls : s.Enrolls store s.nextId name { linked with envelope := e } := by
    constructor <;> simp only [mem_all]
    · rintro other (rfl | member)
      · exact ok
      · exact (wf.envelopes other (chained other member)).mono step calm
    · rintro other (rfl | member)
      · exact number ▸ wf.ids _ head
      · exact wf.ids other (chained other member)
    · rintro a (rfl | member) b (rfl | member') same
      · rfl
      · exact absurd same.symm (alone b member')
      · exact absurd same (alone a member)
      · exact wf.unique a (chained a member) b (chained b member') same
    · rintro a (rfl | member) b elsewhere same
      · exact absurd (number ▸ same.symm) (elsewhere_id_ne wf found unshared elsewhere)
      · exact wf.unique a (chained a member) b elsewhere.live same
    · intro other a differ found' same
      exact elsewhere_id_ne wf found unshared ⟨other, a, differ, found', by simp [mem_all]⟩
        (number ▸ same.symm)
    · rintro a (rfl | member) b (rfl | member') id taken taken' new
      · rfl
      · exact absurd ((wf.envelopes b (chained b member')).frozen id taken').2.1 new
      · exact absurd ((wf.envelopes a (chained a member)).frozen id taken).2.1 new
      · exact absurd ((wf.envelopes a (chained a member)).frozen id taken).2.1 new
    · rintro other (rfl | member) -
      · exact ⟨linked.envelope, head, number.symm, kept⟩
      · exact ⟨other, chained other member, rfl, fun _ => rfl⟩
    · rintro other (rfl | member) id taken has
      · have core := fresh id taken has
        exact ⟨linked.envelope, head, by rw [← Envelope.snapshot_core, ← core]; exact taken, core⟩
      · exact ⟨other, chained other member, taken, rfl⟩
  exact enrolls.sound wf step calm (Nat.le_refl _)

theorem associate_sound (wf : s.WellFormed) {name : String} {linked : Linked}
    (found : s.envelopes.get? name = some linked) {chain : List Envelope}
    (live : ∀ e ∈ chain, e ∈ s.liveEnvelopes) :
    Sound .quiet s { s with envelopes := s.envelopes.insert name { linked with chain } } := by
  have head := live_head found
  have all (e : Envelope) (member : e ∈ { linked with chain : Linked }.all) :
      e ∈ s.liveEnvelopes := by
    rcases (mem_all _ e).mp member with rfl | chained
    · exact head
    · exact live e chained
  have enrolls : s.Enrolls s.store s.nextId name { linked with chain } :=
    { ok := fun e member => wf.envelopes e (all e member)
      ids := fun e member => wf.ids e (all e member)
      unique := fun a member b member' => wf.unique a (all a member) b (all b member')
      apart := fun a member b elsewhere => wf.unique a (all a member) b elsewhere.live
      head := fun other a differ found' same =>
        differ (wf.heads other name a linked found' found same.symm)
      twins := fun a member _ _ id taken _ new =>
        absurd ((wf.envelopes a (all a member)).frozen id taken).2.1 new
      by_id := fun e member _ => ⟨e, all e member, rfl, fun _ => rfl⟩
      by_snapshot := fun e member id taken _ => ⟨e, all e member, taken, rfl⟩ }
  exact enrolls.sound wf (.refl _ _) (fun _ => False.elim) (Nat.le_refl _)

theorem eraseEnvelope_sound (wf : s.WellFormed) (name : String) :
    Sound .quiet s { s with envelopes := s.envelopes.erase name } := by
  let t : Session := { s with envelopes := s.envelopes.erase name }
  have live (e : Envelope) (member : e ∈ t.liveEnvelopes) : e ∈ s.liveEnvelopes := by
    obtain ⟨linked, listed, inside⟩ := List.mem_flatMap.mp member
    exact List.mem_flatMap.mpr ⟨linked, Table.mem_values_erase listed, inside⟩
  exact
    { wf :=
        { wf with
          sorted := wf.sorted.erase name
          envelopes := fun e member => wf.envelopes e (live e member)
          ids := fun e member => wf.ids e (live e member)
          unique := fun a member b member' => wf.unique a (live a member) b (live b member')
          heads := fun one other a b first second =>
            wf.heads one other a b (Table.get?_of_get?_erase wf.sorted first).2
              (Table.get?_of_get?_erase wf.sorted second).2
          twins := fun a member b member' => wf.twins a (live a member) b (live b member') }
      advance :=
        { store := .refl _ _
          nextId := Nat.le_refl _
          by_id := fun e member _ => ⟨e, live e member, rfl, fun _ => rfl⟩
          by_snapshot := fun e member id taken _ => ⟨e, live e member, taken, rfl⟩ } }

end Bayeux.Session
