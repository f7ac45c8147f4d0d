import Bayeux.Proofs.Session.Envelopes

set_option autoImplicit false

namespace Bayeux

theorem MapEdit.sorted_apply {members : JsonMap} (sorted : members.Sorted) (edit : MapEdit) :
    (edit.apply members).Sorted := by
  cases edit with
  | set key v => exact sorted.insert key v
  | delete key => exact sorted.erase key
  | clear => exact Table.sorted_nil

theorem MapEdit.get?_foldl_apply {members : JsonMap} (sorted : members.Sorted)
    (edits : List MapEdit) (name : String) :
    (edits.foldl MapEdit.apply members).get? name =
      edits.foldl (MapEdit.memberAfter name) (members.get? name) := by
  induction edits generalizing members with
  | nil => rfl
  | cons first rest ih =>
    rw [List.foldl_cons, List.foldl_cons, ih (first.sorted_apply sorted), first.get?_apply sorted]

def Json.withMap (create : Bool) (v : Option Json) : Option Json :=
  if create && !v.any Json.isObject then some (.object []) else v

def Json.editMembers (edits : List MapEdit) : Json → Json
  | .object members => .object (edits.foldl MapEdit.apply members)
  | v => v

namespace Session

def editEffect (s : Session) (fields : Fields) (key : String) : Effect :=
  { Effect.quiet with
    edits := fun ref => s.isExclusive ref ∧ (s.store.HasValue ref → fields.get? key = some ref) }

-- The field `key` has another value; the other fields and all that is held are what they were.
structure FieldChange (s : Session) (fields : Fields) (key : String) (t : Session)
    (fields' : Fields) (v : Option Json) : Prop where
  only_store : t = { s with store := t.store }
  advance : Store.Advance (s.editEffect fields key) s.store t.store
  ok : FieldsOk t.store fields'
  others : ∀ other, other ≠ key → fields'.get? other = fields.get? other
  result : (fields'.get? key).map t.value = v

variable {s : Session} {fields : Fields}

theorem createMap_correct (ok : FieldsOk s.store fields) (key : String) :
    let result := s.createMap fields key
    result.1 = { s with store := result.1.store } ∧
      Store.Advance .quiet s.store result.1.store ∧ FieldsOk result.1.store result.2 ∧
      (∀ other, other ≠ key → result.2.get? other = fields.get? other) ∧
      (result.2.get? key).map result.1.value = Json.withMap true ((fields.get? key).map s.value) ∧
      ∀ ref, s.store.HasValue ref → result.2.get? key = some ref → fields.get? key = some ref := by
  unfold createMap
  split
  next map =>
    refine ⟨rfl, .refl _ _, ok, fun _ _ => rfl, ?_, fun _ _ found => found⟩
    simp only [Store.holdsMap] at map
    cases found : fields.get? key with
    | none => simp [found] at map
    | some ref =>
      have object : (s.value ref).isObject := by simpa [found, Session.value] using map
      simp [Json.withMap, object]
  next noMap =>
    have step := s.store.alloc_advance (.object [])
    refine ⟨rfl, step, (ok.mono step).insert key (s.store.has_value_alloc _),
      fun other differ => Table.get?_insert_of_ne _ _ _ _ differ, ?_, ?_⟩
    · have none : ((fields.get? key).map s.value).any Json.isObject = false := by
        simp only [Store.holdsMap] at noMap
        cases found : fields.get? key with
        | none => rfl
        | some ref => simpa [found, Session.value] using noMap
      simp [Json.withMap, none, alloc, Session.value]
    · intro ref has found
      rw [Table.get?_insert_self, Option.some.injEq] at found
      exact absurd (found ▸ has) (s.store.alloc_new (.object []))

-- The value may change in place and nobody else sees it: it is where it was if it was exclusive,
-- else it is new.
theorem makeExclusive_correct (wf : s.WellFormed) {ref : Ref} (has : s.store.HasValue ref) :
    let result := s.makeExclusive ref
    result.1 = { s with store := result.1.store } ∧ Store.Advance .quiet s.store result.1.store ∧
      result.1.store.HasValue result.2 ∧ result.1.value result.2 = s.value ref ∧
      s.isExclusive result.2 ∧ (s.store.HasValue result.2 → result.2 = ref) := by
  unfold makeExclusive
  split
  next exclusive => exact ⟨rfl, .refl _ _, has, rfl, exclusive, fun _ => rfl⟩
  next =>
    have new := s.store.alloc_new (s.value ref)
    exact ⟨rfl, s.store.alloc_advance _, s.store.has_value_alloc _, s.store.value_alloc_self _,
      wf.isExclusive_of_new new, fun old => absurd old new⟩

theorem editMap_correct (wf : s.WellFormed) (ok : FieldsOk s.store fields) (key : String)
    (edits : List MapEdit) :
    let result := s.editMap fields key edits
    let v := ((fields.get? key).map s.value).map (Json.editMembers edits)
    s.FieldChange fields key result.1 result.2.1 v ∧ result.2.2 = v.bind Json.members? := by
  unfold editMap
  cases found : fields.get? key with
  | none =>
    exact ⟨⟨rfl, .refl _ _, ok, fun _ _ => rfl, by simp [found]⟩, rfl⟩
  | some ref =>
    obtain ⟨only, step, own, value, exclusive, old⟩ := makeExclusive_correct wf (ok.get? found)
    dsimp only
    generalize s.makeExclusive ref = result at only step own value exclusive old
    obtain ⟨t, mine⟩ := result
    dsimp only at only step own value exclusive old ⊢
    rw [Option.map_some, Option.map_some, ← value]
    have inserted := (ok.mono step).insert key own
    have moved : s.FieldChange fields key t (fields.insert key mine) (some (t.value mine)) :=
      { only_store := only
        advance := step.weaken (.of_quiet _)
        ok := inserted
        others := fun other differ => Table.get?_insert_of_ne _ _ _ _ differ
        result := by rw [Table.get?_insert_self, Option.map_some] }
    cases before : t.value mine with
    | object members =>
      let after : Json := .object (edits.foldl MapEdit.apply members)
      have edited : Store.Advance (s.editEffect fields key) t.store (t.store.setValue mine after) := by
        refine (t.store.setValue_advance own ?_ rfl).weaken
          ⟨?_, fun _ => False.elim, False.elim, False.elim⟩
        · rw [show t.store.value mine = _ from before]
          rfl
        · rintro other rfl
          exact ⟨exclusive, fun has => by rw [found, old has]⟩
      refine ⟨⟨?_, moved.advance.trans edited, inserted.mono edited, moved.others, ?_⟩, rfl⟩
      · rw [only]
        rfl
      · rw [Table.get?_insert_self, Option.map_some]
        exact congrArg some (t.store.value_setValue_self own after)
    | null | bool b | number n | string text | array items =>
      rw [before] at moved
      exact ⟨moved, rfl⟩

theorem editExt_correct (wf : s.WellFormed) (ok : FieldsOk s.store fields) (create : Bool)
    (edits : List MapEdit) :
    let result := s.editExt fields create edits
    let v := (Json.withMap create ((fields.get? FieldName.ext).map s.value)).map
      (Json.editMembers edits)
    s.FieldChange fields FieldName.ext result.1 result.2.1 v ∧ result.2.2 = v.bind Json.members? := by
  cases create with
  | false => exact editMap_correct wf ok FieldName.ext edits
  | true =>
    obtain ⟨only, step, ok', others, value, old⟩ := createMap_correct ok FieldName.ext
    simp only [editExt, if_true]
    generalize s.createMap fields FieldName.ext = created at only step ok' others value old
    obtain ⟨t, fields'⟩ := created
    dsimp only at only step ok' others value old ⊢
    have wf' : t.WellFormed := only ▸ (quiet_sound wf step).wf
    obtain ⟨change, edited⟩ := editMap_correct wf' ok' FieldName.ext edits
    have sameExclusive (ref : Ref) : t.isExclusive ref = s.isExclusive ref := by
      rw [only]
      exact isExclusive_store wf step (fun _ => False.elim) ref
    rw [value] at change edited
    have within : (t.editEffect fields' FieldName.ext).Within (s.editEffect fields FieldName.ext) := by
      refine ⟨?_, fun _ => id, id, id⟩
      rintro ref ⟨exclusive, held⟩
      exact ⟨sameExclusive ref ▸ exclusive, fun has => old ref has (held (step.has_value has))⟩
    refine ⟨⟨?_, ?_, change.ok, ?_, change.result⟩, edited⟩
    · rw [change.only_store, only]
    · exact (step.weaken (.of_quiet _)).trans (change.advance.weaken within)
    · exact fun other differ => (change.others other differ).trans (others other differ)

end Session

end Bayeux
