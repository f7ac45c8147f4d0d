import Bayeux.Proofs.Session.Run

set_option autoImplicit false

namespace Bayeux

theorem count_le_flatMap {α : Type} {items : List α} {item : α} (member : item ∈ items)
    (holds : α → List Ref) (ref : Ref) :
    (holds item).count ref ≤ (items.flatMap holds).count ref := by
  rw [List.flatMap_def]
  exact (List.sublist_flatten_of_mem (List.mem_map_of_mem member)).count_le ref

theorem count_pair_le_flatMap {α : Type} {items : List α} {first second : α} (differ : first ≠ second)
    (member : first ∈ items) (member' : second ∈ items) (holds : α → List Ref) (ref : Ref) :
    (holds first).count ref + (holds second).count ref ≤ (items.flatMap holds).count ref := by
  induction items with
  | nil => exact absurd member List.not_mem_nil
  | cons item rest ih =>
    rw [List.flatMap_cons, List.count_append]
    rcases List.mem_cons.mp member with rfl | later
    · have there := (List.mem_cons.mp member').resolve_left (Ne.symm differ)
      have := count_le_flatMap there holds ref
      omega
    · rcases List.mem_cons.mp member' with rfl | later'
      · have := count_le_flatMap later holds ref
        omega
      · have := ih later later'
        omega

namespace Session

variable {s : Session} {e : Envelope} {ref : Ref}

theorem owned_le_owners (ref : Ref) (live : e ∈ s.liveEnvelopes) :
    (e.owned s.store).count ref ≤ s.owners.count ref := by
  rw [owners, List.count_append]
  have := count_le_flatMap live (·.owned s.store) ref
  omega

theorem not_exclusive_of_count (shared : 2 ≤ s.owners.count ref) : s.isExclusive ref = false := by
  simp only [isExclusive, Bool.and_eq_false_iff, decide_eq_false_iff_not]
  exact .inl (by omega)

theorem not_exclusive_of_watched (watched : ref ∈ s.watchers) : s.isExclusive ref = false := by
  simp [isExclusive, watched]

-- Both the envelope and its snapshot have the fields, and one of them watches the payload.
theorem not_exclusive_of_frozen (wf : s.WellFormed) (live : e ∈ s.liveEnvelopes) (frozen : e.isFrozen)
    (held : ref ∈ e.fields.values ++ e.payload.watched) : s.isExclusive ref = false := by
  obtain ⟨id, taken⟩ := (e.isFrozen_iff).mp frozen
  rcases List.mem_append.mp held with field | weak
  · obtain ⟨-, -, captured⟩ := (wf.envelopes e live).frozen id taken
    apply not_exclusive_of_count
    have once : 1 ≤ e.fields.values.count ref := List.count_pos_iff.mpr field
    have twice : 2 ≤ (e.owned s.store).count ref := by
      simp only [Envelope.owned, taken, Snapshot.owned, captured.fields, List.count_append]
      omega
    exact Nat.le_trans twice (owned_le_owners ref live)
  · apply not_exclusive_of_watched
    exact WellFormed.mem_watchers.mpr (.inr ⟨e, live, by simp [Envelope.watched, weak]⟩)

theorem WellFormed.listed_frozen (wf : s.WellFormed) (live : e ∈ s.liveEnvelopes)
    (held : ref ∈ e.fields.values ++ e.payload.watched) : s.store.HasValue ref := by
  have ok := wf.envelopes e live
  rcases List.mem_append.mp held with field | weak
  · exact ok.fields.listed ref field
  · exact ok.payload ref (List.mem_append_right _ weak)

theorem value_step (wf : s.WellFormed) (live : e ∈ s.liveEnvelopes) (frozen : e.isFrozen)
    (held : ref ∈ e.fields.values ++ e.payload.watched) (step : Step) :
    (s.step step).1.value ref = s.value ref := by
  refine ((step_sound wf step).advance.store.values ref (wf.listed_frozen live held)).resolve_right ?_
  rintro ⟨⟨exclusive, -⟩, -⟩
  rw [not_exclusive_of_frozen wf live frozen held] at exclusive
  exact Bool.false_ne_true exclusive

end Session

end Bayeux
