import Bayeux.Proofs.Session.Mirror

set_option autoImplicit false

namespace Bayeux

namespace Session

variable {s : Session}

-- Only a value that is under `ext` in the edited fields changes, and only if nobody shares it.
theorem value_shared (wf : s.WellFormed) (step : Step) {ref : Ref} (has : s.store.HasValue ref)
    (shared : ∀ fields, s.editedFields? step = some fields →
      fields.get? FieldName.ext = some ref → 2 ≤ s.owners.count ref) :
    (s.step step).1.value ref = s.value ref := by
  refine ((step_sound wf step).advance.store.values ref has).resolve_right ?_
  rintro ⟨⟨exclusive, held⟩, -⟩
  obtain ⟨fields, edited, there⟩ := held has
  rw [not_exclusive_of_count (shared fields edited there)] at exclusive
  exact Bool.false_ne_true exclusive

theorem envelopes_editMessage (wf : s.WellFormed) {name : String} {message : Message}
    (found : s.messages.get? name = some message) (edit : Edit) (into : Option String) :
    (s.editMessage name message edit into).1.envelopes = s.envelopes := by
  cases edit with
  | put key argument =>
    simp only [editMessage]
    split
    · rfl
    next t ref given =>
      obtain ⟨⟨store, rfl, -⟩, -⟩ := argument_sound wf given
      simp [give, setMessage]
  | assign key argument =>
    simp only [editMessage]
    split
    · rfl
    next t ref given =>
      obtain ⟨⟨store, rfl, -⟩, -⟩ := argument_sound wf given
      rfl
  | remove key => simp [editMessage, give, setMessage]
  | ext create edits =>
    have ok := wf.messages message (Table.mem_values_of_get? found)
    obtain ⟨changed, -⟩ := editExt_correct wf ok create edits
    have same := congrArg Session.envelopes changed.only_store
    exact same

theorem messages_editEnvelope (wf : s.WellFormed) {name : String} {linked : Linked}
    (found : s.envelopes.get? name = some linked) (edit : Edit) (into : Option String) :
    (s.editEnvelope name linked edit into).1.messages = s.messages := by
  have ok := wf.envelopes linked.envelope (live_head found)
  simp only [editEnvelope]
  split
  · rfl
  · cases edit with
    | put key argument =>
      dsimp only
      split
      · rfl
      next t ref given =>
        obtain ⟨⟨store, rfl, -⟩, -⟩ := argument_sound wf given
        split
        · simp [give, setEnvelope]
        · rfl
    | assign key argument =>
      dsimp only
      split
      · rfl
      next t ref given =>
        obtain ⟨⟨store, rfl, -⟩, -⟩ := argument_sound wf given
        split <;> rfl
    | remove key =>
      dsimp only
      split
      · simp [give, setEnvelope]
      · rfl
    | ext create edits =>
      obtain ⟨changed, -⟩ := editExt_correct wf ok.fields create edits
      have same := congrArg Session.messages changed.only_store
      exact same

theorem HoldsEnvelope.editMessage {name target : String} {chain : List Envelope} {settings : Factory}
    {members : JsonMap} {e : Envelope} (holds : s.HoldsEnvelope target chain settings members e)
    (wf : s.WellFormed) {message : Message} (found : s.messages.get? name = some message) (edit : Edit)
    (into : Option String) :
    (s.step (.editMessage name edit into)).1.HoldsEnvelope target chain settings members e := by
  have ok := wf.envelopes e holds.live
  have envelopes : (s.step (.editMessage name edit into)).1.envelopes = s.envelopes := by
    rw [step_editMessage found]
    exact envelopes_editMessage wf found edit into
  have kept (ref : Ref) (member : ref ∈ e.fields.values ++ e.payload.owned) :
      (s.step (.editMessage name edit into)).1.value ref = s.value ref := by
    have has : s.store.HasValue ref := by
      rcases List.mem_append.mp member with field | owned
      · exact ok.fields.listed ref field
      · exact ok.payload ref (List.mem_append_left _ owned)
    refine value_shared wf _ has fun fields edited there => ?_
    have same : message.fields = fields := by
      cases edit <;> simp_all [editedFields?]
    have mine := List.count_pos_iff.mpr (Table.mem_values_of_get? (same ▸ there))
    have its := List.count_pos_iff.mpr (holds.owned ▸ member)
    have := both_own ref (Table.mem_values_of_get? found) holds.live
    omega
  exact
    { found := envelopes ▸ holds.found
      unshared := by
        rw [isShared, envelopes]
        exact holds.unshared
      unfrozen := holds.unfrozen
      settings := holds.settings
      fields := by
        rw [← holds.fields]
        exact Table.mapValues_congr fun ref member => kept ref (List.mem_append_left _ member)
      payload := by
        rw [← holds.payload]
        cases payload : e.livePayload with
        | none => rfl
        | some ref =>
          exact congrArg some
            (kept ref (List.mem_append_right _ (Envelope.livePayload_owned payload))) }

theorem HoldsMessage.editEnvelope {name target : String} {chain : List Envelope} {settings : Factory}
    {members members' : JsonMap} {e : Envelope} (holds : s.HoldsMessage name members)
    (wf : s.WellFormed) (writes : s.HoldsEnvelope target chain settings members' e) (edit : Edit)
    (into : Option String) :
    (s.step (.editEnvelope target edit into)).1.HoldsMessage name members := by
  obtain ⟨message, found, rfl⟩ := holds
  have ok := wf.messages message (Table.mem_values_of_get? found)
  refine ⟨message, ?_, Table.mapValues_congr fun ref member => ?_⟩
  · rw [writes.step_edit, messages_editEnvelope wf writes.found]
    exact found
  · refine value_shared wf _ (ok.listed ref member) fun fields edited there => ?_
    have same : e.fields = fields := by
      have here := writes.found
      cases edit <;> simp_all [editedFields?]
    have its := List.count_pos_iff.mpr (List.mem_append_left e.payload.owned
      (Table.mem_values_of_get? (same ▸ there)))
    have mine := List.count_pos_iff.mpr member
    rw [← writes.owned] at its
    have := both_own ref (Table.mem_values_of_get? found) writes.live
    omega

theorem change?_eq_none {edit : Edit} (refused : s.change? edit = none) :
    ∃ key argument, (edit = .put key argument ∨ edit = .assign key argument) ∧
      s.argument argument = none := by
  have missing (argument : Argument) (nothing : s.given? argument = none) :
      s.argument argument = none := by
    cases argument with
    | handle name => simpa [Session.argument, given?] using nothing
    | fresh v => simp [given?] at nothing
  cases edit with
  | put key argument =>
    exact ⟨key, argument, .inl rfl, missing argument (Option.map_eq_none_iff.mp refused)⟩
  | assign key argument =>
    exact ⟨key, argument, .inr rfl, missing argument (Option.map_eq_none_iff.mp refused)⟩
  | remove key => simp [change?] at refused
  | ext create edits => simp [change?] at refused

theorem editMessage_refused {name : String} {message : Message}
    (found : s.messages.get? name = some message) {edit : Edit} (refused : s.change? edit = none)
    (into : Option String) : (s.step (.editMessage name edit into)).1 = s := by
  obtain ⟨key, argument, rfl | rfl, missing⟩ := change?_eq_none refused <;>
    simp [step_editMessage found, editMessage, missing]

theorem HoldsEnvelope.edit_refused {name : String} {chain : List Envelope} {settings : Factory}
    {members : JsonMap} {e : Envelope} (holds : s.HoldsEnvelope name chain settings members e)
    {edit : Edit} (refused : s.change? edit = none) (into : Option String) :
    (s.step (.editEnvelope name edit into)).1 = s := by
  have open_ : e.isFrozen = false := (e.isFrozen_eq_false_iff).mpr holds.unfrozen
  obtain ⟨key, argument, rfl | rfl, missing⟩ := change?_eq_none refused <;>
    simp [holds.step_edit, editEnvelope, open_, missing]

structure Mirrors (s : Session) (message envelope : String) (settings : Factory)
    (left right : JsonMap) : Prop where
  message : s.HoldsMessage message left
  envelope : ∃ e, s.HoldsEnvelope envelope [] settings right e
  sorted : right.Sorted

def EditsEither (message envelope : String) (step : Step) : Prop :=
  (∃ edit into, step = .editMessage message edit into) ∨
    ∃ edit into, step = .editEnvelope envelope edit into

namespace Mirrors

variable {message envelope : String} {settings : Factory} {left right : JsonMap} {edit : Edit}
  {change : Change}

theorem editMessage (mirrors : s.Mirrors message envelope settings left right) (wf : s.WellFormed)
    (made : s.change? edit = some change) (into : Option String) :
    (s.step (.editMessage message edit into)).1.Mirrors message envelope settings
        (change.apply left) right ∧
      (s.step (.editMessage message edit into)).2.outcome? = some (change.outcome left) := by
  obtain ⟨edited, outcome⟩ := mirrors.message.edit wf made into
  obtain ⟨owner, found, -⟩ := mirrors.message
  obtain ⟨e, shows⟩ := mirrors.envelope
  exact ⟨⟨edited, ⟨e, shows.editMessage wf found edit into⟩, mirrors.sorted⟩, outcome⟩

theorem editEnvelope (mirrors : s.Mirrors message envelope settings left right) (wf : s.WellFormed)
    (made : s.change? edit = some change) (into : Option String) :
    (s.step (.editEnvelope envelope edit into)).1.Mirrors message envelope settings left
        (change.apply right) ∧
      (s.step (.editEnvelope envelope edit into)).2.outcome? =
        some (change.shown (change.outcome right)) := by
  obtain ⟨e, shows⟩ := mirrors.envelope
  obtain ⟨edited, outcome⟩ := shows.edit wf mirrors.sorted made into
  exact ⟨⟨mirrors.message.editEnvelope wf shows edit into, edited,
    Change.sorted_apply mirrors.sorted change⟩, outcome⟩

theorem refused (mirrors : s.Mirrors message envelope settings left right)
    (none : s.change? edit = none) (into : Option String) :
    (s.step (.editMessage message edit into)).1 = s ∧
      (s.step (.editEnvelope envelope edit into)).1 = s := by
  obtain ⟨owner, found, -⟩ := mirrors.message
  obtain ⟨e, shows⟩ := mirrors.envelope
  exact ⟨editMessage_refused found none into, shows.edit_refused none into⟩

theorem after (mirrors : s.Mirrors message envelope settings left right) (wf : s.WellFormed)
    (steps : List Step) (editing : ∀ step ∈ steps, EditsEither message envelope step) :
    let made := s.edits (·.editOfMessage? message) steps
    let echoed := s.edits (·.editOfEnvelope? envelope) steps
    (s.after steps).Mirrors message envelope settings
        ((made.map (·.change)).foldl Change.apply left)
        ((echoed.map (·.change)).foldl Change.apply right) ∧
      made = Change.follow left (made.map (·.change)) ∧
      echoed = (Change.follow right (echoed.map (·.change))).map Edited.shown := by
  induction steps generalizing s left right with
  | nil => exact ⟨mirrors, rfl, rfl⟩
  | cons first rest ih =>
    have later : ∀ step ∈ rest, EditsEither message envelope step :=
      fun step member => editing step (List.mem_cons_of_mem _ member)
    have next := (step_sound wf first).wf
    rw [after_cons]
    rcases editing first List.mem_cons_self with ⟨edit, into, rfl⟩ | ⟨edit, into, rfl⟩
    · have own : (Step.editMessage message edit into).editOfMessage? message = some edit :=
        if_pos rfl
      have aside : ((Step.editMessage message edit into).editOfEnvelope? envelope).bind s.change? =
          none := rfl
      rw [edits_cons_of_none aside]
      cases made : s.change? edit with
      | none =>
        rw [edits_cons_of_none (by rw [own]; exact made), (mirrors.refused made into).1]
        exact ih mirrors wf later
      | some change =>
        obtain ⟨mirrors', outcome⟩ := mirrors.editMessage wf made into
        obtain ⟨whole, followed, followed'⟩ := ih mirrors' next later
        rw [edits_cons_of_change (by rw [own]; exact made), outcome]
        refine ⟨whole, ?_, followed'⟩
        rw [List.map_cons, Change.follow, ← followed]
    · have own : (Step.editEnvelope envelope edit into).editOfEnvelope? envelope = some edit :=
        if_pos rfl
      have aside : ((Step.editEnvelope envelope edit into).editOfMessage? message).bind s.change? =
          none := rfl
      rw [edits_cons_of_none aside]
      cases made : s.change? edit with
      | none =>
        rw [edits_cons_of_none (by rw [own]; exact made), (mirrors.refused made into).2]
        exact ih mirrors wf later
      | some change =>
        obtain ⟨mirrors', outcome⟩ := mirrors.editEnvelope wf made into
        obtain ⟨whole, followed, followed'⟩ := ih mirrors' next later
        rw [edits_cons_of_change (by rw [own]; exact made), outcome]
        refine ⟨whole, followed, ?_⟩
        rw [List.map_cons, Change.follow, List.map_cons, ← followed']
        rfl

end Mirrors

end Session

end Bayeux
