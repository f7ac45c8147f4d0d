import Bayeux.Proofs.Session.Crew

set_option autoImplicit false

namespace Bayeux

namespace Session

variable {s start : Session} {e origin : Envelope} {log : List Attempt} {ref : Ref}

theorem Carries.upgrade (carries : Carries start origin s log) (live : e ∈ s.liveEnvelopes)
    (taken : e.snapshot = some start.store.nextSnapshot) (payload : origin.payload = .live ref) :
    (s.store.snapshot start.store.nextSnapshot).payload.upgrade s.isAlive =
      if s.isAlive ref then some ref else none := by
  rw [carries.snapshot]
  cases done : rendering? log with
  | none =>
    have alive := carries.alive taken live payload done
    simp [Envelope.snapshotAfter, Envelope.capture, Envelope.frozenPayload, payload, Slot.upgrade,
      alive]
  | some text =>
    simp [Envelope.snapshotAfter, Envelope.capture, Envelope.frozenPayload, payload,
      Snapshot.serialized, Slot.downgrade, Slot.upgrade]

theorem not_isAlive : s.isAlive ref = false ↔ ref ∉ s.owners := by
  simp [isAlive]

theorem after_keeps {name : String} {steps : List Step}
    (unwritten : ∀ step ∈ steps, .envelope name ∉ step.writes) :
    (s.after steps).envelopes.get? name = s.envelopes.get? name := by
  induction steps generalizing s with
  | nil => rfl
  | cons first rest ih =>
    have next := ih (s := (s.step first).1) fun step member =>
      unwritten step (List.mem_cons_of_mem _ member)
    exact next.trans ((s.step_keeps first).envelopes name (unwritten first List.mem_cons_self))

end Session

namespace Crew

open Session

variable {steps : List Step} {freezing : Freezing steps} {ref : Ref} {c : Crew}

structure Shares (freezing : Freezing steps) (ref : Ref) (c : Crew) : Prop where
  run : ∃ later, c.settled = reached (steps ++ later)
  found : ∃ chain, c.settled.envelopes.get? c.name = some ⟨c.envelope, chain⟩
  taken : c.envelope.snapshot = some c.snapshot
  frozen : c.snapshot = freezing.snapshot
  hidden : c.storing.isSome → c.captured.stored = none
  lost : ∀ worker ∈ c.missed, c.session.isAlive ref = false

namespace Shares

section State

variable (shares : c.Shares freezing ref)

include shares

theorem wf : c.settled.WellFormed := by
  obtain ⟨later, same⟩ := shares.run
  rw [same]
  exact reached_wellFormed _

theorem live : c.envelope ∈ c.settled.liveEnvelopes := by
  obtain ⟨chain, found⟩ := shares.found
  exact live_head found

theorem carries : ∃ log, Carries freezing.start freezing.origin c.settled log := by
  obtain ⟨later, same⟩ := shares.run
  rw [same]
  exact ⟨_, (freezing.extend later).carries⟩

theorem taken_snapshot : c.envelope.snapshot = some freezing.start.store.nextSnapshot :=
  shares.taken.trans (congrArg some shares.frozen)

variable (payload : freezing.origin.payload = .live ref)

include payload

theorem upgrade : c.captured.payload.upgrade c.session.isAlive =
    if c.session.isAlive ref then some ref else none := by
  obtain ⟨log, carries⟩ := shares.carries
  have upgraded := carries.upgrade shares.live shares.taken_snapshot payload
  rw [isAlive_settled] at upgraded
  rw [← upgraded, ← payload_settled, shares.frozen]
  rfl

theorem value : c.session.value ref = freezing.start.value ref := by
  obtain ⟨log, carries⟩ := shares.carries
  rw [← value_settled]
  exact carries.values _ shares.live shares.taken_snapshot ref
    (List.mem_append_right _ (by simp [payload, Slot.owned]))

theorem ready : c.Ready :=
  { taken := shares.taken
    found := shares.found
    hidden := shares.hidden
    lost := fun worker missed => by simp [shares.upgrade payload, shares.lost worker missed] }

theorem isDead (lost : c.session.isAlive ref = false) : c.settled.IsDead ref := by
  obtain ⟨log, carries⟩ := shares.carries
  have held := carries.holds shares.live shares.taken_snapshot
    (List.mem_append_right _ (show ref ∈ freezing.origin.payload.owned by simp [payload, Slot.owned]))
  have ok := shares.wf.envelopes _ shares.live
  rw [← isAlive_settled] at lost
  refine ⟨?_, not_isAlive.mp lost⟩
  rcases List.mem_append.mp held with field | watched
  · exact ok.fields.listed ref field
  · exact ok.payload ref (List.mem_append_right _ watched)

theorem next (move : Move) : (c.move move).1.Shares freezing ref := by
  have ready := shares.ready payload
  obtain ⟨more, unwritten, settled⟩ := move_settled ready shares.wf move
  obtain ⟨name, envelope, snapshot⟩ := move_name (c := c) move
  exact
    { run := by
        obtain ⟨later, same⟩ := shares.run
        refine ⟨later ++ more, ?_⟩
        rw [settled, same, ← reached_append, List.append_assoc]
      found := by
        rw [settled, name, envelope, after_keeps unwritten]
        exact shares.found
      taken := by rw [envelope, snapshot, shares.taken]
      frozen := snapshot.trans shares.frozen
      hidden := ready.hidden_move shares.wf move
      lost := fun worker missed => by
        have lost : c.session.isAlive ref = false := by
          rcases missed_move missed with before | absent
          · exact shares.lost worker before
          · simpa [shares.upgrade payload] using absent
        have dead := (shares.isDead payload lost).after shares.wf more
        rw [← settled] at dead
        rw [← isAlive_settled]
        exact not_isAlive.mpr dead.2 }

theorem after (moves : List Move) : (c.after moves).Shares freezing ref := by
  induction moves generalizing c with
  | nil => exact shares
  | cons first rest ih => exact ih (shares.next payload first)

theorem look {worker : Nat} (free : c.isBusy worker = false) (into : Option String) :
    let result := c.move (.look worker into)
    (c.session.isAlive ref → result.2 = some (some ref) ∧
      result.1.session.value ref = freezing.start.value ref) ∧
    (c.session.isAlive ref = false → result.2 = none ∧ worker ∈ result.1.missed) := by
  have upgrade := shares.upgrade payload
  simp only [Crew.move, free, Bool.false_eq_true, if_false]
  constructor
  · intro alive
    rw [if_pos alive] at upgrade
    simp only [upgrade, true_and]
    cases into <;> exact shares.value payload
  · intro lost
    rw [if_neg (by simp [lost])] at upgrade
    simp [upgrade]

omit payload in
-- Who has to look at what is stored finds nothing while another is still to store it.
theorem reread_hidden {worker : Nat} (missed : worker ∈ c.missed) (into : Option String)
    (storing : c.storing.isSome) : (c.move (.reread worker into)).2 = some none := by
  have hidden : (c.session.store.snapshot c.snapshot).stored = none := shares.hidden storing
  simp [Crew.move, missed, captured, hidden]

end State

section Faithful

variable (shares : c.Shares freezing ref)
  (faithful : ((reached steps).store.codec c.envelope.codec).behavior = .faithful)

include shares faithful

theorem faithful_settled :
    (c.settled.store.codec c.envelope.codec).behavior = .faithful := by
  obtain ⟨later, settled⟩ := shares.run
  obtain ⟨log, carries⟩ := shares.carries
  have codec : c.envelope.codec = freezing.origin.codec :=
    congrArg Factory.codec (carries.settings_eq shares.live shares.taken_snapshot)
  have has : (reached steps).store.HasCodec c.envelope.codec := by
    rw [codec]
    exact freezing.advance.store.has_codec freezing.origin_wellFormed.codec
  rw [settled, reached_append]
  exact ((after_sound (reached_wellFormed steps) later).advance.store.codecs _ has).1.trans faithful

theorem reread_stored (payload : freezing.origin.payload = .live ref) {worker : Nat}
    (missed : worker ∈ c.missed) (into : Option String) (idle : c.storing = none) :
    ∃ answer, (c.move (.reread worker into)).2 = some answer ∧
      answer.map (c.move (.reread worker into)).1.session.value =
        payloadIn? (Codec.parse (Codec.generate freezing.content)) := by
  have here : c.settled = c.session := by simp only [Crew.settled, idle]
  have lost := shares.lost worker missed
  have taken := shares.taken_snapshot
  have live := shares.live
  have works := shares.faithful_settled faithful
  obtain ⟨later, settled⟩ := shares.run
  have run : c.session = reached (steps ++ later) := here.symm.trans settled
  rw [here, run] at live works
  rw [run] at lost
  have read := (freezing.extend later).payload_reclaimed live taken works payload lost
  have carries := (freezing.extend later).carries
  rw [← run] at read carries live lost
  cases done : rendering? (freezing.extend later).attempts with
  | none =>
    have alive := carries.alive taken live payload done
    exact absurd (lost.symm.trans alive) Bool.false_ne_true
  | some text =>
    have gone : ∀ other ∈ freezing.origin.payload.owned, c.session.isAlive other = false := by
      simpa [payload, Slot.owned] using lost
    have again : c.session.payload c.envelope =
        c.session.reread c.envelope.codec (Stored.ofText text freezing.origin.threshold.toNat) :=
      carries.payload_dead taken done gone
    have seen : ({ c with missed := c.missed.filter (· ≠ worker) } : Crew).captured.stored =
        some (Stored.ofText text freezing.origin.threshold.toNat) := by
      have stored := carries.stored
      rw [done] at stored
      rw [captured, shares.frozen]
      exact stored
    have result : c.move (.reread worker into) =
        ({ c with
          missed := c.missed.filter (· ≠ worker)
          session := (c.session.payload c.envelope).1.keep into (c.session.payload c.envelope).2 },
          some (c.session.payload c.envelope).2) := by
      rw [again]
      simp only [Crew.move, List.contains_iff_mem, missed, if_true, seen]
    refine ⟨(c.session.payload c.envelope).2, by rw [result], ?_⟩
    rw [result]
    refine Eq.trans ?_ read
    cases into with
    | none => rfl
    | some name => cases (c.session.payload c.envelope).2 <;> rfl

end Faithful

end Shares

theorem start_shares {name : String} {e : Envelope} {chain : List Envelope}
    (found : (reached steps).envelopes.get? name = some ⟨e, chain⟩)
    (taken : e.snapshot = some freezing.snapshot) :
    (start (reached steps) name e freezing.snapshot).Shares freezing ref :=
  { run := ⟨[], by simp [settled, start]⟩
    found := ⟨chain, found⟩
    taken := taken
    frozen := rfl
    hidden := fun storing => nomatch storing
    lost := fun _ missed => absurd missed List.not_mem_nil }

/-- Whatever moves the workers make, the payload is found as it was while something keeps it alive.
Who does not find it finds what is left of it in the text, unless another has let go of it and is
still to store the text: nothing is found then. -/
theorem shared_payload (freezing : Freezing steps) {name : String} {e : Envelope}
    {chain : List Envelope} (found : (reached steps).envelopes.get? name = some ⟨e, chain⟩)
    (taken : e.snapshot = some freezing.snapshot)
    (faithful : ((reached steps).store.codec e.codec).behavior = .faithful)
    (payload : freezing.origin.payload = .live ref) (moves : List Move) :
    let v := freezing.start.value ref
    let kept := payloadIn? (Codec.parse (Codec.generate freezing.content))
    let c := (start (reached steps) name e freezing.snapshot).after moves
    (∀ worker into, c.isBusy worker = false →
      let result := c.move (.look worker into)
      (c.session.isAlive ref → result.2 = some (some ref) ∧ result.1.session.value ref = v) ∧
      (c.session.isAlive ref = false → result.2 = none ∧ worker ∈ result.1.missed)) ∧
    (∀ worker into, worker ∈ c.missed →
      let result := c.move (.reread worker into)
      (c.storing.isSome → result.2 = some none) ∧
      (c.storing = none →
        ∃ answer, result.2 = some answer ∧ answer.map result.1.session.value = kept)) ∧
    ((∀ w ∈ freezing.content.values, w.Ordered) → kept =
      if ∀ w ∈ freezing.content.values, w.depth ≤ 126 ∧ w.reread.isSome then v.reread else none) ∧
    ((∀ w ∈ freezing.content.values, w.depth ≤ 126 ∧ w.Holds Number.IsInteger) → kept = some v) := by
  intro v kept c
  have shares : c.Shares freezing ref := (start_shares found taken).after payload moves
  have works : ((reached steps).store.codec c.envelope.codec).behavior = .faithful := by
    rw [after_envelope]
    exact faithful
  refine ⟨fun worker into free => shares.look payload free into, fun worker into missed => ?_,
    freezing.kept_eq payload, freezing.kept_whole payload⟩
  exact ⟨shares.reread_hidden missed into, shares.reread_stored works payload missed into⟩

def sharedRun (other : Json) : List Step :=
  [.addCodec "codec" .faithful,
    .newEnvelope "envelope" "codec" 50000 false,
    .editEnvelope "envelope" (.assign "other" (.fresh other)) none,
    .editEnvelope "envelope" (.assign "data" (.fresh (.number (.int 1)))) none,
    .freeze "envelope"]

def sharedOrigin : Envelope :=
  { Envelope.new 0 50000 false ⟨0⟩ with
    fields := [("other", ⟨0⟩)]
    payload := .live ⟨1⟩ }

def sharedFreezing (other : Json) : Freezing (sharedRun other) :=
  { before := (sharedRun other).take 4
    step := .freeze "envelope"
    later := []
    origin := sharedOrigin
    whole := rfl
    freezes := rfl }

def sharedCrew (other : Json) : Crew :=
  start (reached (sharedRun other)) "envelope" (sharedOrigin.sealed ⟨0⟩)
    (sharedFreezing other).snapshot

theorem content_sharedFreezing (other : Json) : (sharedFreezing other).content =
    [("data", .number (.int 1)), ("other", other)] := rfl

theorem value_sharedFreezing (other : Json) :
    (sharedFreezing other).start.value ⟨1⟩ = .number (.int 1) := rfl

theorem found_sharedRun (other : Json) : (reached (sharedRun other)).envelopes.get? "envelope" =
    some ⟨sharedOrigin.sealed ⟨0⟩, []⟩ := rfl

theorem faithful_sharedRun (other : Json) :
    ((reached (sharedRun other)).store.codec ⟨0⟩).behavior = .faithful := rfl

theorem values_sharedFreezing {depth : Nat} {w : Json}
    (member : w ∈ (sharedFreezing (nested depth)).content.values) :
    w = nested 0 ∨ w = nested depth := by
  rw [content_sharedFreezing] at member
  simpa [Table.values, nested] using member

theorem integers_sharedFreezing (depth : Nat) :
    ∀ w ∈ (sharedFreezing (nested depth)).content.values, w.Holds Number.IsInteger := by
  intro w member
  rcases values_sharedFreezing member with rfl | rfl <;> exact holds_nested _

theorem depth_sharedFreezing {depth : Nat} :
    (∀ w ∈ (sharedFreezing (nested depth)).content.values, w.depth ≤ 126) ↔ depth ≤ 126 := by
  constructor
  · intro fits
    have there : nested depth ∈ (sharedFreezing (nested depth)).content.values := by
      simp [content_sharedFreezing, Table.values]
    simpa [depth_nested] using fits _ there
  · intro fits w member
    rcases values_sharedFreezing member with rfl | rfl
    · simp [depth_nested]
    · rwa [depth_nested]

theorem sharedCrew_reads :
    let c := (sharedCrew (nested 126)).after [.render 0, .look 1 none, .store 0]
    1 ∈ c.missed ∧ ∃ answer, (c.move (.reread 1 none)).2 = some answer ∧
      answer.map (c.move (.reread 1 none)).1.session.value = some (.number (.int 1)) := by
  dsimp only
  have whole := shared_payload (sharedFreezing (nested 126)) (found_sharedRun (nested 126)) rfl
    (faithful_sharedRun _) rfl [.render 0, .look 1 none, .store 0]
  rw [← sharedCrew] at whole
  obtain ⟨-, reads, -, kept⟩ := whole
  have missed :
      1 ∈ ((sharedCrew (nested 126)).after [.render 0, .look 1 none, .store 0]).missed := by
    decide +kernel
  obtain ⟨answer, given, value⟩ := (reads 1 none missed).2
    (Option.isNone_iff_eq_none.mp (by decide +kernel))
  have read := kept fun w member =>
    ⟨depth_sharedFreezing.mpr (Nat.le_refl 126) w member, integers_sharedFreezing 126 w member⟩
  rw [value_sharedFreezing] at read
  exact ⟨missed, answer, given, value.trans read⟩

-- Nothing is found between the two parts of rendering, nor in a text that has to be read whole.
theorem sharedCrew_loses :
    let busy := (sharedCrew (nested 0)).after [.render 0, .look 1 none]
    let deep := (sharedCrew (nested 127)).after [.render 0, .store 0, .look 1 none]
    payloadIn? (Codec.parse (Codec.generate [("data", nested 0)])) = some (nested 0) ∧
    (busy.move (.reread 1 none)).2 = some none ∧
    deep.storing = none ∧ (deep.move (.reread 1 none)).2 = some none := by
  intro busy deep
  have reads : payloadIn? (Codec.parse (Codec.generate [("data", nested 0)])) = some (nested 0) := by
    have stable : (nested 0).reread = some (nested 0) :=
      (holds_nested 0).reread (fun _ integer => integer.reread)
    have ordered : (nested 0).Ordered := (holds_nested 0).mono fun _ _ => trivial
    rw [payloadIn?_generate (by simp [Table.Sorted]) (by simpa [Table.values] using ordered) rfl rfl,
      if_pos (by simp [Table.values, depth_nested, stable]), stable]
  have lost : (busy.move (.reread 1 none)).2 = some none := by decide +kernel
  have missed : 1 ∈ deep.missed := by decide +kernel
  have idle : deep.storing = none := Option.isNone_iff_eq_none.mp (by decide +kernel)
  have shares : deep.Shares (sharedFreezing (nested 127)) ⟨1⟩ :=
    (start_shares (found_sharedRun (nested 127)) rfl).after rfl _
  obtain ⟨answer, given, value⟩ := shares.reread_stored (faithful_sharedRun _) rfl missed none idle
  have unreadable : ¬ ∀ w ∈ (sharedFreezing (nested 127)).content.values,
      w.depth ≤ 126 ∧ w.reread.isSome := by
    intro readable
    have fits := depth_sharedFreezing.mp fun w member => (readable w member).1
    exact absurd fits (by decide)
  have ordered : ∀ w ∈ (sharedFreezing (nested 127)).content.values, w.Ordered := fun w member =>
    (integers_sharedFreezing 127 w member).mono fun _ _ => trivial
  rw [(sharedFreezing (nested 127)).kept_eq rfl ordered, if_neg unreadable] at value
  rw [Option.map_eq_none_iff.mp value] at given
  exact ⟨reads, lost, idle, given⟩

end Crew

end Bayeux
