import Bayeux.Proofs.Codec.RoundTrip
import Bayeux.Proofs.Session.Answering
import Bayeux.Proofs.Session.Reading

set_option autoImplicit false

namespace Bayeux

namespace Json

-- What every value that was read satisfies: the members of its objects are in order.
def Ordered (v : Json) : Prop := v.Holds fun _ => True

theorem isSome_rereadMembers {members : JsonMap} :
    (rereadMembers members).isSome ↔ ∀ v ∈ members.values, v.reread.isSome := by
  induction members with
  | nil => simp [rereadMembers, Table.values]
  | cons member rest ih =>
    obtain ⟨key, v⟩ := member
    simp only [Table.values, List.map_cons, List.forall_mem_cons] at ih ⊢
    rw [← ih, rereadMembers]
    cases v.reread <;> cases rereadMembers rest <;> simp

theorem get?_rereadMembers {members found : JsonMap} (same : rereadMembers members = some found)
    (key : String) : found.get? key = (members.get? key).bind reread := by
  induction members generalizing found with
  | nil =>
    rw [← Option.some.inj same]
    rfl
  | cons member rest ih =>
    obtain ⟨name, v⟩ := member
    rw [rereadMembers] at same
    cases first : v.reread with
    | none => simp [first] at same
    | some w =>
      cases others : rereadMembers rest with
      | none => simp [first, others] at same
      | some more =>
        simp only [first, others, Option.bind_eq_bind, Option.bind_some, Option.pure_def,
          Option.some.injEq] at same
        subst same
        by_cases here : name = key
        · simp [Table.get?, here, first]
        · simpa [Table.get?, here] using ih others

theorem isNull_reread {v w : Json} (same : v.reread = some w) : w.isNull = v.isNull := by
  cases v with
  | null | bool | string => rw [← Option.some.inj same]
  | number | array | object =>
    obtain ⟨inner, -, rfl⟩ := Option.map_eq_some_iff.mp same
    rfl

end Json

open Json in
-- What is left of a payload in the text of the fields: all of them have to be read.
theorem payloadIn?_generate {fields : JsonMap} (sorted : fields.Sorted)
    (ordered : ∀ w ∈ fields.values, w.Ordered) {v : Json}
    (found : fields.get? FieldName.data = some v) (notNull : v.isNull = false) :
    payloadIn? (Codec.parse (Codec.generate fields)) =
      if ∀ w ∈ fields.values, w.depth ≤ 126 ∧ w.reread.isSome then v.reread else none := by
  have whole : (Json.object fields).Ordered := ⟨sorted, membersHold_iff.mpr ordered⟩
  split
  next readable =>
    obtain ⟨members, same⟩ := Option.isSome_iff_exists.mp
      (isSome_rereadMembers.mpr fun w member => (readable w member).2)
    have fits := Codec.fits_iff.mpr fun w member => (readable w member).1
    have read := (parse_text_ok_iff whole).mpr ⟨by rw [reread, same]; rfl, fits⟩
    have data : Table.get? members FieldName.data = v.reread := by
      rw [get?_rereadMembers same, found, Option.bind_some]
    simp only [Codec.parse, Codec.generate_eq, read, payloadIn?, Except.toOption, Option.bind_some,
      data]
    cases again : v.reread with
    | none => rfl
    | some w => simp [Option.filter, isNull_reread again, notNull]
  next unreadable =>
    cases read : Json.parse (Codec.generate fields) with
    | error problem => simp [Codec.parse, read, payloadIn?, Except.toOption]
    | ok found =>
      obtain ⟨same, fits⟩ := (parse_text_ok_iff whole).mp read
      refine absurd (fun w member => ⟨Codec.fits_iff.mp fits w member, ?_⟩) unreadable
      refine isSome_rereadMembers.mp ?_ w member
      rw [reread] at same
      cases others : rereadMembers fields with
      | none => simp [others] at same
      | some members => rfl

namespace Freezing

open Session

variable {steps : List Step} (freezing : Freezing steps) {e : Envelope}
  (live : e ∈ (reached steps).liveEnvelopes) (taken : e.snapshot = some freezing.snapshot)
  (faithful : ((reached steps).store.codec e.codec).behavior = .faithful)

include live taken faithful

theorem text_faithful {text : String} (done : rendering? freezing.attempts = some text) :
    text = Codec.generate freezing.content := by
  have wf : freezing.start.WellFormed := reached_wellFormed freezing.before
  have begun : Carries freezing.start freezing.origin freezing.done [] :=
    freezing_carries wf freezing.freezes
  have sound : Sound _ freezing.start freezing.done := step_sound wf freezing.step
  have later := (after_sound sound.wf freezing.later).advance
  have uses : freezing.done.UsesGenerate freezing.snapshot
      fun fields => .ok (Codec.generate fields) := by
    intro other live' taken'
    have codec : other.codec = e.codec := congrArg Factory.codec
      ((begun.settings_eq live' taken').trans (freezing.carries.settings_eq live taken).symm)
    have kept := (later.store.codecs other.codec (sound.wf.envelopes other live').codec).1
    rw [← freezing.reached_eq, codec, faithful] at kept
    rw [codec, ← kept]
    exact fun _ _ => rfl
  obtain ⟨failures, shape⟩ := freezing.carries.log
  have member : ⟨freezing.content, .ok text⟩ ∈ freezing.attempts := by
    rw [shape, done]
    simp [attemptsOf, Freezing.content, Freezing.start]
  have answer := attempts_follow sound.wf begun.taken uses freezing.later _ member
  exact Except.ok.inj answer

theorem payload_reclaimed {ref : Ref} (payload : freezing.origin.payload = .live ref)
    (dead : (reached steps).isAlive ref = false) :
    let result := (reached steps).payload e
    result.2.map result.1.value = payloadIn? (Codec.parse (Codec.generate freezing.content)) := by
  have carries := freezing.carries
  have lost : ∀ other ∈ freezing.origin.payload.owned, (reached steps).isAlive other = false := by
    simpa [payload, Slot.owned] using dead
  cases done : rendering? freezing.attempts with
  | none =>
    have alive := carries.alive taken live payload done
    simp [dead] at alive
  | some text =>
    have same := freezing.text_faithful live taken faithful done
    intro result
    have read : result = _ := carries.payload_dead taken done lost
    have parses : ((reached steps).store.codec e.codec).behavior.Parses Codec.parse := by
      rw [faithful]
      exact fun _ _ => rfl
    rw [read, reread_value (Stored.text_ofText text _), Store.parse_follows parses, same]

omit live taken faithful

section Kept

variable {ref : Ref} (payload : freezing.origin.payload = .live ref)

include payload

theorem content_live : freezing.content.Sorted ∧
    freezing.content.get? FieldName.data = some (freezing.start.value ref) ∧
    (freezing.start.value ref).isNull = false := by
  have origin := freezing.origin_wellFormed
  have content : freezing.content = (freezing.start.store.valuesOf freezing.origin.fields).insert
      FieldName.data (freezing.start.value ref) := by
    simp only [Freezing.content, Envelope.content, payload]
    rfl
  refine ⟨?_, ?_, (origin.unfrozen freezing.origin_open).2 ref (by simp [payload, Slot.owned])⟩
  · rw [content]
    exact (origin.fields.sorted.mapValues _).insert _ _
  · rw [content]
    exact Table.get?_insert_self _ _ _

theorem kept_eq (ordered : ∀ w ∈ freezing.content.values, w.Ordered) :
    payloadIn? (Codec.parse (Codec.generate freezing.content)) =
      if ∀ w ∈ freezing.content.values, w.depth ≤ 126 ∧ w.reread.isSome
      then (freezing.start.value ref).reread else none := by
  obtain ⟨sorted, data, notNull⟩ := freezing.content_live payload
  exact payloadIn?_generate sorted ordered data notNull

theorem kept_whole
    (whole : ∀ w ∈ freezing.content.values, w.depth ≤ 126 ∧ w.Holds Number.IsInteger) :
    payloadIn? (Codec.parse (Codec.generate freezing.content)) = some (freezing.start.value ref) := by
  have stable (w : Json) (member : w ∈ freezing.content.values) : w.reread = some w :=
    (whole w member).2.reread (fun _ integer => integer.reread) w
  have ordered (w : Json) (member : w ∈ freezing.content.values) : w.Ordered :=
    (whole w member).2.mono fun _ _ => trivial
  obtain ⟨-, data, -⟩ := freezing.content_live payload
  rw [freezing.kept_eq payload ordered,
    if_pos fun w member => ⟨(whole w member).1, by simp [stable w member]⟩]
  exact stable _ (Table.mem_values_of_get? data)

end Kept

end Freezing

namespace Session

/-- A payload that nobody holds any more is read as an equal value if and only if no field nests
more than 126 containers, every number can be read and those of the payload are read as they were. -/
theorem reclaimed_payload {steps : List Step} (freezing : Freezing steps) {e : Envelope}
    (live : e ∈ (reached steps).liveEnvelopes) (taken : e.snapshot = some freezing.snapshot)
    (faithful : ((reached steps).store.codec e.codec).behavior = .faithful) {ref : Ref}
    (payload : freezing.origin.payload = .live ref)
    (ordered : ∀ w ∈ freezing.content.values, w.Ordered)
    (dead : (reached steps).isAlive ref = false) :
    let v := freezing.start.value ref
    let result := (reached steps).payload e
    let found := result.2.map result.1.value
    let readable := ∀ w ∈ freezing.content.values, w.depth ≤ 126 ∧ w.reread.isSome
    found = (if readable then v.reread else none) ∧
      (found.any (Json.same v) ↔ readable ∧ v.reread.any (Json.same v)) ∧
      ((∀ w ∈ freezing.content.values, w.depth ≤ 126 ∧ w.Holds Number.IsInteger) →
        found = some v) := by
  intro v result found readable
  have kept := freezing.payload_reclaimed live taken faithful payload dead
  have read : found = if readable then v.reread else none :=
    kept.trans (freezing.kept_eq payload ordered)
  refine ⟨read, ?_, fun whole => kept.trans (freezing.kept_whole payload whole)⟩
  rw [read]
  by_cases ok : readable
  · simp [ok]
  · simp [ok]

-- Lists around a number.
def nested : Nat → Json
  | 0 => .number (.int 1)
  | n + 1 => .array [nested n]

theorem depth_nested (n : Nat) : (nested n).depth = n := by
  induction n with
  | zero => rfl
  | succ n ih => simp [nested, Json.depth, Json.itemsDepth, ih]

theorem holds_nested (n : Nat) : (nested n).Holds Number.IsInteger := by
  induction n with
  | zero => simp [nested, Json.Holds, Number.IsInteger, Number.InRange]
  | succ n ih => simpa [nested, Json.Holds, Json.ItemsHold] using ih

def reclaimedRun (v : Json) : List Step :=
  [.addCodec "codec" .faithful,
    .newValue "payload" v,
    .newEnvelope "envelope" "codec" 50000 false,
    .editEnvelope "envelope" (.assign "data" (.handle "payload")) none,
    .freeze "envelope",
    .render "envelope" 0 .text,
    .dropHandle "payload"]

def reclaimedEnvelope : Envelope :=
  { Envelope.new 0 50000 false ⟨0⟩ with
    payload := .weak ⟨0⟩
    snapshot := some ⟨0⟩ }

def reclaimedFreezing (n : Nat) : Freezing (reclaimedRun (nested (n + 1))) :=
  { before := (reclaimedRun (nested (n + 1))).take 4
    step := .freeze "envelope"
    later := (reclaimedRun (nested (n + 1))).drop 5
    origin := { Envelope.new 0 50000 false ⟨0⟩ with payload := .live ⟨0⟩ }
    whole := rfl
    freezes := rfl }

theorem content_reclaimedFreezing (n : Nat) :
    (reclaimedFreezing n).content = [(FieldName.data, nested (n + 1))] := rfl

theorem ordered_reclaimedFreezing (n : Nat) :
    ∀ w ∈ (reclaimedFreezing n).content.values, w.Ordered := by
  rw [content_reclaimedFreezing]
  have ordered : (nested (n + 1)).Ordered := (holds_nested (n + 1)).mono fun _ _ => trivial
  simpa [Table.values] using ordered

theorem faithful_reclaimedRun (v : Json) :
    ((reached (reclaimedRun v)).store.codec ⟨0⟩).behavior = .faithful := by
  have whole : reclaimedRun v = [.addCodec "codec" .faithful] ++ (reclaimedRun v).drop 1 := rfl
  have wf := reached_wellFormed [.addCodec "codec" .faithful]
  have start : (reached [.addCodec "codec" .faithful]).store.HasCodec ⟨0⟩ := Nat.zero_lt_one
  rw [whole, reached_append]
  exact ((after_sound wf _).advance.store.codecs ⟨0⟩ start).1.trans rfl

theorem nested_reclaimed :
    let s := reached (reclaimedRun (nested 126))
    let result := s.payload reclaimedEnvelope
    (reclaimedEnvelope ∈ s.liveEnvelopes ∧ reclaimedEnvelope.isFrozen ∧ s.isAlive ⟨0⟩ = false) ∧
      result.2.map result.1.value = some (nested 126) := by
  have live : reclaimedEnvelope ∈ (reached (reclaimedRun (nested 126))).liveEnvelopes := by
    decide +kernel
  have dead : (reached (reclaimedRun (nested 126))).isAlive ⟨0⟩ = false := by decide +kernel
  have integers : ∀ w ∈ (reclaimedFreezing 125).content.values,
      w.depth ≤ 126 ∧ w.Holds Number.IsInteger := by
    rw [content_reclaimedFreezing]
    simp [Table.values, depth_nested, holds_nested]
  obtain ⟨-, -, same⟩ := reclaimed_payload (reclaimedFreezing 125) live rfl
    (faithful_reclaimedRun _) rfl (ordered_reclaimedFreezing 125) dead
  exact ⟨⟨live, rfl, dead⟩, same integers⟩

-- One container more, and the payload is lost.
theorem nested_lost :
    let s := reached (reclaimedRun (nested 127))
    (reclaimedEnvelope ∈ s.liveEnvelopes ∧ reclaimedEnvelope.isSerialized s.store ∧
      s.isAlive ⟨0⟩ = false) ∧ (s.payload reclaimedEnvelope).2 = none := by
  have state : reclaimedEnvelope ∈ (reached (reclaimedRun (nested 127))).liveEnvelopes ∧
      reclaimedEnvelope.isSerialized (reached (reclaimedRun (nested 127))).store ∧
      (reached (reclaimedRun (nested 127))).isAlive ⟨0⟩ = false := by
    decide +kernel
  have deep : ¬ ∀ w ∈ (reclaimedFreezing 126).content.values, w.depth ≤ 126 ∧ w.reread.isSome := by
    rw [content_reclaimedFreezing]
    simp [Table.values, depth_nested]
  have sorted : (reclaimedFreezing 126).content.Sorted := by
    simp [content_reclaimedFreezing, Table.Sorted]
  have read := (reclaimedFreezing 126).payload_reclaimed state.1 rfl (faithful_reclaimedRun _) rfl
    state.2.2
  rw [payloadIn?_generate sorted (ordered_reclaimedFreezing 126) rfl rfl, if_neg deep] at read
  exact ⟨state, Option.map_eq_none_iff.mp read⟩

end Session

end Bayeux
