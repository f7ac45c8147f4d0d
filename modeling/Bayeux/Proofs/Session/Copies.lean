import Bayeux.Proofs.Codec.RoundTrip
import Bayeux.Proofs.Session.Fork

set_option autoImplicit false

namespace Bayeux

structure Place.Apart (left right : Place) : Prop where
  envelope : ∀ name other, left.envelope name ≠ right.envelope other
  handle : ∀ name other, left.handle name ≠ right.handle other

theorem Place.Apart.symm {left right : Place} (apart : left.Apart right) : right.Apart left :=
  ⟨fun name other => (apart.envelope other name).symm,
    fun name other => (apart.handle other name).symm⟩

-- The names that begin with a text.
def Place.under (text : String) : Place where
  envelope := (text ++ ·)
  handle := (text ++ ·)

inductive Turn where
  | left (act : Act)
  | right (act : Act)

namespace Turn

def step (left right : Place) : Turn → Step
  | .left act => act.step left
  | .right act => act.step right

def left? : Turn → Option Act
  | .left act => some act
  | .right _ => none

def right? : Turn → Option Act
  | .left _ => none
  | .right act => some act

end Turn

namespace Session

variable {s t : Session} {shop : Workshop} {place left right : Place} {desk : Desk}
  {locked : String → Prop}

-- What is seen at a place.
def sights (s : Session) (place : Place) : List Act → List Sight
  | [] => []
  | first :: rest =>
    let (t, answer) := s.step (first.step place)
    answer.sight :: t.sights place rest

-- What is seen at each of two places where acts take turns.
def sightsOfBoth (s : Session) (left right : Place) : List Turn → List Sight × List Sight
  | [] => ([], [])
  | .left act :: rest =>
    let (t, answer) := s.step (act.step left)
    let (lefts, rights) := t.sightsOfBoth left right rest
    (answer.sight :: lefts, rights)
  | .right act :: rest =>
    let (t, answer) := s.step (act.step right)
    let (lefts, rights) := t.sightsOfBoth left right rest
    (lefts, answer.sight :: rights)

theorem Undoes.of_store (same : t.store = s.store) : s.Undoes t shop := by
  intro fields text member
  rw [same] at member
  simp [Store.callsSince] at member

theorem Undoes.split (wf : s.WellFormed) (equips : s.Equips shop) {first : Step} {rest : List Step}
    (undoes : s.Undoes (s.after (first :: rest)) shop) :
    s.Undoes (s.step first).1 shop ∧
      (s.step first).1.Undoes ((s.step first).1.after rest) shop := by
  have begun := step_sound wf first
  have whole : s.store.callsSince (s.after (first :: rest)).store shop.settings.codec =
      s.store.callsSince (s.step first).1.store shop.settings.codec ++
        (s.step first).1.store.callsSince ((s.step first).1.after rest).store shop.settings.codec :=
    Store.callsSince_trans begun.advance.store (after_sound begun.wf rest).advance.store equips.has
  constructor
  · exact fun fields text member =>
      undoes fields text (whole ▸ List.mem_append_left _ member)
  · exact fun fields text member =>
      undoes fields text (whole ▸ List.mem_append_right _ member)

section Steps

variable (agree : s.Matches shop place locked desk) (wf : s.WellFormed) (equips : s.Equips shop)
  (act : Act)

include agree wf

-- What an act hands out is what the desk has in hand.
theorem Matches.held (distinct : place.Distinct) (name : String) :
    (s.step (act.step place)).1.shown? (.handle (place.handle name)) =
      (desk.keep act.into? (s.step (act.step place)).2.sight.handed?).hands name := by
  have named : (act.step place).into? = act.into?.map place.handle := Act.into?_step
  by_cases mine : act.into? = some name
  · rw [mine, Option.map_some] at named
    have hands := s.step_hands named
    rw [mine, Answer.handed?_sight]
    cases handed : (s.step (act.step place)).2.handed? with
    | some v =>
      obtain ⟨ref, found, value, -⟩ := hands.handed v handed
      simp [shown?, found, value, Desk.keep]
    | none =>
      have same := hands.nothing handed
      rw [Desk.keep_none, ← agree.hands name]
      simp only [shown?, same]
      exact Option.map_congr fun ref found =>
        value_of_handle _ wf (Table.mem_values_of_get? found)
  · rw [Desk.hands_keep_other mine, ← agree.hands name]
    refine shown_step _ wf fun written => mine ?_
    rw [Act.handle_mem_writes, named] at written
    obtain ⟨other, into, same⟩ := Option.map_eq_some_iff.mp written
    rw [into, distinct.handle other name same]

include equips

theorem Matches.step (distinct : place.Distinct) (unlocked : act.Unlocked locked)
    (undoes : s.Undoes (s.step (act.step place)).1 shop) :
    (s.step (act.step place)).2.sight = (desk.step shop act).2 ∧
      (s.step (act.step place)).1.Matches shop place locked (desk.step shop act).1 := by
  obtain ⟨sight, drafts⟩ := agree.acted wf equips distinct act unlocked undoes
  refine ⟨sight, ?_, fun name => ?_, agree.near, fun name free =>
    (act_chained wf place act).writable wf (agree.writable name free)⟩
  · intro name
    rw [Desk.step, Desk.drafts_keep]
    exact drafts name
  · rw [agree.held wf act distinct name, sight]
    unfold Desk.step Desk.keep
    dsimp only
    split
    · simp [Desk.hands_act]
    · simp [Desk.hands_act]

theorem Matches.elsewhere (apart : left.Apart place)
    (undoes : s.Undoes (s.step (act.step left)).1 shop) :
    (s.step (act.step left)).1.Matches shop place locked desk := by
  refine ⟨fun name => ?_, fun name => ?_, agree.near, fun name free =>
    (act_chained wf left act).writable wf (agree.writable name free)⟩
  · refine Has.frame wf equips (agree.drafts name) _ undoes fun written => ?_
    obtain ⟨target, -, same⟩ := Act.envelope_mem_writes.mp written
    exact apart.envelope target name same.symm
  · rw [← agree.hands name]
    refine shown_step _ wf fun written => ?_
    rw [Act.handle_mem_writes, Act.into?_step] at written
    obtain ⟨other, -, same⟩ := Option.map_eq_some_iff.mp written
    exact apart.handle other name same

end Steps

theorem Matches.sights (agree : s.Matches shop place locked desk) (wf : s.WellFormed)
    (equips : s.Equips shop) (distinct : place.Distinct) (acts : List Act)
    (unlocked : ∀ act ∈ acts, act.Unlocked locked)
    (undoes : s.Undoes (s.after (acts.map (·.step place))) shop) :
    s.sights place acts = desk.sights shop acts := by
  induction acts generalizing s desk with
  | nil => rfl
  | cons first rest ih =>
    obtain ⟨here, later⟩ := undoes.split wf equips
    obtain ⟨free, others⟩ := List.forall_mem_cons.mp unlocked
    obtain ⟨sight, next⟩ := agree.step wf equips first distinct free here
    have sound := step_sound wf (first.step place)
    have rest := ih next sound.wf (equips.advance sound.advance) others later
    simp only [Session.sights, Desk.sights, sight, rest]

theorem Matches.sightsOfBoth {locked' : String → Prop} {other : Desk}
    (agree : s.Matches shop left locked desk) (agree' : s.Matches shop right locked' other)
    (wf : s.WellFormed) (equips : s.Equips shop) (distinct : left.Distinct)
    (distinct' : right.Distinct) (apart : left.Apart right) (turns : List Turn)
    (unlocked : ∀ act ∈ turns.filterMap Turn.left?, act.Unlocked locked)
    (unlocked' : ∀ act ∈ turns.filterMap Turn.right?, act.Unlocked locked')
    (undoes : s.Undoes (s.after (turns.map (·.step left right))) shop) :
    s.sightsOfBoth left right turns =
      (desk.sights shop (turns.filterMap Turn.left?),
        other.sights shop (turns.filterMap Turn.right?)) := by
  induction turns generalizing s desk other with
  | nil => rfl
  | cons first rest ih =>
    obtain ⟨here, later⟩ := undoes.split wf equips
    have sound := step_sound wf (first.step left right)
    have equips' := equips.advance sound.advance
    cases first with
    | left act =>
      obtain ⟨free, others⟩ := List.forall_mem_cons.mp unlocked
      obtain ⟨sight, next⟩ := agree.step wf equips act distinct free here
      have still := agree'.elsewhere wf equips act apart here
      have rest := ih next still sound.wf equips' others unlocked' later
      simp only [Session.sightsOfBoth, Desk.sights, Turn.left?, Turn.right?, List.filterMap_cons,
        sight, rest]
    | right act =>
      obtain ⟨free, others⟩ := List.forall_mem_cons.mp unlocked'
      obtain ⟨sight, next⟩ := agree'.step wf equips act distinct' free here
      have still := agree.elsewhere wf equips act apart.symm here
      have rest := ih still next sound.wf equips' unlocked others later
      simp only [Session.sightsOfBoth, Desk.sights, Turn.left?, Turn.right?, List.filterMap_cons,
        sight, rest]

theorem exists_open (wf : s.WellFormed) {e : Envelope} (live : e ∈ s.liveEnvelopes)
    (unfrozen : e.snapshot = none) :
    ∃ members, s.OpenEnvelope ⟨e.threshold, e.ignoreNull, e.codec⟩ members e ∧ members.Sorted := by
  have ok := wf.envelopes e live
  obtain ⟨bare, notNull⟩ := ok.unfrozen unfrozen
  have sorted : (s.store.valuesOf e.fields).Sorted := ok.fields.sorted.mapValues _
  have apart : (s.store.valuesOf e.fields).get? FieldName.data = none := by
    rw [get?_valuesOf, ok.apart, Option.map_none]
  have none (hidden : e.livePayload = none) :
      s.OpenEnvelope ⟨e.threshold, e.ignoreNull, e.codec⟩ (s.store.valuesOf e.fields) e :=
    { live, unfrozen
      settings := rfl
      fields := (Table.erase_of_missing sorted apart).symm
      payload := by simp [hidden, apart, shownField] }
  cases payload : e.payload with
  | absent | null =>
    exact ⟨_, none (by simp [Envelope.livePayload, payload, Slot.upgrade]), sorted⟩
  | live ref =>
    have visible := notNull ref (by simp [payload, Slot.owned])
    refine ⟨(s.store.valuesOf e.fields).insert FieldName.data (s.value ref), ?_, sorted.insert _ _⟩
    exact
      { live, unfrozen
        settings := rfl
        fields := by rw [Table.erase_insert_self sorted, Table.erase_of_missing sorted apart]
        payload := by
          simp [Envelope.livePayload, payload, Slot.upgrade, shownField, Option.filter,
            Session.value, visible] }
  | weak ref => simp [payload, Slot.watched] at bare

-- What is reached over associations is shared.
theorem named_of_unshared {name : String} {hops : Nat} {e : Envelope} {chain : List Envelope}
    (found : s.linkedAt? name hops = some ⟨e, chain⟩) (unshared : s.isShared e = false) :
    hops = 0 := by
  obtain ⟨linked, here, there⟩ := Option.bind_eq_some_iff.mp found
  cases hops with
  | zero => rfl
  | succ hops =>
    have inside : e ∈ linked.chain := by
      simp only [Linked.at?, Linked.all, List.drop_succ_cons] at there
      split at there
      · cases there
      next listed =>
        cases there
        exact List.mem_of_mem_drop (listed ▸ List.mem_cons_self)
    exact absurd rfl (not_in_chain unshared here inside)

structure Opens (s : Session) (place : Place) (root name : String) (hops : Nat) : Prop where
  distinct : place.Distinct
  named : place.envelope root = name
  far : place.hops root = hops
  near : ∀ other, other ≠ root → place.hops other = 0
  fresh : ∀ other, other ≠ root → s.envelopes.get? (place.envelope other) = none

def opened (s : Session) (place : Place) (root : String) (draft : Draft) : Desk :=
  { drafts := fun name => if name = root then some draft else none
    hands := fun name => s.shown? (.handle (place.handle name)) }

theorem Opens.matches {root name : String} {hops : Nat} {draft : Draft}
    (opens : s.Opens place root name hops) (drafted : s.Drafted shop name hops draft)
    (own : ¬ locked root → hops = 0 ∧ s.Writable name) :
    s.Matches shop place locked (s.opened place root draft) := by
  refine ⟨fun other => ?_, fun other => rfl, fun other free => ?_, fun other free => ?_⟩
  all_goals by_cases same : other = root
  · simp only [opened, same, if_true, opens.named, opens.far]
    exact drafted
  · simp only [opened, same, if_false]
    simp [Has, linkedAt?, opens.fresh other same]
  · rw [same, opens.far]
    exact (own (same ▸ free)).1
  · exact opens.near other same
  · rw [same, opens.named]
    exact (own (same ▸ free)).2
  · simp [Writable, opens.fresh other same]

/-- An open envelope and a copy of it do not notice what is done with the other, and what is done
with the one gives the same with the other. An envelope that another one is associated with is
only read. -/
theorem copies_apart (steps : List Step) {name target root : String} {hops : Nat} {e : Envelope}
    {chain : List Envelope} (found : (reached steps).linkedAt? name hops = some ⟨e, chain⟩)
    (unfrozen : e.snapshot = none) (differ : name ≠ target) {gen : Generate} {par : Parse}
    (generates : ((reached steps).store.codec e.codec).behavior.Generates gen)
    (parses : ((reached steps).store.codec e.codec).behavior.Parses par) :
    let shop : Workshop := ⟨⟨e.threshold, e.ignoreNull, e.codec⟩, gen, par⟩
    let s := ((reached steps).step (.copyEnvelope name hops target)).1
    s.Opens left root name hops → s.Opens right root target 0 → left.Apart right →
    ∀ turns : List Turn,
    let lefts := turns.filterMap Turn.left?
    let rights := turns.filterMap Turn.right?
    ((reached steps).isShared e = true → ∀ act ∈ lefts, act.written? ≠ some root) →
    s.Undoes (s.after (turns.map (·.step left right))) shop →
    s.Undoes (s.after (lefts.map (·.step left))) shop →
    s.Undoes (s.after (rights.map (·.step right))) shop →
    s.sightsOfBoth left right turns = (s.sights left lefts, s.sights right rights) ∧
      ((∀ held, s.shown? (.handle (left.handle held)) = s.shown? (.handle (right.handle held))) →
        s.Undoes (s.after (lefts.map (·.step right))) shop →
        s.sights right lefts = s.sights left lefts) := by
  intro shop s opens opens' apart turns lefts rights reads both alone alone'
  have wf := reached_wellFormed steps
  have live := live_linked found
  obtain ⟨members, shows, sorted⟩ := exists_open wf live unfrozen
  have equips : (reached steps).Equips shop := ⟨(wf.envelopes e live).codec, generates, parses⟩
  have drafted : (reached steps).Drafted shop name hops ⟨members, false⟩ :=
    .unfrozen found shows sorted
  have copied : (reached steps).step (.copyEnvelope name hops target) =
      ((reached steps).takeId.1.addEnvelope target (e.copy (reached steps).nextId), .done) :=
    withEnvelope_found found _
  have undoes : (reached steps).Undoes s shop := .of_store (congrArg (·.1.store) copied)
  have sound := step_sound wf (.copyEnvelope name hops target)
  have equips' : s.Equips shop := equips.advance sound.advance
  have chained : (reached steps).Chained s :=
    act_chained wf ⟨id, id, fun _ => hops⟩ (.copy name target)
  have copy : s.Drafted shop target 0 ⟨members, false⟩ :=
    (drafted.copy wf equips target undoes).1
  have original : s.Drafted shop name hops ⟨members, false⟩ :=
    drafted.frame wf equips _ undoes (by simpa [Step.writes, Step.handle?, Step.message?,
      Step.envelope?, Step.target?] using differ)
  let locked (other : String) : Prop := other = root ∧ (reached steps).isShared e = true
  have agree : s.Matches shop left locked (s.opened left root ⟨members, false⟩) := by
    refine opens.matches original fun free => ?_
    have unshared : (reached steps).isShared e = false := by simpa [locked] using free
    have near := named_of_unshared found unshared
    refine ⟨near, chained.writable wf fun linked here => ?_⟩
    rw [near, linkedAt?_zero, here] at found
    rwa [Option.some.inj found]
  have agree' : s.Matches shop right (fun _ => False) (s.opened right root ⟨members, false⟩) := by
    refine opens'.matches copy fun _ => ⟨rfl, fun linked here => ?_⟩
    have stepped := congrArg Prod.fst copied
    change s = _ at stepped
    rw [stepped, addEnvelope, Table.get?_insert_self] at here
    rw [stepped, ← Option.some.inj here]
    exact addEnvelope_unshared wf target rfl
  have unlocked : ∀ act ∈ lefts, act.Unlocked locked := by
    rintro act listed other written ⟨rfl, shared⟩
    exact reads shared act listed written
  have free (acts : List Act) : ∀ act ∈ acts, act.Unlocked fun _ => False :=
    fun _ _ _ _ => not_false
  have first := agree.sights sound.wf equips' opens.distinct lefts unlocked alone
  have second := agree'.sights sound.wf equips' opens'.distinct rights (free rights) alone'
  refine ⟨?_, fun same undone => ?_⟩
  · rw [first, second]
    exact agree.sightsOfBoth agree' sound.wf equips' opens.distinct opens'.distinct apart turns
      unlocked (free rights) both
  · have hands : s.opened right root ⟨members, false⟩ = s.opened left root ⟨members, false⟩ := by
      simp only [opened, same]
    rw [first, agree'.sights sound.wf equips' opens'.distinct lefts (free lefts) undone, hands]

theorem distinct_under (text : String) : (Place.under text).Distinct :=
  ⟨fun _ _ => (String.append_right_inj text).mp, fun _ _ => (String.append_right_inj text).mp⟩

theorem apart_under : (Place.under "left").Apart (Place.under "right") := by
  have differ (name other : String) : "left" ++ name ≠ "right" ++ other := by
    intro same
    have lists := congrArg String.toList same
    simp at lists
  exact ⟨differ, differ⟩

def forkedRun : List Step :=
  [.addCodec "codec" .faithful,
    .newEnvelope "left" "codec" 50000 false,
    .editEnvelope "left" (.put "data" (.fresh (.string "old"))) none]

-- The payload is let go of at the one place, then at the other, and is read from the text.
def forkedTurns : List Turn :=
  [.left (.freeze ""), .left (.render "" .text),
    .right (.edit "" (.put "data" (.fresh (.string "new"))) none), .right (.freeze ""),
    .left (.readField "" "data" none), .right (.render "" .text)]

def forkedEnvelope : Envelope := { Envelope.new 0 50000 false ⟨0⟩ with payload := .live ⟨0⟩ }

def faithfulShop : Workshop :=
  ⟨⟨50000, false, ⟨0⟩⟩, fun fields => .ok (Codec.generate fields), Codec.parse⟩

-- The call writes a payload that is a text, if it writes anything.
def writesText : CodecCall → Bool
  | .generate [("data", .string payload)] (.ok text) =>
    text = Codec.generate [("data", .string payload)]
  | .generate _ (.ok _) => false
  | .generate _ (.error _) | .parse _ _ => true

theorem undoes_texts
    (texts : (s.store.callsSince t.store ⟨0⟩).all writesText = true) :
    s.Undoes t faithfulShop := by
  intro fields text member
  have writes := List.all_eq_true.mp texts _ member
  unfold writesText at writes
  split at writes
  next payload text' same =>
    obtain ⟨rfl, answer⟩ := CodecCall.generate.inj same
    obtain rfl := Except.ok.inj answer
    rw [of_decide_eq_true writes]
    refine Codec.parse_generate_fits (by simp [Table.Sorted]) ?_ ?_
    · simp [Table.values, Json.Holds]
    · simp [Table.values, Json.depth]
  next => exact absurd writes Bool.false_ne_true
  next same => cases same
  next same => cases same

theorem forkedRun_apart :
    let s := ((reached forkedRun).step (.copyEnvelope "left" 0 "right")).1
    let lefts := forkedTurns.filterMap Turn.left?
    let rights := forkedTurns.filterMap Turn.right?
    s.sightsOfBoth (.under "left") (.under "right") forkedTurns =
        (s.sights (.under "left") lefts, s.sights (.under "right") rights) ∧
      s.sights (.under "right") lefts = s.sights (.under "left") lefts := by
  intro s lefts rights
  have fresh (text other : String) (named : text = "left" ∨ text = "right") (differ : other ≠ "") :
      s.envelopes.get? (text ++ other) = none := by
    have keys : s.envelopes.keys = ["left" ++ "", "right" ++ ""] := rfl
    cases found : s.envelopes.get? (text ++ other) with
    | none => rfl
    | some linked =>
      have member : text ++ other = "left" ++ "" ∨ text ++ other = "right" ++ "" := by
        simpa only [keys, List.mem_cons, List.not_mem_nil, or_false] using
          Table.mem_keys_of_get? found
      rcases named with rfl | rfl <;> rcases member with same | same
      · exact absurd ((distinct_under "left").envelope other "" same) differ
      · exact absurd same (apart_under.envelope other "")
      · exact absurd same (apart_under.symm.envelope other "")
      · exact absurd ((distinct_under "right").envelope other "" same) differ
  have opens : s.Opens (.under "left") "" "left" 0 :=
    ⟨distinct_under "left", rfl, rfl, fun _ _ => rfl, fun other => fresh "left" other (.inl rfl)⟩
  have opens' : s.Opens (.under "right") "" "right" 0 :=
    ⟨distinct_under "right", rfl, rfl, fun _ _ => rfl, fun other => fresh "right" other (.inr rfl)⟩
  have found : (reached forkedRun).linkedAt? "left" 0 = some ⟨forkedEnvelope, []⟩ := rfl
  have whole := copies_apart forkedRun found rfl
    (show "left" ≠ "right" by decide) (fun _ _ => rfl) (fun _ _ => rfl) opens opens' apart_under
    forkedTurns (fun shared => absurd shared (by decide)) (undoes_texts (by decide +kernel))
    (undoes_texts (by decide +kernel)) (undoes_texts (by decide +kernel))
  obtain ⟨same, again⟩ := whole
  exact ⟨same, again (fun _ => rfl) (undoes_texts (by decide +kernel))⟩

end Session

end Bayeux
