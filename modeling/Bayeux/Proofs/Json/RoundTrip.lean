import Bayeux.Json.Parser
import Bayeux.Proofs.Json.Numerals
import Bayeux.Proofs.Json.Strings
import Bayeux.Proofs.Table

set_option autoImplicit false


namespace Bayeux

-- What reading makes of the text of a number, which need not be the same number.
def Number.reread (n : Number) : Option Number :=
  match Json.parse n.text with
  | .ok (.number m) => some m
  | _ => none

namespace Json

mutual

def reread : Json → Option Json
  | .number n => n.reread.map .number
  | .array items => (rereadItems items).map .array
  | .object members => (rereadMembers members).map .object
  | v => some v

def rereadItems : List Json → Option (List Json)
  | [] => some []
  | v :: rest => do return (← reread v) :: (← rereadItems rest)

def rereadMembers : List (String × Json) → Option (List (String × Json))
  | [] => some []
  | (key, v) :: rest => do return (key, ← reread v) :: (← rereadMembers rest)

end

mutual

-- All numbers in a value are as `p` says, and the members of every object are in order.
def Holds (p : Number → Prop) : Json → Prop
  | .number n => p n
  | .array items => ItemsHold p items
  | .object members => Table.Sorted members ∧ MembersHold p members
  | _ => True

def ItemsHold (p : Number → Prop) : List Json → Prop
  | [] => True
  | v :: rest => Holds p v ∧ ItemsHold p rest

def MembersHold (p : Number → Prop) : List (String × Json) → Prop
  | [] => True
  | (_, v) :: rest => Holds p v ∧ MembersHold p rest

end

mutual

theorem Holds.mono {p q : Number → Prop} (weaker : ∀ n, p n → q n) (v : Json) (all : Holds p v) :
    Holds q v := by
  match v with
  | .null | .bool _ | .string _ => trivial
  | .number n => exact weaker n all
  | .array items => exact ItemsHold.mono weaker items all
  | .object members => exact ⟨all.1, MembersHold.mono weaker members all.2⟩

theorem ItemsHold.mono {p q : Number → Prop} (weaker : ∀ n, p n → q n) (items : List Json)
    (all : ItemsHold p items) : ItemsHold q items := by
  match items with
  | [] => trivial
  | v :: items => exact ⟨Holds.mono weaker v all.1, ItemsHold.mono weaker items all.2⟩

theorem MembersHold.mono {p q : Number → Prop} (weaker : ∀ n, p n → q n)
    (members : List (String × Json)) (all : MembersHold p members) : MembersHold q members := by
  match members with
  | [] => trivial
  | (_, v) :: members => exact ⟨Holds.mono weaker v all.1, MembersHold.mono weaker members all.2⟩

end

theorem membersHold_iff {p : Number → Prop} {members : JsonMap} :
    MembersHold p members ↔ ∀ v ∈ members.values, Holds p v := by
  induction members with
  | nil => simp [MembersHold, Table.values]
  | cons member rest ih => simpa [MembersHold, Table.values] using fun _ => ih

theorem membersDepth_le_iff {members : JsonMap} {limit : Nat} :
    membersDepth members ≤ limit ↔ ∀ v ∈ members.values, v.depth ≤ limit := by
  induction members with
  | nil => simp [membersDepth, Table.values]
  | cons member rest ih => simpa [membersDepth, Table.values, Nat.max_le] using fun _ => ih

/-- A value that was written is read back, with the rest behind it, unless it is nested too deep or
one of its numbers is too large. -/
def ReadsBack (room depth : Nat) (v : Option Json) (rest : List Char) :
    Except Fault (Json × List Char) → Prop
  | .ok (found, after) => v = some found ∧ after = rest ∧ depth ≤ room
  | .error fault => fault.cause = .recursionLimit ∧ room < depth ∨
    fault.cause = .numberOutOfRange ∧ v = none

theorem skipSpace_cons {c : Char} (visible : isSpace c = false) (rest : List Char) :
    skipSpace (c :: rest) = c :: rest := by
  simp [skipSpace, visible]

theorem IsNumeral.first {s : List Char} (numeral : IsNumeral s) :
    ∃ c rest, s = c :: rest ∧ c.isDigit := by
  obtain ⟨digits, ending, whole, -, rfl⟩ := numeral
  obtain ⟨c, rest, rfl⟩ := List.exists_cons_of_ne_nil whole.present
  exact ⟨c, rest ++ ending, rfl, whole.all c (by simp)⟩

theorem not_digit {c : Char} (digit : c.isDigit) : isSpace c = false ∧ c ≠ 'n' ∧ c ≠ 't' ∧ c ≠ 'f' ∧
    c ≠ '"' ∧ c ≠ '-' ∧ c ≠ '[' ∧ c ≠ '{' ∧ c ≠ ']' := by
  refine ⟨?_, ?_, ?_, ?_, ?_, ?_, ?_, ?_, ?_⟩
  · refine Bool.eq_false_iff.mpr fun space => ?_
    simp only [isSpace, Bool.or_eq_true, decide_eq_true_eq] at space
    rcases space with ((rfl | rfl) | rfl) | rfl <;> revert digit <;> decide
  all_goals
    rintro rfl
    revert digit
    decide

theorem readValue_digit {c : Char} (digit : c.isDigit) (fuel room : Nat) (rest : List Char) :
    readValue (fuel + 1) room (c :: rest) =
      (readNumber false (c :: rest)).map fun found => (.number found.1, found.2) := by
  obtain ⟨visible, n, t, f, quote, minus, bracket, brace, -⟩ := not_digit digit
  rw [readValue, skipSpace_cons visible]
  split <;> simp_all
  cases readNumber false (c :: rest) <;> rfl

theorem readValue_minus (fuel room : Nat) (rest : List Char) :
    readValue (fuel + 1) room ('-' :: rest) =
      (readNumber true rest).map fun found => (.number found.1, found.2) := by
  simp only [readValue, skipSpace_cons (c := '-') rfl]
  cases readNumber true rest <;> rfl

theorem readValue_number_closed (n : Number) : ∃ m : Option Number, ∀ fuel room rest, Separate rest →
    ReadsBack room 0 (m.map .number) rest (readValue (fuel + 1) room (n.chars ++ rest)) := by
  obtain ⟨negative, s, numeral, shape⟩ := n.chars_shape
  obtain ⟨c, more, start, digit⟩ := numeral.first
  obtain ⟨digits, ending, whole, tail, same⟩ := numeral
  refine ⟨(readNumber negative s).toOption.map (·.1), fun fuel room rest separate => ?_⟩
  have closed := readNumber_closed negative whole tail rest separate
  rw [← same] at closed
  have read : readValue (fuel + 1) room (n.chars ++ rest) =
      (readNumber negative (s ++ rest)).map fun found => (.number found.1, found.2) := by
    rw [shape]
    cases negative with
    | true => exact readValue_minus fuel room (s ++ rest)
    | false =>
      rw [start]
      exact readValue_digit digit fuel room (more ++ rest)
  rw [read]
  rcases answer : readNumber negative (s ++ rest) with fault | ⟨found, after⟩
  · rw [answer] at closed
    exact .inr ⟨closed.2, by simp [closed.1]⟩
  · rw [answer] at closed
    exact ⟨by simp [closed.1], closed.2, Nat.zero_le room⟩

theorem readText_eq (text : String) : readText text =
    (readValue (2 * text.toList.length + 1) maxDepth text.toList).bind fun found =>
      (readEnd found.2).map fun _ => found.1 := by
  simp only [readText, bind, Except.bind]
  cases answer : readValue (2 * text.toList.length + 1) maxDepth text.toList with
  | error fault => rfl
  | ok found =>
    dsimp only
    cases readEnd found.2 <;> rfl

theorem readText_alone {text : String} {depth : Nat} {v : Option Json}
    (alone : ReadsBack maxDepth depth v []
      (readValue (2 * text.toList.length + 1) maxDepth text.toList)) :
    ReadsBack maxDepth depth v [] ((readText text).map fun found => (found, [])) := by
  rw [readText_eq]
  cases answer : readValue (2 * text.toList.length + 1) maxDepth text.toList with
  | error fault =>
    rw [answer] at alone
    exact alone
  | ok found =>
    obtain ⟨found, after⟩ := found
    rw [answer] at alone
    obtain ⟨same, rfl, fits⟩ := alone
    exact ⟨same, rfl, fits⟩

theorem readValue_null (fuel room : Nat) (rest : List Char) :
    readValue (fuel + 1) room (null.chars ++ rest) = .ok (.null, rest) := by
  simp [chars, readValue, skipSpace, isSpace, readIdent, bind, Except.bind, pure, Except.pure]

theorem readValue_bool (b : Bool) (fuel room : Nat) (rest : List Char) :
    readValue (fuel + 1) room ((bool b).chars ++ rest) = .ok (.bool b, rest) := by
  cases b <;>
    simp [chars, readValue, skipSpace, isSpace, readIdent, bind, Except.bind, pure, Except.pure]

theorem readValue_number (n : Number) (fuel room : Nat) {rest : List Char}
    (separate : Separate rest) :
    ReadsBack room 0 (n.reread.map .number) rest (readValue (fuel + 1) room (n.chars ++ rest)) := by
  obtain ⟨m, closed⟩ := readValue_number_closed n
  have alone : ReadsBack maxDepth 0 (m.map .number) []
      ((readText n.text).map fun found => (found, [])) := by
    refine readText_alone ?_
    rw [Number.text, String.toList_ofList]
    simpa using closed (2 * n.chars.length) maxDepth [] .nothing
  have same : n.reread = m := by
    unfold Number.reread parse
    cases answer : readText n.text with
    | error fault =>
      rw [answer] at alone
      have none : m = none := by
        rcases alone with ⟨-, deep⟩ | ⟨-, none⟩
        · exact absurd deep (Nat.not_lt_zero _)
        · simpa using none
      simp [none]
    | ok found =>
      rw [answer] at alone
      obtain ⟨same, -⟩ := alone
      cases m with
      | none => simp at same
      | some m =>
        rw [← Option.some.inj same]
        rfl
  rw [same]
  exact closed fuel room rest separate

theorem itemChars_cons (v : Json) (rest : List Json) :
    itemChars (v :: rest) = chars v ++ rest.flatMap fun w => ',' :: chars w := by
  induction rest generalizing v with
  | nil => simp [itemChars]
  | cons w rest ih => simp [itemChars, ih]

theorem memberChars_cons (key : String) (v : Json) (rest : List (String × Json)) :
    memberChars ((key, v) :: rest) = stringChars key ++ ':' :: (chars v ++
      rest.flatMap fun m => ',' :: (stringChars m.1 ++ ':' :: chars m.2)) := by
  induction rest generalizing key v with
  | nil => simp [memberChars]
  | cons m rest ih => simp [memberChars, ih]

theorem chars_first (v : Json) :
    ∃ c more, v.chars = c :: more ∧ isSpace c = false ∧ c ≠ ']' := by
  cases v with
  | null => exact ⟨'n', _, rfl, rfl, by decide⟩
  | bool b => cases b <;> exact ⟨_, _, rfl, rfl, by decide⟩
  | string s => exact ⟨'"', _, rfl, rfl, by decide⟩
  | array items => exact ⟨'[', _, by rw [chars], rfl, by decide⟩
  | object members => exact ⟨'{', _, by rw [chars], rfl, by decide⟩
  | number n =>
    rw [chars]
    obtain ⟨negative, s, numeral, shape⟩ := n.chars_shape
    rw [shape]
    cases negative with
    | true => exact ⟨'-', s, rfl, rfl, by decide⟩
    | false =>
      obtain ⟨c, more, start, digit⟩ := numeral.first
      obtain ⟨visible, -, -, -, -, -, -, -, bracket⟩ := not_digit digit
      exact ⟨c, more, start, visible, bracket⟩

theorem chars_length_pos (v : Json) : 0 < v.chars.length := by
  obtain ⟨c, more, start, -⟩ := chars_first v
  simp [start]

theorem insert_last {table : JsonMap} {key : String} (value : Json)
    (below : ∀ name ∈ table.keys, name < key) : table.insert key value = table ++ [(key, value)] := by
  induction table with
  | nil => rfl
  | cons entry rest ih =>
    obtain ⟨name, old⟩ := entry
    have less : name < key := below name (by simp [Table.keys])
    have notAfter : ¬ key < name := String.lt_asymm less
    have other : key ≠ name := by grind
    rw [Table.insert, if_neg notAfter, if_neg other,
      ih fun name member => below name (List.mem_cons_of_mem _ member)]
    rfl

section Reading

variable {fuel room depth more : Nat} {v : Option Json} {mid rest : List Char}
  {result : Except Fault (Json × List Char)}

theorem ReadsBack.scalar {v : Json} (read : result = .ok (v, rest)) :
    ReadsBack room 0 (some v) rest result := by
  subst read
  exact ⟨rfl, rfl, Nat.zero_le room⟩

theorem ReadsBack.enter (inside : ReadsBack room depth v rest result) :
    ReadsBack (room + 1) (depth + 1) v rest result := by
  cases result with
  | ok found => exact ⟨inside.1, inside.2.1, Nat.succ_le_succ inside.2.2⟩
  | error fault => exact inside.imp_left fun limit => ⟨limit.1, Nat.succ_lt_succ limit.2⟩

theorem ReadsBack.bind (first : ReadsBack room depth v mid result) {w : Json → Option Json}
    {k : Json × List Char → Except Fault (Json × List Char)}
    (second : ∀ found, ReadsBack room more (w found) rest (k (found, mid))) :
    ReadsBack room (max depth more) (v.bind w) rest (result.bind k) := by
  cases result with
  | error fault =>
    rcases first with ⟨limit, deep⟩ | ⟨large, none⟩
    · exact .inl ⟨limit, Nat.lt_of_lt_of_le deep (Nat.le_max_left _ _)⟩
    · exact .inr ⟨large, by simp [none]⟩
  | ok found =>
    obtain ⟨found, after⟩ := found
    obtain ⟨same, rfl, fits⟩ := first
    have rest := second found
    rw [same, Option.bind_some, Except.bind]
    cases answer : k (found, after) with
    | error fault =>
      rw [answer] at rest
      exact rest.imp_left fun limit => ⟨limit.1, Nat.lt_of_lt_of_le limit.2 (Nat.le_max_right _ _)⟩
    | ok final =>
      rw [answer] at rest
      exact ⟨rest.1, rest.2.1, Nat.max_le.mpr ⟨fits, rest.2.2⟩⟩

theorem readsBack_list {s : List Char}
    (inside : ∀ room, ReadsBack room depth v rest (readFirstItem fuel room s)) :
    ReadsBack room (depth + 1) v rest (readValue (fuel + 1) room ('[' :: s)) := by
  rw [readValue, skipSpace_cons rfl]
  cases room with
  | zero => exact .inl ⟨rfl, Nat.succ_pos depth⟩
  | succ room => exact (inside room).enter

theorem readsBack_object {s : List Char}
    (inside : ∀ room, ReadsBack room depth v rest (readFirstMember fuel room s)) :
    ReadsBack room (depth + 1) v rest (readValue (fuel + 1) room ('{' :: s)) := by
  rw [readValue, skipSpace_cons rfl]
  cases room with
  | zero => exact .inl ⟨rfl, Nat.succ_pos depth⟩
  | succ room => exact (inside room).enter

end Reading

def moreItemChars (items : List Json) : List Char := items.flatMap fun v => ',' :: chars v

def moreMemberChars (members : List (String × Json)) : List Char :=
  members.flatMap fun m => ',' :: (stringChars m.1 ++ ':' :: chars m.2)

theorem separate_moreItems (items : List Json) (rest : List Char) :
    Separate (moreItemChars items ++ ']' :: rest) := by
  cases items <;> constructor

theorem separate_moreMembers (members : List (String × Json)) (rest : List Char) :
    Separate (moreMemberChars members ++ '}' :: rest) := by
  cases members <;> constructor

section Steps

variable (v : Json) (key : String) (fuel room : Nat) (items : List Json) (members : JsonMap)
  (rest : List Char)

theorem readFirstItem_value : readFirstItem (fuel + 1) room (v.chars ++ rest) =
    (readValue fuel room (v.chars ++ rest)).bind fun found =>
      readMoreItems fuel room [found.1] found.2 := by
  obtain ⟨c, more, start, visible, bracket⟩ := chars_first v
  rw [start, List.cons_append, readFirstItem, skipSpace_cons visible]
  split
  next none => cases none
  next same => exact absurd (List.cons.inj same).1 bracket
  next => rfl

theorem readMoreItems_end : readMoreItems (fuel + 1) room items (']' :: rest) =
    .ok (.array items.reverse, rest) := by
  simp [readMoreItems, skipSpace, isSpace]

theorem readMoreItems_comma : readMoreItems (fuel + 1) room items (',' :: (v.chars ++ rest)) =
    (readValue fuel room (v.chars ++ rest)).bind fun found =>
      readMoreItems fuel room (found.1 :: items) found.2 := by
  have item : itemAfterComma (v.chars ++ rest) = .ok (v.chars ++ rest) := by
    obtain ⟨c, more, start, visible, bracket⟩ := chars_first v
    rw [start, List.cons_append, itemAfterComma, skipSpace_cons visible]
    split
    next none => cases none
    next same => exact absurd (List.cons.inj same).1 bracket
    next => rfl
  simp only [readMoreItems, skipSpace_cons (c := ',') rfl, item]
  rfl

theorem readFirstMember_value :
    readFirstMember (fuel + 1) room (stringChars key ++ ':' :: (v.chars ++ rest)) =
      (readValue fuel room (v.chars ++ rest)).bind fun found =>
        readMoreMembers fuel room [(key, found.1)] found.2 := by
  simp only [stringChars, List.cons_append, List.append_assoc, List.nil_append, readFirstMember,
    skipSpace_cons (c := '"') rfl, readString_stringChars, readColon]
  rfl

theorem readMoreMembers_end : readMoreMembers (fuel + 1) room members ('}' :: rest) =
    .ok (.object members, rest) := by
  simp [readMoreMembers, skipSpace, isSpace]

theorem readMoreMembers_comma :
    readMoreMembers (fuel + 1) room members (',' :: (stringChars key ++ ':' :: (v.chars ++ rest))) =
      (readValue fuel room (v.chars ++ rest)).bind fun found =>
        readMoreMembers fuel room (members.insert key found.1) found.2 := by
  simp only [readMoreMembers, stringChars, List.cons_append, List.append_assoc, List.nil_append,
    skipSpace_cons (c := ',') rfl, keyAfterComma, skipSpace_cons (c := '"') rfl]
  simp only [bind, Except.bind, readString_stringChars, readColon, skipSpace_cons (c := ':') rfl]

end Steps

theorem below_last {done members : JsonMap} {key : String} {v found : Json}
    (below : ∀ name ∈ done.keys, ∀ other ∈ Table.keys ((key, v) :: members), name < other)
    (least : ∀ other ∈ members.keys, key < other) :
    ∀ name ∈ Table.keys (done ++ [(key, found)]), ∀ other ∈ members.keys, name < other := by
  intro name member other later
  simp only [Table.keys, List.map_append, List.mem_append] at member
  rcases member with before | last
  · exact below name before other (List.mem_cons_of_mem _ later)
  · have same : name = key := by simpa using last
    exact same ▸ least other later

theorem reread_items (v : Json) (items done : List Json) :
    (v.reread.bind fun w => (rereadItems items).map fun found =>
      .array ((w :: done).reverse ++ found)) =
      (rereadItems (v :: items)).map fun found => array (done.reverse ++ found) := by
  rw [rereadItems]
  cases v.reread <;> cases rereadItems items <;> simp

theorem reread_members (key : String) (v : Json) (members done : JsonMap) :
    (v.reread.bind fun w => (rereadMembers members).map fun found =>
      .object (done ++ [(key, w)] ++ found)) =
      (rereadMembers ((key, v) :: members)).map fun found => object (done ++ found) := by
  rw [rereadMembers]
  cases v.reread <;> cases rereadMembers members <;> simp

mutual

theorem readValue_chars {p : Number → Prop} (v : Json) (ordered : Holds p v) (fuel room : Nat)
    {rest : List Char} (separate : Separate rest) (enough : 2 * v.chars.length ≤ fuel) :
    ReadsBack room v.depth v.reread rest (readValue fuel room (v.chars ++ rest)) := by
  have present := chars_length_pos v
  obtain ⟨fuel, rfl⟩ := Nat.exists_eq_add_of_le' (show 1 ≤ fuel by omega)
  match v with
  | .null => exact .scalar (readValue_null fuel room rest)
  | .bool b => exact .scalar (readValue_bool b fuel room rest)
  | .number n => simpa [chars, reread, depth] using readValue_number n fuel room separate
  | .string s =>
    have read : readValue (fuel + 1) room ((string s).chars ++ rest) = .ok (.string s, rest) := by
      simp only [chars, stringChars, List.cons_append, List.append_assoc, List.nil_append, readValue,
        skipSpace_cons (c := '"') rfl, readString_stringChars]
      rfl
    exact .scalar read
  | .array items =>
    rw [chars, List.length_cons, List.length_append] at enough
    rw [chars, List.cons_append, List.append_assoc]
    exact readsBack_list fun room =>
      readFirstItem_chars items ordered fuel room rest (by omega)
  | .object members =>
    rw [chars, List.length_cons, List.length_append] at enough
    rw [chars, List.cons_append, List.append_assoc]
    exact readsBack_object fun room =>
      readFirstMember_chars members ordered.1 ordered.2 fuel room rest (by omega)

theorem readFirstItem_chars {p : Number → Prop} (items : List Json) (ordered : ItemsHold p items)
    (fuel room : Nat) (rest : List Char) (enough : 2 * (itemChars items).length < fuel) :
    ReadsBack room (itemsDepth items) ((rereadItems items).map .array) rest
      (readFirstItem fuel room (itemChars items ++ ']' :: rest)) := by
  obtain ⟨fuel, rfl⟩ := Nat.exists_eq_add_of_le' (show 1 ≤ fuel by omega)
  match items with
  | [] => exact .scalar (by simp [itemChars, readFirstItem, skipSpace, isSpace])
  | v :: items =>
    have size : (itemChars (v :: items)).length = v.chars.length + (moreItemChars items).length := by
      simp [itemChars_cons, moreItemChars]
    have present := chars_length_pos v
    have first := readValue_chars v ordered.1 fuel room (separate_moreItems items rest) (by omega)
    have read := first.bind (k := fun found => readMoreItems fuel room [found.1] found.2)
      fun found => readMoreItems_chars items ordered.2 fuel room [found] rest (by omega)
    have same := reread_items v items []
    simp only [List.reverse_nil, List.nil_append] at same
    rw [same] at read
    simpa [itemChars_cons, moreItemChars, readFirstItem_value, itemsDepth] using read

theorem readMoreItems_chars {p : Number → Prop} (items : List Json) (ordered : ItemsHold p items)
    (fuel room : Nat) (done : List Json) (rest : List Char)
    (enough : 2 * (moreItemChars items).length < fuel) :
    ReadsBack room (itemsDepth items)
      ((rereadItems items).map fun found => .array (done.reverse ++ found)) rest
      (readMoreItems fuel room done (moreItemChars items ++ ']' :: rest)) := by
  obtain ⟨fuel, rfl⟩ := Nat.exists_eq_add_of_le' (show 1 ≤ fuel by omega)
  match items with
  | [] =>
    simpa [rereadItems, itemsDepth, moreItemChars] using
      ReadsBack.scalar (readMoreItems_end fuel room done rest)
  | v :: items =>
    have size : (moreItemChars (v :: items)).length =
        v.chars.length + 1 + (moreItemChars items).length := by
      simp [moreItemChars]
      omega
    have first := readValue_chars v ordered.1 fuel room (separate_moreItems items rest) (by omega)
    have read := first.bind (k := fun found => readMoreItems fuel room (found.1 :: done) found.2)
      fun found => readMoreItems_chars items ordered.2 fuel room (found :: done) rest (by omega)
    rw [reread_items] at read
    simpa [moreItemChars, readMoreItems_comma, itemsDepth] using read

theorem readFirstMember_chars {p : Number → Prop} (members : JsonMap) (sorted : members.Sorted)
    (ordered : MembersHold p members) (fuel room : Nat) (rest : List Char)
    (enough : 2 * (memberChars members).length < fuel) :
    ReadsBack room (membersDepth members) ((rereadMembers members).map .object) rest
      (readFirstMember fuel room (memberChars members ++ '}' :: rest)) := by
  obtain ⟨fuel, rfl⟩ := Nat.exists_eq_add_of_le' (show 1 ≤ fuel by omega)
  match members with
  | [] => exact .scalar (by simp [memberChars, readFirstMember, skipSpace, isSpace])
  | (key, v) :: members =>
    obtain ⟨least, sorted⟩ := Table.sorted_cons.mp sorted
    have size : (memberChars ((key, v) :: members)).length =
        (stringChars key).length + v.chars.length + 1 + (moreMemberChars members).length := by
      simp [memberChars_cons, moreMemberChars]
      omega
    have first := readValue_chars v ordered.1 fuel room (separate_moreMembers members rest) (by omega)
    have read := first.bind (k := fun found => readMoreMembers fuel room [(key, found.1)] found.2)
      fun found => readMoreMembers_chars members sorted ordered.2 fuel room [(key, found)]
        (by simpa [Table.keys] using least) rest (by omega)
    have same := reread_members key v members []
    simp only [List.nil_append] at same
    rw [same] at read
    simpa [memberChars_cons, moreMemberChars, readFirstMember_value, membersDepth] using read

theorem readMoreMembers_chars {p : Number → Prop} (members : JsonMap) (sorted : members.Sorted)
    (ordered : MembersHold p members) (fuel room : Nat) (done : JsonMap)
    (below : ∀ name ∈ done.keys, ∀ other ∈ members.keys, name < other) (rest : List Char)
    (enough : 2 * (moreMemberChars members).length < fuel) :
    ReadsBack room (membersDepth members)
      ((rereadMembers members).map fun found => .object (done ++ found)) rest
      (readMoreMembers fuel room done (moreMemberChars members ++ '}' :: rest)) := by
  obtain ⟨fuel, rfl⟩ := Nat.exists_eq_add_of_le' (show 1 ≤ fuel by omega)
  match members with
  | [] =>
    simpa [rereadMembers, membersDepth, moreMemberChars] using
      ReadsBack.scalar (readMoreMembers_end fuel room done rest)
  | (key, v) :: members =>
    obtain ⟨least, sorted⟩ := Table.sorted_cons.mp sorted
    have size : (moreMemberChars ((key, v) :: members)).length =
        (stringChars key).length + v.chars.length + 2 + (moreMemberChars members).length := by
      simp [moreMemberChars]
      omega
    have first := readValue_chars v ordered.1 fuel room (separate_moreMembers members rest) (by omega)
    have last : ∀ found, done.insert key found = done ++ [(key, found)] := fun found =>
      insert_last found fun name member => below name member key (by simp [Table.keys])
    have read := first.bind
      (k := fun found => readMoreMembers fuel room (done ++ [(key, found.1)]) found.2)
      fun found => readMoreMembers_chars members sorted ordered.2 fuel room (done ++ [(key, found)])
        (below_last below least) rest (by omega)
    rw [reread_members] at read
    simpa [moreMemberChars, readMoreMembers_comma, membersDepth, last] using read

end

/-- Reading the text of a value gives the value, its numbers read again, unless there are too many
containers inside each other or a number is too large. -/
theorem readText_text {p : Number → Prop} {v : Json} (ordered : Holds p v) :
    ReadsBack maxDepth v.depth v.reread [] ((readText v.text).map fun found => (found, [])) := by
  refine readText_alone ?_
  rw [text, String.toList_ofList]
  simpa using readValue_chars v ordered (2 * v.chars.length + 1) maxDepth .nothing (by omega)

theorem parse_text_ok_iff {p : Number → Prop} {v found : Json} (ordered : Holds p v) :
    parse v.text = .ok found ↔ v.reread = some found ∧ v.depth ≤ maxDepth := by
  have read := readText_text ordered
  unfold parse
  cases answer : readText v.text with
  | ok w =>
    rw [answer] at read
    obtain ⟨same, -, fits⟩ := read
    simp [same, fits]
  | error fault =>
    rw [answer] at read
    simp only [mapError_error, reduceCtorEq, false_iff, not_and, Nat.not_le]
    intro same
    rcases read with ⟨-, deep⟩ | ⟨-, none⟩
    · exact deep
    · simp [same] at none

theorem parse_text_deep {p : Number → Prop} {v found : Json} (ordered : Holds p v)
    (same : v.reread = some found) (deep : maxDepth < v.depth) :
    ∃ position, parse v.text = .error ⟨"recursion limit exceeded", some position⟩ := by
  have read := readText_text ordered
  unfold parse
  cases answer : readText v.text with
  | ok w =>
    rw [answer] at read
    exact absurd read.2.2 (Nat.not_le.mpr deep)
  | error fault =>
    rw [answer] at read
    rcases read with ⟨limit, -⟩ | ⟨-, none⟩
    · exact ⟨fault.position v.text, by simp [Fault.problem, limit, Cause.message]⟩
    · simp [same] at none

end Json

end Bayeux
