import Bayeux.Proofs.Json.Integers

set_option autoImplicit false

namespace Bayeux

def Number.isFloat : Number → Bool
  | .int _ => false
  | .float _ => true

namespace Json

variable {α β : Type} {p : α → Prop} {q : β → Prop}

structure Yields (p : α → Prop) (result : Except Fault (α × List Char)) : Prop where
  holds : ∀ {a rest}, result = .ok (a, rest) → p a

theorem yields_error {fault : Fault} : Yields p (.error fault) := ⟨nofun⟩

theorem yields_ok {a : α} (holds : p a) (rest : List Char) : Yields p (.ok (a, rest)) :=
  ⟨by rintro _ _ ⟨⟩; exact holds⟩

theorem yields_bind {γ : Type} {result : Except Fault γ} {k : γ → Except Fault (β × List Char)}
    (next : ∀ c, Yields q (k c)) : Yields q (result >>= k) := by
  cases result with
  | error fault => exact yields_error
  | ok c => exact next c

theorem Yields.bind {result : Except Fault (α × List Char)}
    {k : α × List Char → Except Fault (β × List Char)} (first : Yields p result)
    (next : ∀ a rest, p a → Yields q (k (a, rest))) : Yields q (result >>= k) := by
  cases result with
  | error fault => exact yields_error
  | ok found =>
    obtain ⟨a, rest⟩ := found
    exact next a rest (first.holds rfl)

theorem absorb_lt {significand : Nat} (small : significand < 2 ^ 64) (digits : List Char) :
    (absorb significand digits).1 < 2 ^ 64 := by
  induction digits generalizing significand with
  | nil => exact small
  | cons c rest ih =>
    rw [absorb]
    split
    next fits => exact ih fits
    next => exact small

theorem inRange_wholeNumber (negative : Bool) {n : Nat} (small : n < 2 ^ 64) :
    (wholeNumber negative n).InRange := by
  unfold wholeNumber
  split
  · exact ⟨by omega, by omega⟩
  · split
    next => trivial
    next whole =>
      simp only [Bool.or_eq_true, decide_eq_true_eq, not_or] at whole
      exact ⟨by omega, by omega⟩

section Numbers

variable (negative : Bool) (significand : Nat) (exponent : Int) (s : List Char)

theorem yields_finishFloat : Yields Number.InRange (finishFloat negative significand exponent s) := by
  unfold finishFloat
  split
  · exact yields_ok trivial _
  · exact yields_error

theorem yields_readExponent : Yields Number.InRange (readExponent negative significand exponent s) := by
  unfold readExponent
  split
  split
  · exact yields_error
  split
  · exact yields_error
  split
  · exact yields_finishFloat ..
  split
  · exact yields_error
  · exact yields_ok trivial _

theorem yields_readFraction : Yields Number.InRange (readFraction negative significand exponent s) := by
  unfold readFraction
  dsimp only
  split
  · exact yields_error
  split
  · exact yields_readExponent ..
  · exact yields_readExponent ..
  · exact yields_finishFloat ..

theorem yields_readNumber : Yields Number.InRange (readNumber negative s) := by
  unfold readNumber
  dsimp only
  split
  · exact yields_error
  · exact yields_error
  split
  · exact yields_readFraction ..
  · exact yields_readExponent ..
  · exact yields_readExponent ..
  split
  · exact yields_ok (inRange_wholeNumber negative (absorb_lt (by decide) _)) _
  · exact yields_finishFloat ..

end Numbers

-- Whole numbers fit 64 bits, and the members of objects are in order.
def InRange (v : Json) : Prop := v.Holds Number.InRange

theorem inRange_number {n : Number} (inRange : n.InRange) : InRange (.number n) := inRange

theorem itemsHold_iff {p : Number → Prop} {items : List Json} :
    ItemsHold p items ↔ ∀ v ∈ items, Holds p v := by
  induction items with
  | nil => simp [ItemsHold]
  | cons v rest ih => simp [ItemsHold, ih]

theorem inRange_array {items : List Json} (all : ∀ v ∈ items, InRange v) : InRange (.array items) :=
  itemsHold_iff.mpr all

theorem inRange_object {members : JsonMap} (sorted : members.Sorted)
    (all : ∀ v ∈ members.values, InRange v) : InRange (.object members) :=
  ⟨sorted, membersHold_iff.mpr all⟩

-- By recursion on the fuel. The readers that collect need that what they have is in range already.
mutual

theorem yields_readValue (fuel room : Nat) (s : List Char) :
    Yields InRange (readValue fuel room s) := by
  match fuel with
  | 0 =>
    rw [readValue]
    exact yields_error
  | fuel + 1 =>
    rw [readValue]
    split
    · exact yields_error
    · exact yields_bind fun _ => yields_ok trivial _
    · exact yields_bind fun _ => yields_ok trivial _
    · exact yields_bind fun _ => yields_ok trivial _
    · exact yields_bind fun _ => yields_ok trivial _
    · exact (yields_readNumber ..).bind fun _ _ inRange => yields_ok (inRange_number inRange) _
    · split
      · exact yields_error
      · exact yields_readFirstItem fuel _ _
    · split
      · exact yields_error
      · exact yields_readFirstMember fuel _ _
    · split
      · exact (yields_readNumber ..).bind fun _ _ inRange => yields_ok (inRange_number inRange) _
      · exact yields_error

theorem yields_readFirstItem (fuel room : Nat) (s : List Char) :
    Yields InRange (readFirstItem fuel room s) := by
  match fuel with
  | 0 =>
    rw [readFirstItem]
    exact yields_error
  | fuel + 1 =>
    rw [readFirstItem]
    split
    · exact yields_error
    · exact yields_ok trivial _
    · refine (yields_readValue fuel _ _).bind fun v rest inRange => ?_
      exact yields_readMoreItems fuel _ _ _ (by simpa using inRange)

theorem yields_readMoreItems (fuel room : Nat) (done : List Json) (s : List Char)
    (all : ∀ v ∈ done, InRange v) : Yields InRange (readMoreItems fuel room done s) := by
  match fuel with
  | 0 =>
    rw [readMoreItems]
    exact yields_error
  | fuel + 1 =>
    rw [readMoreItems]
    split
    · exact yields_error
    · exact yields_ok (inRange_array fun v member => all v (List.mem_reverse.mp member)) _
    · refine yields_bind fun rest => (yields_readValue fuel _ _).bind fun v rest inRange => ?_
      exact yields_readMoreItems fuel _ _ _ (List.forall_mem_cons.mpr ⟨inRange, all⟩)
    · exact yields_error

theorem yields_readFirstMember (fuel room : Nat) (s : List Char) :
    Yields InRange (readFirstMember fuel room s) := by
  match fuel with
  | 0 =>
    rw [readFirstMember]
    exact yields_error
  | fuel + 1 =>
    rw [readFirstMember]
    split
    · exact yields_error
    · exact yields_ok ⟨Table.sorted_nil, trivial⟩ _
    · refine yields_bind fun key => yields_bind fun rest =>
        (yields_readValue fuel _ _).bind fun v rest inRange => ?_
      refine yields_readMoreMembers fuel _ _ _ ?_ ?_
      · simp [Table.Sorted]
      · simpa [Table.values] using inRange
    · exact yields_error

theorem yields_readMoreMembers (fuel room : Nat) (done : JsonMap) (s : List Char)
    (sorted : done.Sorted) (all : ∀ v ∈ done.values, InRange v) :
    Yields InRange (readMoreMembers fuel room done s) := by
  match fuel with
  | 0 =>
    rw [readMoreMembers]
    exact yields_error
  | fuel + 1 =>
    rw [readMoreMembers]
    split
    · exact yields_error
    · exact yields_ok (inRange_object sorted all) _
    · refine yields_bind fun rest => yields_bind fun key => yields_bind fun rest =>
        (yields_readValue fuel _ _).bind fun v rest inRange => ?_
      refine yields_readMoreMembers fuel _ _ _ (sorted.insert _ _) fun w member => ?_
      rcases Table.mem_values_insert member with rfl | old
      · exact inRange
      · exact all w old
    · exact yields_error

end

theorem inRange_of_parse {text : String} {v : Json} (read : parse text = .ok v) : v.InRange := by
  rw [parse, readText_eq] at read
  cases found : readValue (2 * text.toList.length + 1) maxDepth text.toList with
  | error fault =>
    rw [found] at read
    cases read
  | ok answer =>
    obtain ⟨w, rest⟩ := answer
    rw [found] at read
    cases ended : readEnd rest with
    | error fault => simp [Except.bind, ended, Except.map] at read
    | ok _ =>
      simp only [Except.bind, ended, Except.map, mapError_ok, Except.ok.injEq] at read
      exact read ▸ (yields_readValue ..).holds found

mutual

def numbers : Json → List Number
  | .number n => [n]
  | .array items => itemNumbers items
  | .object members => memberNumbers members
  | _ => []

def itemNumbers : List Json → List Number
  | [] => []
  | v :: rest => numbers v ++ itemNumbers rest

def memberNumbers : List (String × Json) → List Number
  | [] => []
  | (_, v) :: rest => numbers v ++ memberNumbers rest

end

mutual

theorem Holds.of_numbers {p q : Number → Prop} (v : Json) (all : Holds p v)
    (each : ∀ n ∈ v.numbers, p n → q n) : Holds q v := by
  match v with
  | .null | .bool _ | .string _ => trivial
  | .number n => exact each n (by simp [numbers]) all
  | .array items => exact ItemsHold.of_numbers items all each
  | .object members => exact ⟨all.1, MembersHold.of_numbers members all.2 each⟩

theorem ItemsHold.of_numbers {p q : Number → Prop} (items : List Json) (all : ItemsHold p items)
    (each : ∀ n ∈ itemNumbers items, p n → q n) : ItemsHold q items := by
  match items with
  | [] => trivial
  | v :: items =>
    exact ⟨Holds.of_numbers v all.1 fun n member => each n (List.mem_append_left _ member),
      ItemsHold.of_numbers items all.2 fun n member => each n (List.mem_append_right _ member)⟩

theorem MembersHold.of_numbers {p q : Number → Prop} (members : List (String × Json))
    (all : MembersHold p members) (each : ∀ n ∈ memberNumbers members, p n → q n) :
    MembersHold q members := by
  match members with
  | [] => trivial
  | (_, v) :: members =>
    exact ⟨Holds.of_numbers v all.1 fun n member => each n (List.mem_append_left _ member),
      MembersHold.of_numbers members all.2 fun n member => each n (List.mem_append_right _ member)⟩

end

theorem InRange.isInteger {v : Json} (inRange : v.InRange) (whole : ∀ n ∈ v.numbers, ¬ n.isFloat) :
    v.Holds Number.IsInteger := by
  refine inRange.of_numbers v fun n member fits => ?_
  cases n with
  | int n => exact fits
  | float x => exact absurd rfl (whole _ member)

end Json

end Bayeux
