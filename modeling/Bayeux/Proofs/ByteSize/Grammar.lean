import Bayeux.ByteSize.Basic
import Bayeux.Proofs.Text.Numeral

set_option autoImplicit false

namespace Bayeux

open Text

namespace SizeUnit

/-- The names of a unit: its letter, behind which a `B` may stand if it is none itself. -/
def names : SizeUnit → List (List Char)
  | .byte => [['B']]
  | unit => [[unit.letter], [unit.letter, 'B']]

def Named (unit : SizeUnit) (cs : List Char) : Prop := cs.map Char.toUpper ∈ unit.names

instance (unit : SizeUnit) (cs : List Char) : Decidable (unit.Named cs) :=
  inferInstanceAs (Decidable (cs.map Char.toUpper ∈ unit.names))

theorem ofCapital?_eq_some_iff {c : Char} {unit : SizeUnit} :
    ofCapital? c = some unit ↔ c = unit.letter := by
  constructor
  · intro read
    unfold ofCapital? at read
    split at read
    case h_5 => simp at read
    all_goals
      rw [← Option.some.inj read]
      rfl
  · rintro rfl
    cases unit <;> rfl

theorem ofLetter?_eq_some_iff {c : Char} {unit : SizeUnit} :
    ofLetter? c = some unit ↔ c.toUpper = unit.letter :=
  ofCapital?_eq_some_iff

theorem named_iff {unit : SizeUnit} {cs : List Char} :
    unit.Named cs ↔ ∃ c rest, cs = c :: rest ∧ ofLetter? c = some unit ∧
      (rest = [] ∨ unit ≠ .byte ∧ ∃ b, ofLetter? b = some .byte ∧ rest = [b]) := by
  have known : unit.Named cs ↔ cs.map Char.toUpper = [unit.letter] ∨
      unit ≠ .byte ∧ cs.map Char.toUpper = [unit.letter, 'B'] := by
    cases unit <;> simp [Named, names, letter]
  simp only [known, ofLetter?_eq_some_iff]
  constructor
  · rintro (named | ⟨other, named⟩)
    · obtain ⟨c, rfl, same⟩ := List.map_eq_singleton_iff.mp named
      exact ⟨c, [], rfl, same, .inl rfl⟩
    · obtain ⟨c, rest, rfl, same, rest'⟩ := List.map_eq_cons_iff.mp named
      obtain ⟨b, rfl, sameB⟩ := List.map_eq_singleton_iff.mp rest'
      exact ⟨c, [b], rfl, same, .inr ⟨other, b, sameB, rfl⟩⟩
  · rintro ⟨c, rest, rfl, same, rfl | ⟨other, b, sameB, rfl⟩⟩
    · exact .inl (by simp [same])
    · exact .inr ⟨other, by simp [same, sameB, letter]⟩

theorem named_letter (unit : SizeUnit) : unit.Named [unit.letter] :=
  named_iff.mpr ⟨unit.letter, [], rfl, ofLetter?_letter unit, .inl rfl⟩

theorem toUpper_of_not_small {c : Char} (large : ¬ (97 ≤ c.toNat ∧ c.toNat ≤ 122)) :
    c.toUpper = c := by
  refine dif_neg ?_
  rw [UInt32.le_iff_toNat_le, UInt32.le_iff_toNat_le]
  exact large

theorem ofLetter?_eq_none {c : Char} (large : ¬ (97 ≤ c.toNat ∧ c.toNat ≤ 122))
    (other : ∀ unit : SizeUnit, c ≠ unit.letter) : ofLetter? c = none := by
  cases read : ofLetter? c with
  | none => rfl
  | some unit =>
    have same := ofLetter?_eq_some_iff.mp read
    rw [toUpper_of_not_small large] at same
    exact absurd same (other unit)

theorem ofLetter?_of_isBlank {c : Char} (blank : isBlank c = true) : ofLetter? c = none := by
  apply ofLetter?_eq_none
  · simp only [isBlank, Bool.or_eq_true, Bool.and_eq_true, decide_eq_true_eq, beq_iff_eq] at blank
    omega
  · rintro unit rfl
    cases unit <;> exact absurd blank (by decide)

theorem ofLetter?_of_isDigit {c : Char} (digit : c.isDigit = true) : ofLetter? c = none := by
  apply ofLetter?_eq_none
  · have := (isDigit_iff c).mp digit
    omega
  · rintro unit rfl
    cases unit <;> exact absurd digit (by decide)

theorem ofLetter?_of_numeral {cs : List Char} {n : Nat} (numeral : Numeral cs n) {c : Char}
    (member : c ∈ cs) : ofLetter? c = none := by
  rcases numeral.mem member with rfl | digit
  · decide
  · exact ofLetter?_of_isDigit digit

end SizeUnit

namespace ByteSize

-- A group in any spelling: blanks, a number, blanks and the name of a unit.
inductive Spells : Group → List Char → Prop where
  | group {before number between name : List Char} {n : Nat} {unit : SizeUnit}
      (front : Blanks before) (numeral : Numeral number n) (gap : Blanks between)
      (named : unit.Named name) : Spells (n, unit) (before ++ number ++ between ++ name)

-- Pieces of text one behind the other, one for each group.
inductive Row (Piece : Group → List Char → Prop) : List Group → List Char → Prop where
  | nil : Row Piece [] []
  | cons {group : Group} {groups : List Group} {cs rest : List Char} (first : Piece group cs)
      (later : Row Piece groups rest) : Row Piece (group :: groups) (cs ++ rest)

/-- The size that a text without blanks around it stands for. -/
inductive Denotes : List Char → Nat → Prop where
  | bare {cs : List Char} {n : Nat} (numeral : Numeral cs n) : Denotes cs n
  | row {groups : List Group} {cs : List Char} (present : groups ≠ []) (row : Row Spells groups cs) :
      Denotes cs (valueOf groups)

theorem denotes_iff {cs : List Char} {n : Nat} :
    Denotes cs n ↔
      Numeral cs n ∨ ∃ groups, groups ≠ [] ∧ Row Spells groups cs ∧ valueOf groups = n := by
  constructor
  · intro denoted
    cases denoted with
    | bare numeral => exact .inl numeral
    | row present row => exact .inr ⟨_, present, row, rfl⟩
  · rintro (numeral | ⟨groups, present, row, rfl⟩)
    · exact .bare numeral
    · exact .row present row

theorem Row.mono {Piece Other : Group → List Char → Prop}
    (weaker : ∀ group cs, Piece group cs → Other group cs) {groups : List Group} {cs : List Char}
    (row : Row Piece groups cs) : Row Other groups cs := by
  induction row with
  | nil => exact .nil
  | cons first _ ih => exact .cons (weaker _ _ first) ih

theorem Row.forall_mem {Piece : Group → List Char → Prop} {Kind : Char → Prop}
    (kept : ∀ group cs, Piece group cs → ∀ c ∈ cs, Kind c) {groups : List Group} {cs : List Char}
    (row : Row Piece groups cs) : ∀ c ∈ cs, Kind c := by
  induction row with
  | nil => simp
  | cons first _ ih =>
    intro c member
    exact (List.mem_append.mp member).elim (kept _ _ first c) (ih c)

theorem Row.eq_nil {Piece : Group → List Char → Prop} {cs : List Char} (row : Row Piece [] cs) :
    cs = [] := by
  cases row
  rfl

def Plain (cs : List Char) : Prop := ∀ c ∈ cs, SizeUnit.ofLetter? c = none

theorem plain_nil : Plain [] := by
  simp [Plain]

theorem Plain.cons {cs : List Char} (plain : Plain cs) {c : Char}
    (none : SizeUnit.ofLetter? c = none) : Plain (c :: cs) := by
  simpa [Plain, none] using plain

theorem Plain.reverse {cs : List Char} (plain : Plain cs) : Plain cs.reverse :=
  fun c member => plain c (List.mem_reverse.mp member)

theorem plain_of_trim {cs : List Char} {n : Nat} (numeral : Numeral (trim cs) n) : Plain cs := by
  obtain ⟨⟨before, after, front, behind, framed⟩, -, -⟩ := trimmed_iff.mpr (Eq.refl (trim cs))
  intro c member
  rw [framed, List.mem_append, List.mem_append] at member
  rcases member with (inFront | inNumber) | inBack
  · exact SizeUnit.ofLetter?_of_isBlank (front c inFront)
  · exact SizeUnit.ofLetter?_of_numeral numeral inNumber
  · exact SizeUnit.ofLetter?_of_isBlank (behind c inBack)

-- A group by the first letter in it that names a unit.
theorem spells_iff {n : Nat} {unit : SizeUnit} {cs : List Char} :
    Spells (n, unit) cs ↔ ∃ before c rest, cs = before ++ c :: rest ∧ Numeral (trim before) n ∧
      SizeUnit.ofLetter? c = some unit ∧
      (rest = [] ∨ unit ≠ .byte ∧ ∃ b, SizeUnit.ofLetter? b = some .byte ∧ rest = [b]) := by
  constructor
  · rintro ⟨front, numeral, gap, named⟩
    rename_i before number between name
    obtain ⟨c, rest, rfl, read, behind⟩ := SizeUnit.named_iff.mp named
    have trimmed : Trimmed (before ++ number ++ between) number :=
      { framed := ⟨before, between, front, gap, rfl⟩
        first := fun c first => numeral.not_blank (List.mem_of_mem_head? first)
        last := fun c last => numeral.not_blank (List.mem_of_getLast? last) }
    refine ⟨before ++ number ++ between, c, rest, rfl, ?_, read, behind⟩
    rwa [trimmed_iff.mp trimmed]
  · rintro ⟨before, c, rest, rfl, numeral, read, behind⟩
    obtain ⟨⟨front, gap, frontBlank, gapBlank, framed⟩, -, -⟩ :=
      trimmed_iff.mpr (Eq.refl (trim before))
    have named : unit.Named (c :: rest) := SizeUnit.named_iff.mpr ⟨c, rest, rfl, read, behind⟩
    rw [framed]
    exact .group frontBlank numeral gapBlank named

theorem first_letter_unique {before before' rest rest' : List Char} {c c' : Char}
    (plain : Plain before) (plain' : Plain before') (letter : SizeUnit.ofLetter? c ≠ none)
    (letter' : SizeUnit.ofLetter? c' ≠ none) (same : before ++ c :: rest = before' ++ c' :: rest') :
    before = before' ∧ c = c' ∧ rest = rest' := by
  induction before generalizing before' with
  | nil =>
    cases before' with
    | nil => exact ⟨rfl, List.cons.inj same⟩
    | cons d before' =>
      rw [(List.cons.inj same).1] at letter
      exact absurd (plain' d (by simp)) letter
  | cons d before ih =>
    cases before' with
    | nil =>
      rw [← (List.cons.inj same).1] at letter'
      exact absurd (plain d (by simp)) letter'
    | cons d' before' =>
      obtain ⟨rfl, tails⟩ := List.cons.inj same
      obtain ⟨rfl, later⟩ := ih (fun e member => plain e (List.mem_cons_of_mem d member))
        (fun e member => plain' e (List.mem_cons_of_mem d member)) tails
      exact ⟨rfl, later⟩

-- What may stand behind a unit: more groups, and before them a `B` where `mayB` holds.
def Continues (mayB : Bool) (groups : List Group) (cs : List Char) : Prop :=
  Row Spells groups cs ∨
    mayB = true ∧ ∃ b rest, SizeUnit.ofLetter? b = some .byte ∧ cs = b :: rest ∧ Row Spells groups rest

section FirstUnit

variable {before : List Char} {groups : List Group}

theorem row_plain_iff (plain : Plain before) :
    Row Spells groups before ↔ groups = [] ∧ before = [] := by
  constructor
  · intro row
    cases row with
    | nil => exact ⟨rfl, rfl⟩
    | cons first later =>
      obtain ⟨front, c, rest, rfl, -, read, -⟩ := spells_iff.mp first
      rw [plain c (by simp)] at read
      simp at read
  · rintro ⟨rfl, rfl⟩
    exact .nil

theorem row_letter_iff (plain : Plain before) {c : Char} {unit : SizeUnit}
    (read : SizeUnit.ofLetter? c = some unit) {rest : List Char} :
    Row Spells groups (before ++ c :: rest) ↔
      ∃ n later, groups = (n, unit) :: later ∧ Numeral (trim before) n ∧
        Continues (unit != .byte) later rest := by
  constructor
  · intro row
    generalize whole : before ++ c :: rest = text at row
    cases row with
    | nil => simp at whole
    | @cons group later cs more first row =>
      obtain ⟨front, d, tail, rfl, numeral, read', behind⟩ := spells_iff.mp first
      rw [List.append_assoc, List.cons_append] at whole
      obtain ⟨rfl, rfl, rfl⟩ := first_letter_unique plain (plain_of_trim numeral) (by simp [read])
        (by simp [read']) whole
      obtain rfl : unit = group.2 := Option.some.inj (read.symm.trans read')
      refine ⟨group.1, later, rfl, numeral, ?_⟩
      rcases behind with rfl | ⟨other, b, readB, rfl⟩
      · exact .inl row
      · exact .inr ⟨by simpa using other, b, more, readB, rfl, row⟩
  · rintro ⟨n, later, rfl, numeral, row | ⟨other, b, more, readB, rfl, row⟩⟩
    · have first := spells_iff.mpr ⟨before, c, [], rfl, numeral, read, .inl rfl⟩
      simpa using Row.cons first row
    · have other : unit ≠ .byte := by simpa using other
      have first := spells_iff.mpr
        ⟨before, c, [b], rfl, numeral, read, .inr ⟨other, b, readB, rfl⟩⟩
      simpa using Row.cons first row

end FirstUnit

section Continues

variable {mayB : Bool} {groups : List Group}

theorem continues_false_iff {cs : List Char} :
    Continues false groups cs ↔ Row Spells groups cs := by
  simp [Continues]

theorem continues_nil_iff : Continues mayB groups [] ↔ groups = [] := by
  simp [Continues, row_plain_iff plain_nil]

-- No row begins with a unit, so a `B` that may belong to the unit before it does.
theorem continues_b_iff {b : Char} (read : SizeUnit.ofLetter? b = some .byte) {rest : List Char} :
    Continues true groups (b :: rest) ↔ Row Spells groups rest := by
  have bare : ¬ Row Spells groups (b :: rest) := by
    intro row
    obtain ⟨n, -, -, numeral, -⟩ := (row_letter_iff plain_nil read).mp row
    exact numeral.ne_nil rfl
  constructor
  · rintro (row | ⟨-, b', rest', -, same, row⟩)
    · exact absurd row bare
    · rwa [(List.cons.inj same).2]
  · exact fun row => .inr ⟨rfl, b, rest, read, rfl, row⟩

theorem continues_iff_row {before rest : List Char} {c : Char}
    (other : mayB = true → before = [] ∧ SizeUnit.ofLetter? c ≠ some .byte) :
    Continues mayB groups (before ++ c :: rest) ↔ Row Spells groups (before ++ c :: rest) := by
  refine or_iff_left ?_
  rintro ⟨may, b, more, read, same, -⟩
  obtain ⟨rfl, notB⟩ := other may
  obtain ⟨rfl, -⟩ := List.cons.inj same
  exact notB read

end Continues

end ByteSize

end Bayeux
