import Bayeux.Proofs.ByteSize.Reading

set_option autoImplicit false

namespace Bayeux.ByteSize

open Text

structure Neutral (c : Char) : Prop where
  notBlank : isBlank c = false
  noUnit : SizeUnit.ofLetter? c = none

instance (c : Char) : Decidable (Neutral c) :=
  decidable_of_iff (isBlank c = false ∧ SizeUnit.ofLetter? c = none)
    ⟨fun both => ⟨both.1, both.2⟩, fun neutral => ⟨neutral.notBlank, neutral.noUnit⟩⟩

theorem neutral_of_isDigit {c : Char} (digit : c.isDigit = true) : Neutral c :=
  ⟨isBlank_of_isDigit digit, SizeUnit.ofLetter?_of_isDigit digit⟩

theorem neutral_of_readDigits {cs : List Char} {n : Nat} (read : readDigits cs = some n) :
    ∀ c ∈ cs, Neutral c :=
  fun c member => neutral_of_isDigit ((readDigits_eq_some_iff.mp read).digits c member)

theorem exists_digit_of_numeral {cs : List Char} {n : Nat} (numeral : Numeral cs n) :
    ∃ c ∈ cs, c.isDigit = true := by
  cases numeral with
  | plain decimal =>
    obtain ⟨c, member⟩ := List.exists_mem_of_ne_nil _ decimal.present
    exact ⟨c, member, decimal.digits c member⟩
  | signed decimal =>
    obtain ⟨c, member⟩ := List.exists_mem_of_ne_nil _ decimal.present
    exact ⟨c, List.mem_cons_of_mem _ member, decimal.digits c member⟩

theorem exists_digit_of_denotes {cs : List Char} {n : Nat} (denoted : Denotes cs n) :
    ∃ c ∈ cs, c.isDigit = true := by
  cases denoted with
  | bare numeral => exact exists_digit_of_numeral numeral
  | row present row =>
    cases row with
    | nil => exact absurd rfl present
    | cons first later =>
      cases first with
      | group front numeral gap named =>
        obtain ⟨c, member, digit⟩ := exists_digit_of_numeral numeral
        exact ⟨c, by simp [member], digit⟩

theorem mem_of_mem_trim {cs : List Char} {c : Char} (member : c ∈ trim cs) : c ∈ cs := by
  obtain ⟨⟨before, after, -, -, framed⟩, -, -⟩ := trimmed_iff.mpr (Eq.refl (trim cs))
  rw [framed]
  simp [member]

variable {text : String} {size : ByteSize}

theorem exists_digit_of_read (read : ByteSize.read text = .ok size) :
    ∃ c ∈ text.toList, c.isDigit = true := by
  obtain ⟨c, member, digit⟩ := exists_digit_of_denotes (read_ok_iff.mp read)
  exact ⟨c, mem_of_mem_trim member, digit⟩

theorem read_ok_iff_of_neutral (neutral : ∀ c ∈ text.toList, Neutral c) :
    ByteSize.read text = .ok size ↔ Numeral text.toList size.toNat := by
  have same : trim text.toList = text.toList :=
    trim_of_not_blank fun c member => (neutral c member).notBlank
  have plain : Plain text.toList := fun c member => (neutral c member).noUnit
  rw [read_ok_iff, same, denotes_iff]
  refine or_iff_left ?_
  rintro ⟨groups, present, row, -⟩
  exact present ((row_plain_iff plain).mp row).1

theorem ne_minus_of_isBlank {c : Char} (blank : isBlank c = true) : c ≠ '-' := by
  rintro rfl
  exact absurd blank (by decide)

theorem ne_minus_of_spells {group : Group} {cs : List Char} (spelled : Spells group cs) :
    ∀ c ∈ cs, c ≠ '-' := by
  cases spelled with
  | @group before number between name n unit front numeral gap named =>
    intro c member
    simp only [List.mem_append] at member
    rcases member with ((here | here) | here) | here
    · exact ne_minus_of_isBlank (front c here)
    · rintro rfl
      rcases numeral.mem here with same | digit
      · exact absurd same (by decide)
      · exact absurd digit (by decide)
    · exact ne_minus_of_isBlank (gap c here)
    · rintro rfl
      have letters : ∀ unit : SizeUnit, ∀ name ∈ unit.names, '-' ∉ name := by
        intro unit
        cases unit <;> decide
      exact letters unit _ named (List.mem_map_of_mem (f := Char.toUpper) here)

theorem ne_minus_of_denotes {cs : List Char} {n : Nat} (denoted : Denotes cs n) :
    ∀ c ∈ cs, c ≠ '-' := by
  cases denoted with
  | bare numeral =>
    rintro c member rfl
    rcases numeral.mem member with same | digit
    · exact absurd same (by decide)
    · exact absurd digit (by decide)
  | row _ row => exact row.forall_mem fun _ _ => ne_minus_of_spells

theorem minus_not_mem_of_read (read : ByteSize.read text = .ok size) : '-' ∉ text.toList := by
  intro member
  obtain ⟨⟨before, after, front, behind, framed⟩, -, -⟩ :=
    trimmed_iff.mpr (Eq.refl (trim text.toList))
  rw [framed] at member
  simp only [List.mem_append] at member
  rcases member with (here | here) | here
  · exact ne_minus_of_isBlank (front _ here) rfl
  · exact ne_minus_of_denotes (read_ok_iff.mp read) _ here rfl
  · exact ne_minus_of_isBlank (behind _ here) rfl

end Bayeux.ByteSize
