import Bayeux.Proofs.ByteSize.Canonical
import Bayeux.Proofs.Json.Integers
import Bayeux.Proofs.Json.Strings
import Bayeux.Settings.Json

set_option autoImplicit false

namespace Bayeux.ByteSize

open Json Text

theorem Shown.spells {group : Group} {cs : List Char} (shown : Shown group cs) : Spells group cs := by
  cases shown with
  | @group number n unit decimal _ =>
    simpa using Spells.group blanks_nil (.plain decimal) blanks_nil unit.named_letter

theorem spells_zero : Spells (0, .byte) ['0', 'B'] :=
  @Spells.group [] ['0'] [] ['B'] 0 .byte blanks_nil (.plain (decimal_toDigits 0)) blanks_nil
    (SizeUnit.named_letter .byte)

theorem Canonical.denotes {cs : List Char} {v : Nat} (canonical : Canonical cs v) : Denotes cs v := by
  cases canonical with
  | zero => exact .row (by simp) (.cons spells_zero .nil)
  | row present _ row => exact .row present (row.mono fun _ _ => Shown.spells)

theorem Shown.not_blank {group : Group} {cs : List Char} (shown : Shown group cs) :
    ∀ c ∈ cs, isBlank c = false := by
  intro c member
  cases shown with
  | @group number n unit decimal _ =>
    rcases List.mem_append.mp member with digit | letter
    · exact isBlank_of_isDigit (decimal.digits c digit)
    · rw [List.mem_singleton.mp letter]
      cases unit <;> decide

theorem Canonical.not_blank {cs : List Char} {v : Nat} (canonical : Canonical cs v) :
    ∀ c ∈ cs, isBlank c = false := by
  cases canonical with
  | zero =>
    intro c member
    simp only [List.mem_cons, List.not_mem_nil, or_false] at member
    rcases member with rfl | rfl <;> decide
  | row _ _ row => exact row.forall_mem fun _ _ => Shown.not_blank

theorem toList_text (size : ByteSize) : size.text.toList = size.chars := String.toList_ofList

theorem read_text (size : ByteSize) : read size.text = .ok size := by
  have canonical := canonical_chars size
  rw [read_ok_iff, toList_text, trim_of_not_blank canonical.not_blank]
  exact canonical.denotes

theorem text_injective : Function.Injective text := by
  intro a b same
  have read := read_text a
  rw [same, read_text, Except.ok.injEq] at read
  exact read.symm

theorem Canonical.text_ofNat {text : String} {v : Nat} (canonical : Canonical text.toList v)
    (fits : v < 2 ^ 64) : (ofNat v).text = text := by
  have sized : Canonical text.toList (ofNat v).toNat := by rwa [toNat_ofNat fits]
  rw [ByteSize.text, sized.chars_eq, String.ofList_toList]

theorem ofJson_toJson (size : ByteSize) : ofJson size.toJson.text = .ok size := by
  have chars : size.toJson.text.toList =
      '"' :: (size.text.toList.flatMap escapeChar ++ ['"']) := String.toList_ofList
  have value : readByteSize size.toJson.text.toList = .ok size [] := by
    rw [chars, readByteSize, skipSpace_cons rfl]
    simp [readString_stringChars, read_text, Outcome.ofExcept, bind, Except.bind]
  rw [ofJson, readWhole, value]
  rfl

theorem readByteSize_toDigits (n : Nat) :
    readByteSize (Nat.toDigits 10 n) =
      .ofExcept ((readNumber false (Nat.toDigits 10 n)).bind readByteSize.number) := by
  have whole := whole_toDigits n
  obtain ⟨c, rest, start⟩ := List.exists_cons_of_ne_nil whole.present
  have digit : c.isDigit := whole.all c (by simp [start])
  obtain ⟨visible, -, -, -, quote, minus, bracket, brace, -⟩ := not_digit digit
  rw [start, readByteSize, skipSpace_cons visible]
  split <;> simp_all

theorem ofJson_toNat (size : ByteSize) : ofJson (toString size.toNat) = .ok size := by
  have chars : (toString size.toNat).toList = Nat.toDigits 10 size.toNat := Nat.toList_repr
  have value : readByteSize (toString size.toNat).toList = .ok size [] := by
    rw [chars, readByteSize_toDigits, readNumber_toDigits false size.toNat_lt]
    have found : readByteSize.number (wholeNumber false size.toNat, []) = .ok (size, []) := by
      simp [wholeNumber, readByteSize.number, ofInt?, ofNat_toNat]
    simp only [Except.bind, found, Outcome.ofExcept]
  rw [ofJson, readWhole, value]
  rfl

/-- Printing and reading are inverse: on all sizes, and on the canonical texts of those that fit,
which are just the texts that are printed. -/
theorem text_roundTrip :
    (∀ size : ByteSize, read size.text = .ok size ∧ ofJson size.toJson.text = .ok size ∧
      ofJson (toString size.toNat) = .ok size ∧ Canonical size.text.toList size.toNat) ∧
    (∀ (text : String) (v : Nat), Canonical text.toList v → v < 2 ^ 64 →
      ∃ size, size.toNat = v ∧ read text = .ok size ∧ size.text = text) ∧
    Function.Injective text ∧
    ∀ text : String, (∃ size : ByteSize, size.text = text) ↔
      ∃ v < 2 ^ 64, Canonical text.toList v := by
  have shown (size : ByteSize) : Canonical size.text.toList size.toNat := by
    rw [toList_text]
    exact canonical_chars size
  refine ⟨fun size => ⟨read_text size, ofJson_toJson size, ofJson_toNat size, shown size⟩, ?_,
    text_injective, fun text => ?_⟩
  · intro text v canonical fits
    have same := canonical.text_ofNat fits
    refine ⟨ofNat v, toNat_ofNat fits, ?_, same⟩
    rw [← same]
    exact read_text _
  · constructor
    · rintro ⟨size, rfl⟩
      exact ⟨size.toNat, size.toNat_lt, shown size⟩
    · rintro ⟨v, fits, canonical⟩
      exact ⟨ofNat v, canonical.text_ofNat fits⟩

theorem canonical_twoUnits :
    Canonical "2G1M".toList (2 * 1024 ^ 3 + 1024 ^ 2) ∧
    ∃ size, size.toNat = 2 * 1024 ^ 3 + 1024 ^ 2 ∧ read "2G1M" = .ok size ∧ size.text = "2G1M" := by
  have reduced : Reduced [(2, .giga), (1, .mega)] :=
    { descending := by decide
      positive := by decide
      small := by decide }
  have row : Row Shown [(2, .giga), (1, .mega)] "2G1M".toList :=
    (row_shown_iff reduced.positive).mpr (by decide)
  have canonical : Canonical "2G1M".toList (2 * 1024 ^ 3 + 1024 ^ 2) := .row (by simp) reduced row
  exact ⟨canonical, text_roundTrip.2.1 _ _ canonical (by decide)⟩

end Bayeux.ByteSize
