import Bayeux.Proofs.Binary64.Reader
import Bayeux.Proofs.Text.LowerCase
import Bayeux.Settings.Load
import Bayeux.Settings.Sources

set_option autoImplicit false

namespace Bayeux

open Text

namespace RawSetting

open ByteSize

variable {text key : String} {size : ByteSize}

theorem neutral_of_readSigned {cs : List Char} {n : Int} (read : readSigned cs = some n) :
    ∀ c ∈ cs, Neutral c := by
  by_cases minus : cs.head? = some '-'
  · obtain ⟨rest, rfl⟩ := List.head?_eq_some_iff.mp minus
    rw [readSigned_minus] at read
    split at read
    next digits => exact List.forall_mem_cons.mpr ⟨by decide, neutral_of_readDigits digits⟩
    next => exact nomatch read
  · rw [readSigned_of_not_minus minus] at read
    split at read
    next digits =>
      have numeral := numeral_iff.mpr (readDigits_eq_some_iff.mp digits)
      exact fun c member => ⟨numeral.not_blank member, SizeUnit.ofLetter?_of_numeral numeral member⟩
    next => exact nomatch read

theorem readSigned_lt {cs : List Char} {n : Int} (read : readSigned cs = some n) : n < 2 ^ 63 := by
  by_cases minus : cs.head? = some '-'
  · obtain ⟨rest, rfl⟩ := List.head?_eq_some_iff.mp minus
    rw [readSigned_minus] at read
    split at read
    next =>
      split at read
      next =>
        obtain rfl := Option.some.inj read
        omega
      next => exact nomatch read
    next => exact nomatch read
  · rw [readSigned_of_not_minus minus] at read
    split at read
    next =>
      split at read
      next =>
        obtain rfl := Option.some.inj read
        omega
      next => exact nomatch read
    next => exact nomatch read

theorem ofInt?_eq_some_iff {n : Int} (small : n < 2 ^ 63) :
    ofInt? n = some size ↔ n = (size.toNat : Int) := by
  unfold ofInt?
  constructor
  · intro read
    split at read
    next positive =>
      obtain rfl := Option.some.inj read
      rw [toNat_ofNat (by omega)]
      omega
    next => exact nomatch read
  · rintro rfl
    rw [if_pos (by omega), Int.toNat_natCast, ofNat_toNat]

theorem readSize_integer_iff {n : Int} (small : n < 2 ^ 63) :
    (RawSetting.integer n).readSize key = .ok size ↔ n = (size.toNat : Int) := by
  rw [← ofInt?_eq_some_iff small, readSize]
  split
  next same => simp [same]
  next same => simp [same]

/-- The size that a text stands for in a variable: what it stands for elsewhere unless it is a bare
number of 64 bits, and zero for zeros behind a minus sign. -/
def SetsSize (text : String) (size : ByteSize) : Prop :=
  (ByteSize.read text = .ok size ∧ ¬(Numeral text.toList size.toNat ∧ 2 ^ 63 ≤ size.toNat)) ∨
    ∃ zeros, text.toList = '-' :: zeros ∧ Decimal zeros 0 ∧ size.toNat = 0

theorem readSize_whole_iff {n : Int} (whole : readSigned text.toList = some n) :
    (RawSetting.integer n).readSize key = .ok size ↔ SetsSize text size := by
  have numeral : ByteSize.read text = .ok size ↔ Numeral text.toList size.toNat :=
    read_ok_iff_of_neutral (neutral_of_readSigned whole)
  have read : readSigned text.toList = some (size.toNat : Int) ↔ _ := readSigned_eq_ofNat_iff
  rw [whole, Option.some.injEq] at read
  rw [readSize_integer_iff (readSigned_lt whole), read, SetsSize, numeral]
  refine or_congr_left ⟨fun both => ⟨both.1, fun large => ?_⟩, fun both => ⟨both.1, ?_⟩⟩
  · exact Nat.not_le.mpr both.2 large.2
  · exact Nat.not_le.mp fun large => both.2 ⟨both.1, large⟩

section NotWhole

variable (notWhole : readSigned text.toList = none)

include notWhole

theorem large_of_numeral (numeral : Numeral text.toList size.toNat) : 2 ^ 63 ≤ size.toNat := by
  rw [readSigned_of_numeral numeral] at notWhole
  split at notWhole
  next => cases notWhole
  next large => omega

theorem setsSize_iff : SetsSize text size ↔
    ByteSize.read text = .ok size ∧ ¬(Numeral text.toList size.toNat ∧ 2 ^ 63 ≤ size.toNat) := by
  refine or_iff_left fun zeros => ?_
  have whole := readSigned_eq_ofNat_iff.mpr (.inr zeros)
  rw [notWhole] at whole
  cases whole

theorem readSize_float_iff {x : Binary64} (number : Binary64.read? text.toList = some x) :
    (RawSetting.float x).readSize key = .ok size ↔ SetsSize text size := by
  rw [setsSize_iff notWhole]
  -- A float is no size, and of the texts that are floats only the large numerals are sizes elsewhere.
  refine iff_of_false (by simp [readSize]) ?_
  rintro ⟨read, bare⟩
  have numeral := (read_ok_iff_of_neutral (Binary64.neutral_of_read? number)).mp read
  exact bare ⟨numeral, large_of_numeral notWhole numeral⟩

theorem readSize_text_iff (noNumber : Binary64.read? text.toList = none) (source : Option String) :
    (RawSetting.text text source).readSize key = .ok size ↔ SetsSize text size := by
  have noNumeral : ¬Numeral text.toList size.toNat := by
    intro numeral
    have number := Binary64.read?_isSome numeral
    rw [noNumber] at number
    cases number
  have read : (RawSetting.text text source).readSize key = .ok size ↔
      ByteSize.read text = .ok size := by
    rw [readSize]
    cases ByteSize.read text <;> simp
  rw [read, setsSize_iff notWhole]
  exact ⟨fun ok => ⟨ok, fun both => noNumeral both.1⟩, fun both => both.1⟩

end NotWhole

theorem no_digit_of_lowerCase {word : String} (same : lowerCase text = word)
    (letters : word.toList.any Char.isDigit = false) : ∀ c ∈ text.toList, c.isDigit = false := by
  intro c member
  cases digit : c.isDigit with
  | false => rfl
  | true =>
    have found := List.any_eq_true.mpr ⟨c, same ▸ mem_lowerCase digit member, digit⟩
    rw [letters] at found
    exact absurd found Bool.false_ne_true

theorem not_setsSize (none : ∀ c ∈ text.toList, c.isDigit = false) : ¬SetsSize text size := by
  rintro (⟨read, -⟩ | ⟨zeros, same, decimal, -⟩)
  · obtain ⟨c, member, digit⟩ := exists_digit_of_read read
    exact absurd digit (by simp [none c member])
  · obtain ⟨c, member, digit⟩ := exists_digit_of_numeral (.plain decimal)
    exact absurd digit (by simp [none c (same ▸ List.mem_cons_of_mem _ member)])

theorem readSize_ofVariable_iff : (ofVariable text).readSize key = .ok size ↔ SetsSize text size := by
  unfold ofVariable
  dsimp only
  split
  next same =>
    exact iff_of_false (by simp [readSize]) (not_setsSize (no_digit_of_lowerCase same (by decide)))
  next =>
    split
    next same =>
      exact iff_of_false (by simp [readSize]) (not_setsSize (no_digit_of_lowerCase same (by decide)))
    next =>
      split
      next n whole => exact readSize_whole_iff whole
      next notWhole =>
        split
        next x number => exact readSize_float_iff notWhole number
        next noNumber => exact readSize_text_iff notWhole noNumber _

end RawSetting

end Bayeux
