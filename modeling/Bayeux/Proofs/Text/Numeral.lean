import Bayeux.Text.Basic

set_option autoImplicit false

namespace Bayeux.Text

def Blanks (cs : List Char) : Prop := ∀ c ∈ cs, isBlank c = true

theorem blanks_nil : Blanks [] := by
  simp [Blanks]

-- Blanks stand around `core`, which neither begins nor ends with one.
structure Trimmed (cs core : List Char) : Prop where
  framed : ∃ before after, Blanks before ∧ Blanks after ∧ cs = before ++ core ++ after
  first : ∀ c ∈ core.head?, isBlank c = false
  last : ∀ c ∈ core.getLast?, isBlank c = false

theorem dropWhile_isBlank_iff {cs rest : List Char} :
    cs.dropWhile isBlank = rest ↔
      ∃ before, Blanks before ∧ cs = before ++ rest ∧ ∀ c ∈ rest.head?, isBlank c = false := by
  constructor
  · rintro rfl
    refine ⟨cs.takeWhile isBlank, List.all_eq_true.mp List.all_takeWhile,
      List.takeWhile_append_dropWhile.symm, fun c first => ?_⟩
    have stop := List.head?_dropWhile_not isBlank cs
    rw [first] at stop
    simpa using stop
  · rintro ⟨before, blanks, rfl, stop⟩
    rw [List.dropWhile_append_of_pos blanks]
    cases rest with
    | nil => rfl
    | cons c rest => exact List.dropWhile_cons_of_neg (by simp [stop c rfl])

theorem Blanks.reverse {cs : List Char} (blanks : Blanks cs) : Blanks cs.reverse :=
  fun c member => blanks c (List.mem_reverse.mp member)

theorem trim_eq_iff {cs core : List Char} :
    trim cs = core ↔
      ∃ before after, Blanks before ∧ Blanks after ∧ cs = before ++ (core ++ after) ∧
        (∀ c ∈ (core ++ after).head?, isBlank c = false) ∧
        ∀ c ∈ core.getLast?, isBlank c = false := by
  rw [trim, List.reverse_eq_iff, dropWhile_isBlank_iff]
  constructor
  · rintro ⟨after, behind, joined, last⟩
    have dropped : cs.dropWhile isBlank = core ++ after.reverse := by
      simpa using congrArg List.reverse joined
    obtain ⟨before, front, same, first⟩ := dropWhile_isBlank_iff.mp dropped
    exact ⟨before, after.reverse, front, behind.reverse, same, first, by simpa using last⟩
  · rintro ⟨before, after, front, behind, same, first, last⟩
    have dropped := dropWhile_isBlank_iff.mpr ⟨before, front, same, first⟩
    exact ⟨after.reverse, behind.reverse, by simp [dropped], by simpa using last⟩

theorem trimmed_iff {cs core : List Char} : Trimmed cs core ↔ trim cs = core := by
  rw [trim_eq_iff]
  constructor
  · rintro ⟨⟨before, after, front, behind, rfl⟩, first, last⟩
    rcases core with - | ⟨c, core⟩
    · have all : Blanks (before ++ after) := fun c member =>
        (List.mem_append.mp member).elim (front c) (behind c)
      exact ⟨before ++ after, [], all, blanks_nil, by simp, by simp, by simp⟩
    · exact ⟨before, after, front, behind, List.append_assoc .., first, last⟩
  · rintro ⟨before, after, front, behind, rfl, first, last⟩
    refine ⟨⟨before, after, front, behind, (List.append_assoc ..).symm⟩, ?_, last⟩
    rcases core with - | ⟨c, core⟩
    · simp
    · exact first

theorem trim_of_not_blank {cs : List Char} (solid : ∀ c ∈ cs, isBlank c = false) : trim cs = cs :=
  trimmed_iff.mp
    { framed := ⟨[], [], blanks_nil, blanks_nil, by simp⟩
      first := fun c first => solid c (List.mem_of_mem_head? first)
      last := fun c last => solid c (List.mem_of_getLast? last) }

theorem forall_ascii {P : Char → Prop} (table : ∀ n < 128, P (Char.ofNat n)) {c : Char}
    (ascii : c.toNat < 128) : P c := by
  have here := table c.toNat ascii
  rwa [Char.ofNat_toNat] at here

theorem isDigit_iff (c : Char) : c.isDigit = true ↔ 48 ≤ c.toNat ∧ c.toNat ≤ 57 := by
  rw [Char.isDigit, Bool.and_eq_true, decide_eq_true_eq, decide_eq_true_eq]
  exact and_congr UInt32.le_iff_toNat_le UInt32.le_iff_toNat_le

theorem isBlank_of_isDigit {c : Char} (digit : c.isDigit = true) : isBlank c = false := by
  obtain ⟨low, high⟩ := (isDigit_iff c).mp digit
  simp only [isBlank, Bool.or_eq_false_iff, Bool.and_eq_false_iff, decide_eq_false_iff_not,
    beq_eq_false_iff_ne]
  omega

structure Decimal (cs : List Char) (n : Nat) : Prop where
  present : cs ≠ []
  digits : ∀ c ∈ cs, c.isDigit = true
  value : Nat.ofDigitChars 10 cs 0 = n

inductive Numeral : List Char → Nat → Prop where
  | plain {cs : List Char} {n : Nat} (decimal : Decimal cs n) : Numeral cs n
  | signed {cs : List Char} {n : Nat} (decimal : Decimal cs n) : Numeral ('+' :: cs) n

theorem readDigits_eq_some_iff {cs : List Char} {n : Nat} :
    readDigits cs = some n ↔ Decimal cs n := by
  unfold readDigits
  constructor
  · intro read
    split at read
    next => simp at read
    next present =>
      split at read
      next digits =>
        exact ⟨by simpa using present, List.all_eq_true.mp digits, Option.some.inj read⟩
      next => simp at read
  · rintro ⟨present, digits, rfl⟩
    rw [if_neg (by simpa using present), if_pos (List.all_eq_true.mpr digits)]

theorem decimal_toDigits (n : Nat) : Decimal (Nat.toDigits 10 n) n :=
  readDigits_eq_some_iff.mp (readDigits_toDigits n)

theorem digitChar_of_isDigit {c : Char} (digit : c.isDigit = true) :
    c.toNat - '0'.toNat < 10 ∧ Nat.digitChar (c.toNat - '0'.toNat) = c := by
  obtain ⟨low, high⟩ := (isDigit_iff c).mp digit
  have zero : '0'.toNat = 48 := rfl
  have small : c.toNat - '0'.toNat < 10 := by omega
  have table : ∀ k < 10, Nat.digitChar k = Char.ofNat (48 + k) := by decide
  have restored : 48 + (c.toNat - '0'.toNat) = c.toNat := by omega
  exact ⟨small, by rw [table _ small, restored, Char.ofNat_toNat]⟩

-- Digits behind a positive number are its last digits.
theorem toDigits_ofDigitChars {cs : List Char} (digits : ∀ c ∈ cs, c.isDigit = true) {n : Nat}
    (positive : 0 < n) : Nat.toDigits 10 (Nat.ofDigitChars 10 cs n) = Nat.toDigits 10 n ++ cs := by
  induction cs generalizing n with
  | nil => simp
  | cons c cs ih =>
    obtain ⟨small, same⟩ := digitChar_of_isDigit (digits c (by simp))
    rw [Nat.ofDigitChars_cons, ih (fun d member => digits d (List.mem_cons_of_mem c member)) (by omega),
      ← Nat.toDigits_append_toDigits (by decide) positive small, Nat.toDigits_of_lt_base small, same]
    simp

theorem Decimal.eq_toDigits {cs : List Char} {n : Nat} (decimal : Decimal cs n)
    (leading : cs.head? ≠ some '0') : cs = Nat.toDigits 10 n := by
  obtain ⟨present, digits, rfl⟩ := decimal
  obtain ⟨c, rest, rfl⟩ := List.exists_cons_of_ne_nil present
  obtain ⟨small, same⟩ := digitChar_of_isDigit (digits c (by simp))
  have positive : 0 < c.toNat - '0'.toNat := by
    refine Nat.pos_of_ne_zero fun zero => leading ?_
    rw [← same, zero]
    rfl
  rw [Nat.ofDigitChars_cons, Nat.mul_zero, Nat.zero_add,
    toDigits_ofDigitChars (fun d member => digits d (List.mem_cons_of_mem c member)) positive,
    Nat.toDigits_of_lt_base small, same]
  rfl

-- What the number itself is behind its sign.
def unsigned (cs : List Char) : List Char :=
  match cs with
  | '+' :: rest => rest
  | _ => cs

theorem numeral_iff {cs : List Char} {n : Nat} : Numeral cs n ↔ Decimal (unsigned cs) n := by
  unfold unsigned
  split
  next rest =>
    refine ⟨fun numeral => ?_, .signed⟩
    cases numeral with
    | plain decimal => exact absurd (decimal.digits '+' (by simp)) (by decide)
    | signed decimal => exact decimal
  next other =>
    refine ⟨fun numeral => ?_, .plain⟩
    cases numeral with
    | plain decimal => exact decimal
    | signed decimal => exact absurd rfl (other _)

theorem Numeral.unique {cs : List Char} {n m : Nat} (one : Numeral cs n) (other : Numeral cs m) :
    n = m :=
  (numeral_iff.mp one).value.symm.trans (numeral_iff.mp other).value

theorem Numeral.ne_nil {cs : List Char} {n : Nat} (numeral : Numeral cs n) : cs ≠ [] := by
  cases numeral with
  | plain decimal => exact decimal.present
  | signed => simp

theorem Numeral.mem {cs : List Char} {n : Nat} (numeral : Numeral cs n) {c : Char}
    (member : c ∈ cs) : c = '+' ∨ c.isDigit = true := by
  cases numeral with
  | plain decimal => exact .inr (decimal.digits c member)
  | signed decimal => exact (List.mem_cons.mp member).imp id (decimal.digits c)

theorem Numeral.not_blank {cs : List Char} {n : Nat} (numeral : Numeral cs n) {c : Char}
    (member : c ∈ cs) : isBlank c = false := by
  rcases numeral.mem member with rfl | digit
  · decide
  · exact isBlank_of_isDigit digit

theorem readWord_eq (cs : List Char) :
    readWord cs =
      match readDigits (unsigned cs) with
      | some n => if n < 2 ^ 64 then some (UInt64.ofNat n) else none
      | none => none := rfl

theorem readWord_eq_some_iff {cs : List Char} {word : UInt64} :
    readWord cs = some word ↔ Numeral cs word.toNat := by
  rw [numeral_iff, ← readDigits_eq_some_iff, readWord_eq]
  cases readDigits (unsigned cs) with
  | none => simp
  | some n =>
    have small := word.toNat_lt
    constructor
    · intro same
      dsimp only at same
      split at same
      next fits => rw [← Option.some.inj same, UInt64.toNat_ofNat_of_lt' fits]
      next => simp at same
    · intro same
      rw [Option.some.inj same]
      simp [small]

theorem readSigned_minus (rest : List Char) :
    readSigned ('-' :: rest) =
      match readDigits rest with
      | some n => if n ≤ 2 ^ 63 then some (-(n : Int)) else none
      | none => none := rfl

theorem readSigned_of_not_minus {cs : List Char} (plain : cs.head? ≠ some '-') :
    readSigned cs =
      match readDigits (unsigned cs) with
      | some n => if n < 2 ^ 63 then some (n : Int) else none
      | none => none := by
  unfold readSigned
  split
  next => exact absurd rfl plain
  next => rfl

theorem Numeral.head_ne_minus {cs : List Char} {n : Nat} (numeral : Numeral cs n) :
    cs.head? ≠ some '-' := by
  intro first
  rcases numeral.mem (List.mem_of_head? first) with same | digit
  · exact absurd same (by decide)
  · exact absurd digit (by decide)

theorem readSigned_of_numeral {cs : List Char} {n : Nat} (numeral : Numeral cs n) :
    readSigned cs = if n < 2 ^ 63 then some (n : Int) else none := by
  rw [readSigned_of_not_minus numeral.head_ne_minus, readDigits_eq_some_iff.mpr (numeral_iff.mp numeral)]

theorem readSigned_minus_eq_ofNat_iff {rest : List Char} {n : Nat} :
    readSigned ('-' :: rest) = some (n : Int) ↔ Decimal rest 0 ∧ n = 0 := by
  rw [readSigned_minus]
  constructor
  · intro read
    split at read
    next m digits =>
      split at read
      next =>
        have zero := Option.some.inj read
        obtain ⟨rfl, rfl⟩ : m = 0 ∧ n = 0 := by omega
        exact ⟨readDigits_eq_some_iff.mp digits, rfl⟩
      next => simp at read
    next => simp at read
  · rintro ⟨zeros, rfl⟩
    rw [readDigits_eq_some_iff.mpr zeros]
    rfl

-- What is read as a whole number that is not negative: a numeral, or zeros behind a minus sign.
theorem readSigned_eq_ofNat_iff {cs : List Char} {n : Nat} :
    readSigned cs = some (n : Int) ↔
      Numeral cs n ∧ n < 2 ^ 63 ∨ ∃ zeros, cs = '-' :: zeros ∧ Decimal zeros 0 ∧ n = 0 := by
  by_cases minus : cs.head? = some '-'
  · obtain ⟨rest, rfl⟩ := List.head?_eq_some_iff.mp minus
    have noNumeral : ¬ Numeral ('-' :: rest) n := fun numeral => numeral.head_ne_minus rfl
    simp [readSigned_minus_eq_ofNat_iff, noNumeral]
  · constructor
    · intro read
      rw [readSigned_of_not_minus minus] at read
      split at read
      next m digits =>
        split at read
        next small =>
          obtain rfl : m = n := Int.ofNat_inj.mp (Option.some.inj read)
          exact .inl ⟨numeral_iff.mpr (readDigits_eq_some_iff.mp digits), small⟩
        next => simp at read
      next => simp at read
    · rintro (⟨numeral, small⟩ | ⟨zeros, rfl, -⟩)
      · rw [readSigned_of_numeral numeral, if_pos small]
      · exact absurd rfl minus

end Bayeux.Text
