import Bayeux.Proofs.ByteSize.Stepwise

set_option autoImplicit false

namespace Bayeux.ByteSize

open Text

theorem toNat_ofNat {n : Nat} (fits : n < 2 ^ 64) : (ofNat n).toNat = n :=
  UInt64.toNat_ofNat_of_lt' fits

theorem toNat_lt (size : ByteSize) : size.toNat < 2 ^ 64 := size.count.toNat_lt

theorem toNat_inj {a b : ByteSize} : a.toNat = b.toNat ↔ a = b := by
  cases a
  cases b
  simp [toNat, UInt64.toNat_inj]

theorem ofNat_toNat (size : ByteSize) : ofNat size.toNat = size :=
  toNat_inj.mp (toNat_ofNat size.toNat_lt)

@[simp] theorem valueOf_nil : valueOf [] = 0 := rfl

@[simp] theorem valueOf_cons (group : Group) (groups : List Group) :
    valueOf (group :: groups) = group.value + valueOf groups := by
  rw [valueOf, List.map_cons, List.sum_cons, valueOf]

theorem bytes_pos (unit : SizeUnit) : 0 < unit.bytes := by
  cases unit <;> decide

variable {text : String} {total : Nat} {number cs : List Char} {mayB : Bool} {size : ByteSize}

theorem fits_of_sum {n : Nat} {unit : SizeUnit} {later : List Group}
    (sum : total + valueOf ((n, unit) :: later) = size.toNat) :
    n < 2 ^ 64 ∧ total + n * unit.bytes < 2 ^ 64 := by
  have scaled : n ≤ n * unit.bytes := Nat.le_mul_of_pos_right n (bytes_pos unit)
  have small := size.toNat_lt
  simp only [valueOf_cons, Group.value] at sum
  omega

-- What is read behind the unit is the induction hypothesis of `readGroups_ok_iff`.
theorem readGroups_unit_ok_iff {c : Char} {unit : SizeUnit}
    (read : SizeUnit.ofLetter? c = some unit) (first : ¬ (mayB = true ∧ unit = .byte))
    (plain : Plain number)
    (onward : ∀ sum < 2 ^ 64, (readGroups text sum [] (unit != .byte) cs = .ok size ↔
      ∃ groups, Continues (unit != .byte) groups cs ∧ sum + valueOf groups = size.toNat)) :
    readGroups text total number mayB (c :: cs) = .ok size ↔
      ∃ groups, Row Spells groups (number.reverse ++ c :: cs) ∧
        total + valueOf groups = size.toNat := by
  simp only [readGroups_unit read first, row_letter_iff plain.reverse read]
  cases word : readWord (trim number.reverse) with
  | none =>
    refine iff_of_false (by simp) ?_
    rintro ⟨_, ⟨n, later, rfl, numeral, -⟩, sum⟩
    have same : (UInt64.ofNat n).toNat = n := UInt64.toNat_ofNat_of_lt' (fits_of_sum sum).1
    rw [readWord_eq_some_iff.mpr (same.symm ▸ numeral)] at word
    simp at word
  | some w =>
    have numeral := readWord_eq_some_iff.mp word
    dsimp only
    split
    next fits =>
      rw [onward _ fits]
      constructor
      · rintro ⟨later, row, sum⟩
        refine ⟨_, ⟨w.toNat, later, rfl, numeral, row⟩, ?_⟩
        rw [valueOf_cons, Group.value, ← sum, Nat.add_assoc]
      · rintro ⟨_, ⟨n, later, rfl, other, row⟩, sum⟩
        obtain rfl := other.unique numeral
        refine ⟨later, row, ?_⟩
        rw [← sum, valueOf_cons, Group.value, Nat.add_assoc]
    next large =>
      refine iff_of_false (by simp) ?_
      rintro ⟨_, ⟨n, later, rfl, other, -⟩, sum⟩
      obtain rfl := other.unique numeral
      exact large (fits_of_sum sum).2

-- By induction on the rest of the text, with the part of a group that has been read put back.
theorem readGroups_ok_iff (bound : total < 2 ^ 64) (plain : Plain number)
    (fresh : mayB = true → number = []) :
    readGroups text total number mayB cs = .ok size ↔
      ∃ groups, Continues mayB groups (number.reverse ++ cs) ∧
        total + valueOf groups = size.toNat := by
  induction cs generalizing total number mayB with
  | nil =>
    cases number with
    | nil =>
      simp only [readGroups, Except.ok.injEq, List.reverse_nil, List.append_nil, continues_nil_iff,
        exists_eq_left, valueOf_nil, Nat.add_zero]
      rw [← toNat_inj, toNat_ofNat bound]
    | cons d number =>
      have noB : mayB = false := by simpa using fresh
      refine iff_of_false (by simp [readGroups]) ?_
      rintro ⟨groups, row, -⟩
      rw [noB, continues_false_iff, List.append_nil, row_plain_iff plain.reverse] at row
      exact absurd row.2 (by simp)
  | cons c rest ih =>
    cases read : SizeUnit.ofLetter? c with
    | none =>
      have alone : mayB = true → number.reverse = [] ∧ SizeUnit.ofLetter? c ≠ some .byte :=
        fun may => ⟨by simp [fresh may], by simp [read]⟩
      rw [readGroups_none read, ih bound (plain.cons read) (by simp), List.reverse_cons,
        List.append_assoc]
      simp only [List.singleton_append, continues_false_iff, continues_iff_row alone]
    | some unit =>
      by_cases second : mayB = true ∧ unit = .byte
      · obtain ⟨rfl, rfl⟩ := second
        obtain rfl := fresh rfl
        rw [readGroups_second read, ih bound plain (by simp)]
        simp only [List.reverse_nil, List.nil_append, continues_false_iff, continues_b_iff read]
      · have alone : mayB = true → number.reverse = [] ∧ SizeUnit.ofLetter? c ≠ some .byte :=
          fun may => ⟨by simp [fresh may], fun same => second ⟨may, by simpa [read] using same⟩⟩
        simp only [continues_iff_row alone]
        exact readGroups_unit_ok_iff read second plain fun sum fits => ih fits plain_nil (by simp)

theorem read_ok_iff : read text = .ok size ↔ Denotes (trim text.toList) size.toNat := by
  rw [read, denotes_iff]
  generalize trim text.toList = trimmed
  cases word : readWord trimmed with
  | some n =>
    have numeral := readWord_eq_some_iff.mp word
    have plain : Plain trimmed := fun c member => SizeUnit.ofLetter?_of_numeral numeral member
    constructor
    · intro same
      cases same
      exact .inl numeral
    · rintro (other | ⟨groups, present, row, -⟩)
      · exact congrArg Except.ok (toNat_inj.mp (numeral.unique other))
      · exact absurd ((row_plain_iff plain).mp row).1 present
  | none =>
    dsimp only
    split
    next empty =>
      obtain rfl := List.isEmpty_iff.mp empty
      refine iff_of_false (by simp) ?_
      rintro (numeral | ⟨groups, present, row, -⟩)
      · exact numeral.ne_nil rfl
      · exact present ((row_plain_iff plain_nil).mp row).1
    next some =>
      rw [readGroups_ok_iff (by decide) plain_nil (by simp)]
      simp only [List.reverse_nil, List.nil_append, continues_false_iff, Nat.zero_add]
      constructor
      · rintro ⟨groups, row, sum⟩
        refine .inr ⟨groups, ?_, row, sum⟩
        rintro rfl
        exact some (List.isEmpty_iff.mpr row.eq_nil)
      · rintro (numeral | ⟨groups, -, row, sum⟩)
        · rw [readWord_eq_some_iff.mpr numeral] at word
          simp at word
        · exact ⟨groups, row, sum⟩

/-- A text is read exactly where it stands for a size of 64 bits, and as that size; every other one
is refused, which counts as zero where that is asked for. Reading step by step comes to the same,
errors included. -/
theorem read_exact (text : String) :
    (∀ v, (∃ size, read text = .ok size ∧ size.toNat = v) ↔
      v < 2 ^ 64 ∧ ∃ core, Trimmed text.toList core ∧ Denotes core v) ∧
    ((∃ e, read text = .error e) ↔
      ¬ ∃ v < 2 ^ 64, ∃ core, Trimmed text.toList core ∧ Denotes core v) ∧
    (∀ size, read text = .ok size → readOrZero text = size) ∧
    (∀ e, read text = .error e → readOrZero text = zero) ∧
    ∀ upper, Capitalizes upper → readStepwise upper text = read text := by
  have sized (v : Nat) : (∃ size, read text = .ok size ∧ size.toNat = v) ↔
      v < 2 ^ 64 ∧ ∃ core, Trimmed text.toList core ∧ Denotes core v := by
    simp only [read_ok_iff, trimmed_iff, exists_eq_left']
    constructor
    · rintro ⟨size, denoted, rfl⟩
      exact ⟨size.toNat_lt, denoted⟩
    · rintro ⟨fits, denoted⟩
      exact ⟨ofNat v, by rwa [toNat_ofNat fits], toNat_ofNat fits⟩
  refine ⟨sized, ?_, fun size same => by rw [readOrZero, same],
    fun e same => by rw [readOrZero, same],
    fun upper capitalizes => readStepwise_eq_read capitalizes text⟩
  constructor
  · rintro ⟨e, refused⟩ ⟨v, denoted⟩
    obtain ⟨size, same, -⟩ := (sized v).mpr denoted
    rw [refused] at same
    simp at same
  · intro undenoted
    cases same : read text with
    | error e => exact ⟨e, rfl⟩
    | ok size => exact absurd ⟨size.toNat, (sized _).mp ⟨size, same, rfl⟩⟩ undenoted

theorem read_spelled :
    Denotes "1g +2 kB".toList (1024 ^ 3 + 2048) ∧
    ∃ size, read " 1g +2 kB\n" = .ok size ∧ size.toNat = 1024 ^ 3 + 2048 := by
  have giga : Spells (1, .giga) ['1', 'g'] :=
    @Spells.group [] ['1'] [] ['g'] 1 .giga blanks_nil (.plain (decimal_toDigits 1)) blanks_nil
      (by decide)
  have space : Blanks [' '] := by
    intro c member
    rw [List.mem_singleton.mp member]
    decide
  have kilo : Spells (2, .kilo) [' ', '+', '2', ' ', 'k', 'B'] :=
    @Spells.group [' '] ['+', '2'] [' '] ['k', 'B'] 2 .kilo space
      (.signed (decimal_toDigits 2)) space (by decide)
  have denoted : Denotes "1g +2 kB".toList (1024 ^ 3 + 2048) :=
    .row (by simp) (.cons giga (.cons kilo .nil))
  exact ⟨denoted, ((read_exact _).1 _).mpr ⟨by decide, _, trimmed_iff.mpr (by decide), denoted⟩⟩

end Bayeux.ByteSize
