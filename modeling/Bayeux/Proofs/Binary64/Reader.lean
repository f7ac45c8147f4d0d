import Bayeux.Binary64.Reader
import Bayeux.Proofs.ByteSize.Characters

set_option autoImplicit false

namespace Bayeux.Binary64

open ByteSize Text

theorem toLower_of_large {c : Char} (large : 128 ≤ c.toNat) : c.toLower = c := by
  refine dif_neg ?_
  rintro ⟨-, high⟩
  have : c.toNat ≤ 90 := UInt32.le_iff_toNat_le.mp high
  omega

theorem neutral_of_toLower {c : Char} (letter : c.toLower ∈ "infinitynan".toList) : Neutral c := by
  by_cases small : c.toNat < 128
  · exact forall_ascii (P := fun c => c.toLower ∈ "infinitynan".toList → Neutral c)
      (by decide) small letter
  · rw [toLower_of_large (by omega)] at letter
    have plain : "infinitynan".toList.all (·.toNat < 128) := by decide
    exact absurd (of_decide_eq_true (List.all_eq_true.mp plain c letter)) small

theorem neutral_of_name {cs : List Char} {name : String}
    (same : String.ofList (cs.map Char.toLower) = name)
    (letters : name.toList.all ("infinitynan".toList.contains ·)) : ∀ c ∈ cs, Neutral c := by
  intro c member
  refine neutral_of_toLower (List.contains_iff_mem.mp (List.all_eq_true.mp letters _ ?_))
  rw [← same, String.toList_ofList]
  exact List.mem_map_of_mem member

theorem neutral_of_readExponent {cs : List Char} {n : Int} (read : readExponent cs = some n) :
    ∀ c ∈ cs, Neutral c := by
  unfold readExponent at read
  split at read
  all_goals
    obtain ⟨_, whole, -⟩ := Option.map_eq_some_iff.mp read
    obtain ⟨_, digits, -⟩ := Option.bind_eq_some_iff.mp whole
  · exact List.forall_mem_cons.mpr ⟨by decide, neutral_of_readDigits digits⟩
  · exact List.forall_mem_cons.mpr ⟨by decide, neutral_of_readDigits digits⟩
  · exact neutral_of_readDigits digits

theorem neutral_of_isExponentMark {c : Char} (mark : isExponentMark c = true) : Neutral c := by
  simp only [isExponentMark, Bool.or_eq_true, decide_eq_true_eq] at mark
  rcases mark with rfl | rfl <;> decide

theorem neutral_of_point {mantissa : List Char}
    (sides : ∀ c ∈ mantissa.takeWhile (· ≠ '.') ++ (mantissa.dropWhile (· ≠ '.')).drop 1, Neutral c) :
    ∀ c ∈ mantissa, Neutral c := by
  intro c member
  rw [← List.takeWhile_append_dropWhile (p := (· ≠ '.')) (l := mantissa)] at member
  rcases List.mem_append.mp member with before | later
  · exact sides c (List.mem_append_left _ before)
  · cases rest : mantissa.dropWhile (· ≠ '.') with
    | nil =>
      rw [rest] at later
      exact absurd later List.not_mem_nil
    | cons d fraction =>
      rw [rest] at later sides
      rcases List.mem_cons.mp later with rfl | behind
      · have stop := List.head?_dropWhile_not (· ≠ '.') mantissa
        rw [rest] at stop
        obtain rfl : c = '.' := by simpa using stop
        decide
      · exact sides c (List.mem_append_right _ behind)

theorem neutral_of_readDecimal {cs : List Char} {negative : Bool} {x : Binary64}
    (read : readDecimal negative cs = some x) : ∀ c ∈ cs, Neutral c := by
  simp only [readDecimal, Option.bind_eq_bind, Option.bind_eq_some_iff] at read
  obtain ⟨digits, number, later⟩ := read
  intro c member
  rw [← List.takeWhile_append_dropWhile (p := fun c => !isExponentMark c) (l := cs)] at member
  rcases List.mem_append.mp member with before | behind
  · exact neutral_of_point (neutral_of_readDigits number) c before
  · split at later
    next tail => simp [tail] at behind
    next mark power tail =>
      obtain ⟨exponent, read, -⟩ := Option.bind_eq_some_iff.mp later
      rw [tail] at behind
      rcases List.mem_cons.mp behind with rfl | there
      · have stop := List.head?_dropWhile_not (fun c => !isExponentMark c) cs
        rw [tail] at stop
        exact neutral_of_isExponentMark (by simpa using stop)
      · exact neutral_of_readExponent read c there

theorem neutral_of_readUnsigned {cs : List Char} {negative : Bool} {x : Binary64}
    (read : readUnsigned negative cs = some x) : ∀ c ∈ cs, Neutral c := by
  unfold readUnsigned at read
  simp only [Bool.or_eq_true, decide_eq_true_eq] at read
  split at read
  next infinite =>
    rcases infinite with same | same
    · exact neutral_of_name same (by decide)
    · exact neutral_of_name same (by decide)
  next =>
    split at read
    next same => exact neutral_of_name same (by decide)
    next => exact neutral_of_readDecimal read

theorem neutral_of_read? {cs : List Char} {x : Binary64} (read : read? cs = some x) :
    ∀ c ∈ cs, Neutral c := by
  unfold read? at read
  split at read
  · exact List.forall_mem_cons.mpr ⟨by decide, neutral_of_readUnsigned read⟩
  · exact List.forall_mem_cons.mpr ⟨by decide, neutral_of_readUnsigned read⟩
  · exact neutral_of_readUnsigned read

theorem takeWhile_eq_self (p : Char → Bool) {cs : List Char} (all : ∀ c ∈ cs, p c = true) :
    cs.takeWhile p = cs ∧ cs.dropWhile p = [] := by
  have taken : (cs ++ []).takeWhile p = cs ++ [].takeWhile p := List.takeWhile_append_of_pos all
  have dropped : (cs ++ []).dropWhile p = [].dropWhile p := List.dropWhile_append_of_pos all
  simp only [List.append_nil, List.takeWhile_nil, List.dropWhile_nil] at taken dropped
  exact ⟨taken, dropped⟩

theorem readUnsigned_isSome {cs : List Char} {n : Nat} (decimal : Decimal cs n) (negative : Bool) :
    (readUnsigned negative cs).isSome := by
  have other {c d : Char} (member : c ∈ cs) (notDigit : d.isDigit = false) : c ≠ d := by
    rintro rfl
    exact absurd (decimal.digits c member) (by simp [notDigit])
  obtain ⟨mantissa, power⟩ := takeWhile_eq_self (fun c => !isExponentMark c)
    fun c (member : c ∈ cs) => by simp [isExponentMark, other member]
  obtain ⟨whole, fraction⟩ := takeWhile_eq_self (· ≠ '.')
    fun c (member : c ∈ cs) => by simp [other member]
  have read := readDigits_eq_some_iff.mpr decimal
  unfold readUnsigned
  dsimp only
  split
  · rfl
  · split
    · rfl
    · unfold readDecimal
      simp only [mantissa, power, whole, fraction, List.drop_nil, List.append_nil, read]
      rfl

theorem read?_isSome {cs : List Char} {n : Nat} (numeral : Numeral cs n) : (read? cs).isSome := by
  cases numeral with
  | plain decimal =>
    unfold read?
    split
    next => exact absurd (decimal.digits '-' List.mem_cons_self) (by decide)
    next => exact absurd (decimal.digits '+' List.mem_cons_self) (by decide)
    next => exact readUnsigned_isSome decimal false
  | signed decimal => exact readUnsigned_isSome decimal false

end Bayeux.Binary64
