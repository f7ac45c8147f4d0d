import Bayeux.Proofs.Json.RoundTrip

set_option autoImplicit false

namespace Bayeux

namespace Json

theorem absorb_fits {digits : List Char} (n : Nat) (fits : Nat.ofDigitChars 10 digits n < 2 ^ 64) :
    absorb n digits = (Nat.ofDigitChars 10 digits n, []) := by
  induction digits generalizing n with
  | nil => simp [absorb]
  | cons c digits ih =>
    rw [Nat.ofDigitChars_cons] at fits ⊢
    have grows := @Nat.ofDigitChars_eq_ofDigitChars_zero digits (10 * n + (c.toNat - '0'.toNat))
    have power : 0 < 10 ^ digits.length := Nat.pow_pos (by decide)
    have next : 10 * n + digitValue c < 2 ^ 64 := by
      have scaled := Nat.le_mul_of_pos_left (10 * n + (c.toNat - '0'.toNat)) power
      unfold digitValue
      omega
    rw [absorb, if_pos next]
    exact ih _ fits

theorem readNumber_toDigits (negative : Bool) {n : Nat} (fits : n < 2 ^ 64) :
    readNumber negative (Nat.toDigits 10 n) = .ok (wholeNumber negative n, []) := by
  have whole := whole_toDigits n
  have alone := List.takeWhile_nil (p := Char.isDigit)
  have taken := takeWhile_digits whole.all alone
  have dropped := dropWhile_digits whole.all alone
  rw [List.append_nil] at taken dropped
  have absorbed := @absorb_fits (Nat.toDigits 10 n) 0 (by rwa [Nat.ofDigitChars_ten_toDigits])
  rw [Nat.ofDigitChars_ten_toDigits] at absorbed
  simp only [readNumber, taken, dropped, absorbed]
  split
  next none => exact absurd none whole.present
  next zero => exact absurd zero (whole.leading _ _)
  next => rfl

theorem readValue_int (n : Int) (fuel room : Nat) :
    readValue (fuel + 1) room (Number.int n).chars =
      (readNumber (n < 0) (Nat.toDigits 10 n.natAbs)).map fun found => (.number found.1, found.2) := by
  by_cases negative : n < 0
  · simp only [Number.chars, negative, if_true, readValue_minus, decide_true]
  · have whole := whole_toDigits n.natAbs
    obtain ⟨c, rest, start⟩ := List.exists_cons_of_ne_nil whole.present
    have digit : c.isDigit := whole.all c (by simp [start])
    simp only [Number.chars, negative, if_false, decide_false, start, readValue_digit digit]

theorem wholeNumber_int {n : Int} (inRange : (Number.int n).InRange) :
    wholeNumber (n < 0) n.natAbs = .int n := by
  obtain ⟨low, high⟩ := inRange
  unfold wholeNumber
  by_cases negative : n < 0
  · have small : ¬ (n.natAbs = 0 || 2 ^ 63 < n.natAbs) := by
      simp only [Bool.or_eq_true, decide_eq_true_eq]
      omega
    have same : -(n.natAbs : Int) = n := by omega
    rw [decide_eq_true negative, if_neg (by decide), if_neg small, same]
  · have same : (n.natAbs : Int) = n := by omega
    simp [negative, same]

end Json

open Json

theorem Number.reread_int {n : Int} (inRange : (Number.int n).InRange) :
    (Number.int n).reread = some (.int n) := by
  have fits : n.natAbs < 2 ^ 64 := by
    obtain ⟨low, high⟩ := inRange
    omega
  have read := readValue_int n (2 * (Number.int n).chars.length) maxDepth
  rw [readNumber_toDigits _ fits, wholeNumber_int inRange] at read
  simp [Number.reread, parse, readText_eq, Number.text, read, Except.map, Except.bind, readEnd,
    skipSpace, mapError_ok]

def Number.IsInteger : Number → Prop
  | .int n => (Number.int n).InRange
  | .float _ => False

theorem Number.IsInteger.reread {n : Number} (whole : n.IsInteger) : n.reread = some n := by
  cases n with
  | int n => exact reread_int whole
  | float x => exact absurd whole id

namespace Json

mutual

theorem Holds.reread {p : Number → Prop} (stable : ∀ n, p n → n.reread = some n) (v : Json)
    (all : Holds p v) : v.reread = some v := by
  match v with
  | .null | .bool _ | .string _ => rfl
  | .number n => simp [Json.reread, stable n all]
  | .array items => simp [Json.reread, all.rereadItems stable items]
  | .object members => simp [Json.reread, all.2.rereadMembers stable members]

theorem ItemsHold.rereadItems {p : Number → Prop} (stable : ∀ n, p n → n.reread = some n)
    (items : List Json) (all : ItemsHold p items) : rereadItems items = some items := by
  match items with
  | [] => rfl
  | v :: items => simp [Json.rereadItems, all.1.reread stable v, all.2.rereadItems stable items]

theorem MembersHold.rereadMembers {p : Number → Prop} (stable : ∀ n, p n → n.reread = some n)
    (members : List (String × Json)) (all : MembersHold p members) :
    rereadMembers members = some members := by
  match members with
  | [] => rfl
  | (key, v) :: members =>
    simp [Json.rereadMembers, all.1.reread stable v, all.2.rereadMembers stable members]

end

end Json

end Bayeux
