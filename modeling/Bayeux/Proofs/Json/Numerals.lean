import Bayeux.Json.Printer
import Bayeux.Json.Scalar
import Bayeux.Proofs.Binary64.Shortest

set_option autoImplicit false

namespace Bayeux

namespace Json

def Digits (cs : List Char) : Prop := ∀ c ∈ cs, c.isDigit

-- What may follow a value: nothing, a comma or the end of a container.
inductive Separate : List Char → Prop where
  | nothing : Separate []
  | comma (rest : List Char) : Separate (',' :: rest)
  | endOfList (rest : List Char) : Separate (']' :: rest)
  | endOfObject (rest : List Char) : Separate ('}' :: rest)

def ReadsNumber (n : Option Number) (rest : List Char) :
    Except Fault (Number × List Char) → Prop
  | .ok (found, after) => n = some found ∧ after = rest
  | .error fault => n = none ∧ fault.cause = .numberOutOfRange

-- What follows the text does not change what is read of it.
def Closed (read : List Char → Except Fault (Number × List Char)) (s : List Char) : Prop :=
  ∀ rest, Separate rest → ReadsNumber ((read s).toOption.map (·.1)) rest (read (s ++ rest))

theorem Separate.noDigit {rest : List Char} (separate : Separate rest) :
    rest.takeWhile Char.isDigit = [] := by
  cases separate <;> rfl

section Digits

variable {digits rest : List Char} (all : Digits digits)
  (apart : rest.takeWhile Char.isDigit = [])

include all apart

theorem takeWhile_digits : (digits ++ rest).takeWhile Char.isDigit = digits := by
  rw [List.takeWhile_append_of_pos all, apart, List.append_nil]

theorem dropWhile_digits : (digits ++ rest).dropWhile Char.isDigit = rest := by
  have whole := List.takeWhile_append_dropWhile (p := Char.isDigit) (l := digits ++ rest)
  rw [takeWhile_digits all apart] at whole
  exact List.append_cancel_left whole

end Digits

theorem finishFloat_closed (negative : Bool) (significand : Nat) (exponent : Int) :
    Closed (finishFloat negative significand exponent) [] := by
  intro rest _
  unfold finishFloat
  cases approximate significand exponent <;> simp [ReadsNumber, Except.toOption, Fault.here]

theorem readExponentDigits_cases {digits rest : List Char} (all : Digits digits)
    (separate : Separate rest) (value : Nat) :
    (∃ e, readExponentDigits value digits = .fits e [] ∧
      readExponentDigits value (digits ++ rest) = .fits e rest) ∨
    ∃ left, Digits left ∧ readExponentDigits value digits = .tooLong left ∧
      readExponentDigits value (digits ++ rest) = .tooLong (left ++ rest) := by
  induction digits generalizing value with
  | nil =>
    refine .inl ⟨value, rfl, ?_⟩
    cases separate <;> rfl
  | cons c digits ih =>
    have here : c.isDigit := all c (by simp)
    have later : Digits digits := fun d member => all d (by simp [member])
    simp only [List.cons_append, readExponentDigits, here, if_true]
    split
    · exact ih later _
    · exact .inr ⟨digits, later, rfl, rfl⟩

def signOf (down : Bool) : Char := if down then '-' else '+'

section Exponent

variable (negative : Bool) (significand : Nat) (start : Int) (down : Bool) {s rest : List Char}
  (first : ∃ c more, s = c :: more ∧ c.isDigit)

include first

theorem readExponent_fits {e : Nat} (fits : readExponentDigits 0 s = .fits e rest) :
    readExponent negative significand start (signOf down :: s) =
      finishFloat negative significand (if down then start - e else start + e) rest := by
  obtain ⟨c, more, rfl, digit⟩ := first
  cases down <;> simp [readExponent, signOf, digit, fits]

theorem readExponent_tooLong (tooLong : readExponentDigits 0 s = .tooLong rest) :
    readExponent negative significand start (signOf down :: s) =
      if significand ≠ 0 && !down then .error (.here .numberOutOfRange rest)
      else .ok (.float (Binary64.zero negative), rest.dropWhile Char.isDigit) := by
  obtain ⟨c, more, rfl, digit⟩ := first
  cases down <;> simp [readExponent, signOf, digit, tooLong]

end Exponent

theorem readExponent_closed (negative : Bool) (significand : Nat) (start : Int) (down : Bool)
    {digits : List Char} (present : digits ≠ []) (all : Digits digits) :
    Closed (readExponent negative significand start) (signOf down :: digits) := by
  intro rest separate
  obtain ⟨c, more, rfl⟩ := List.exists_cons_of_ne_nil present
  have digit : c.isDigit := all c (by simp)
  have first : ∃ d tail, c :: more = d :: tail ∧ d.isDigit := ⟨c, more, rfl, digit⟩
  have first' : ∃ d tail, c :: more ++ rest = d :: tail ∧ d.isDigit := ⟨c, more ++ rest, rfl, digit⟩
  rcases readExponentDigits_cases all separate 0 with
    ⟨e, alone, followed⟩ | ⟨left, digits, alone, followed⟩
  · rw [readExponent_fits _ _ _ _ first alone, List.cons_append,
      readExponent_fits _ _ _ _ first' followed]
    exact finishFloat_closed _ _ _ rest separate
  · rw [readExponent_tooLong _ _ _ _ first alone, List.cons_append,
      readExponent_tooLong _ _ _ _ first' followed]
    split
    · simp [ReadsNumber, Except.toOption, Fault.here]
    · have none : left.dropWhile Char.isDigit = [] := by
        simpa using dropWhile_digits digits (List.takeWhile_nil (p := Char.isDigit))
      simp [ReadsNumber, Except.toOption, none, dropWhile_digits digits separate.noDigit]

-- What may stand behind the digits of a number: nothing or an exponent.
inductive Power : List Char → Prop where
  | none : Power []
  | some (down : Bool) {digits : List Char} (present : digits ≠ []) (all : Digits digits) :
    Power ('e' :: signOf down :: digits)

theorem Power.noDigit {power rest : List Char} (shape : Power power) (separate : Separate rest) :
    (power ++ rest).takeWhile Char.isDigit = [] := by
  cases shape with
  | none => exact separate.noDigit
  | some => rfl

theorem readFraction_closed (negative : Bool) (significand : Nat) (start : Int)
    {digits power : List Char} (present : digits ≠ []) (all : Digits digits) (shape : Power power) :
    Closed (readFraction negative significand start) (digits ++ power) := by
  intro rest separate
  have someDigits : digits.isEmpty = false := by simpa using present
  have alone : power.takeWhile Char.isDigit = [] := by simpa using shape.noDigit .nothing
  have followed := shape.noDigit separate
  simp only [readFraction, List.append_assoc, takeWhile_digits all alone,
    dropWhile_digits all alone, takeWhile_digits all followed, dropWhile_digits all followed,
    someDigits, Bool.false_eq_true, if_false]
  cases shape with
  | none => cases separate <;> exact finishFloat_closed _ _ _ _ (by constructor)
  | some down present all => exact readExponent_closed _ _ _ _ present all rest separate

inductive Ending : List Char → Prop where
  | power {power : List Char} (shape : Power power) : Ending power
  | fraction {digits power : List Char} (present : digits ≠ []) (all : Digits digits)
    (shape : Power power) : Ending ('.' :: (digits ++ power))

theorem Ending.noDigit {ending rest : List Char} (shape : Ending ending) (separate : Separate rest) :
    (ending ++ rest).takeWhile Char.isDigit = [] := by
  cases shape with
  | power shape => exact shape.noDigit separate
  | fraction => rfl

-- The digits in front of a number: no zero comes before another digit.
structure Whole (digits : List Char) : Prop where
  present : digits ≠ []
  all : Digits digits
  leading : ∀ d more, digits ≠ '0' :: d :: more

theorem readNumber_closed (negative : Bool) {digits ending : List Char} (whole : Whole digits)
    (shape : Ending ending) : Closed (readNumber negative) (digits ++ ending) := by
  intro rest separate
  have alone : ending.takeWhile Char.isDigit = [] := by simpa using shape.noDigit .nothing
  have followed := shape.noDigit separate
  simp only [readNumber, List.append_assoc, takeWhile_digits whole.all alone,
    dropWhile_digits whole.all alone, takeWhile_digits whole.all followed,
    dropWhile_digits whole.all followed]
  split
  next => exact absurd rfl whole.present
  next => exact absurd rfl (whole.leading _ _)
  cases shape with
  | fraction present all shape =>
    exact readFraction_closed _ _ _ present all shape rest separate
  | power shape =>
    cases shape with
    | some down present all => exact readExponent_closed _ _ _ _ present all rest separate
    | none =>
      dsimp only [List.nil_append]
      by_cases absorbed : (absorb 0 digits).2.isEmpty = true
      · cases separate <;> simp [absorbed, ReadsNumber, Except.toOption]
      · simp only [absorbed, Bool.false_eq_true, if_false]
        cases separate <;> exact finishFloat_closed _ _ _ _ (by constructor)

open Binary64

theorem whole_zero : Whole ['0'] := ⟨by simp, by simp [Digits], by simp⟩

theorem whole_of_leading {digits zeros : List Char} (leading : Leading digits)
    (all : Digits zeros) : Whole (digits ++ zeros) := by
  obtain ⟨c, rest, rfl, notZero⟩ := leading.first
  refine ⟨by simp, fun d member => ?_, fun d more same => ?_⟩
  · exact (List.mem_append.mp member).elim (leading.all d) (all d)
  · exact notZero (List.cons.inj same).1

theorem digits_zeros (count : Nat) : Digits (List.replicate count '0') := by
  intro c member
  rw [List.eq_of_mem_replicate member]
  rfl

theorem whole_toDigits (n : Nat) : Whole (Nat.toDigits 10 n) := by
  by_cases zero : n = 0
  · subst zero
    exact whole_zero
  · simpa using whole_of_leading (leading_toDigits (Nat.pos_of_ne_zero zero)) (digits_zeros 0)

def IsNumeral (s : List Char) : Prop :=
  ∃ digits ending, Whole digits ∧ Ending ending ∧ s = digits ++ ending

theorem isNumeral_fraction {digits fraction : List Char} (whole : Whole digits)
    (present : fraction ≠ []) (all : Digits fraction) : IsNumeral (digits ++ '.' :: fraction) := by
  refine ⟨digits, _, whole, .fraction present all .none, ?_⟩
  simp

theorem positional_isNumeral {s : Scientific} (leading : Leading s.digits) :
    IsNumeral (positional s ['.', '0']) := by
  obtain ⟨c, more, digits, notZero⟩ := leading.first
  unfold positional
  split
  next k _ =>
    refine isNumeral_fraction whole_zero (by simp [digits]) fun d member => ?_
    exact (List.mem_append.mp member).elim (digits_zeros k d) (leading.all d)
  next k _ =>
    extract_lets whole rest
    have start : Leading whole :=
      ⟨fun d member => leading.all d (List.mem_of_mem_take member),
        c, more.take k, by simp [whole, digits], notZero⟩
    have front := whole_of_leading start (digits_zeros (k + 1 - whole.length))
    split
    · exact isNumeral_fraction front (by simp) (by simp [Digits])
    next present =>
      refine isNumeral_fraction front (by simpa using present) fun d member => ?_
      exact leading.all d (List.mem_of_mem_drop member)

theorem exponential_isNumeral {s : Scientific} (leading : Leading s.digits) :
    IsNumeral (exponential s) := by
  obtain ⟨c, more, digits, notZero⟩ := leading.first
  have all := leading.all
  have power : Power ('e' :: signOf (s.exponent < 0) :: Nat.toDigits 10 s.exponent.natAbs) :=
    .some _ Nat.toDigits_ne_nil fun c member =>
      Nat.isDigit_of_mem_toDigits (by decide) (by decide) member
  have digit : c.isDigit := all c (by simp [digits])
  have single : Whole [c] := ⟨by simp, by simpa [Digits] using digit, by simp⟩
  unfold exponential
  cases more with
  | nil =>
    refine ⟨[c], _, single, .power power, ?_⟩
    simp [digits, signOf]
  | cons d rest =>
    refine ⟨[c], _, single, .fraction (List.cons_ne_nil d rest) ?_ power, ?_⟩
    · exact fun e member => all e (by simp [digits, List.mem_cons.mp member])
    · simp [digits, signOf]

end Json

open Json Binary64

theorem Number.chars_shape (n : Number) : ∃ (negative : Bool) (s : List Char), IsNumeral s ∧
    n.chars = if negative then '-' :: s else s := by
  cases n with
  | int n =>
    refine ⟨decide (n < 0), _, ⟨_, [], whole_toDigits n.natAbs, .power .none, rfl⟩, ?_⟩
    simp [Number.chars]
  | float x =>
    refine ⟨x.isNegative, ?_⟩
    simp only [Number.chars, jsonChars, signed]
    by_cases zero : x.isZero = true
    · refine ⟨['0', '.', '0'], isNumeral_fraction whole_zero (by simp) (by simp [Digits]), ?_⟩
      simp [zero]
    · simp only [zero, Bool.false_eq_true, if_false]
      have leading := shortest_leading (x := x) (by simpa using zero)
      generalize x.shortest = s at leading ⊢
      refine ⟨_, ?_, rfl⟩
      split
      · exact positional_isNumeral leading
      · exact exponential_isNumeral leading

end Bayeux
