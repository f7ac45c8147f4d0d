import Bayeux.Json.Parser
import Bayeux.Json.Printer

set_option autoImplicit false

namespace Bayeux.Json

theorem hexValue?_hexDigit (n : Nat) : Text.hexValue? (hexDigit n) = some (n % 16) := by
  have all : ∀ d < 16, Text.hexValue? (Nat.digitChar d) = some d := by decide
  exact all (n % 16) (Nat.mod_lt n (by decide))

theorem readString_plain {c : Char} (quote : c ≠ '"') (backslash : c ≠ '\\')
    (printable : ¬ c.toNat < 0x20) (done rest : List Char) :
    readString done (c :: rest) = readString (c :: done) rest := by
  rw [readString]
  · rw [if_neg printable]
  all_goals simp_all

theorem readString_hexEscape {c : Char} (control : c.toNat < 0x20) (done rest : List Char) :
    readString done ('\\' :: 'u' :: '0' :: '0' :: hexDigit (c.toNat / 16) :: hexDigit c.toNat :: rest) =
      readString (c :: done) rest := by
  have zero : Text.hexValue? '0' = some 0 := by decide
  have code : hexValue4? '0' '0' (hexDigit (c.toNat / 16)) (hexDigit c.toNat) = some c.toNat := by
    simp only [hexValue4?, hexValue?_hexDigit, zero, Option.bind_eq_bind, Option.bind_some,
      Option.pure_def, Option.some.injEq]
    omega
  have notLow : (0xDC00 ≤ c.toNat && c.toNat ≤ 0xDFFF) = false := by
    simp only [Bool.and_eq_false_iff, decide_eq_false_iff_not]
    omega
  have notHigh : (c.toNat < 0xD800 || 0xDBFF < c.toNat) = true := by
    simp only [Bool.or_eq_true, decide_eq_true_eq]
    omega
  simp only [readString, code, notLow, notHigh, Bool.false_eq_true, if_false, if_true,
    Char.ofNat_toNat]

theorem readString_escapeChar (c : Char) (done rest : List Char) :
    readString done (escapeChar c ++ rest) = readString (c :: done) rest := by
  by_cases quote : c = '"'
  · subst quote
    simp [escapeChar, readString, simpleEscape?]
  by_cases backslash : c = '\\'
  · subst backslash
    simp [escapeChar, readString, simpleEscape?]
  by_cases control : c.toNat < 0x20
  · simp only [escapeChar, quote, backslash, control, if_true, if_false]
    split
    case h_6 => exact readString_hexEscape control done rest
    all_goals
      rename_i code
      have same := Char.ofNat_toNat c
      rw [code] at same
      subst same
      rfl
  · simp only [escapeChar, quote, backslash, control, if_false]
    exact readString_plain quote backslash control done rest

theorem readString_flatMap (cs done rest : List Char) :
    readString done (cs.flatMap escapeChar ++ '"' :: rest) =
      .ok (String.ofList (done.reverse ++ cs), rest) := by
  induction cs generalizing done with
  | nil => simp [readString]
  | cons c cs ih =>
    rw [List.flatMap_cons, List.append_assoc, readString_escapeChar, ih]
    simp

theorem readString_stringChars (s : String) (rest : List Char) :
    readString [] (s.toList.flatMap escapeChar ++ '"' :: rest) = .ok (s, rest) := by
  simp [readString_flatMap]

end Bayeux.Json
