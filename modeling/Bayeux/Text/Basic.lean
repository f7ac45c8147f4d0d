import Bayeux.Prelude

set_option autoImplicit false

namespace Bayeux.Text

-- The characters with the Unicode property `White_Space`.
def isBlank (c : Char) : Bool :=
  let n := c.toNat
  (9 ≤ n && n ≤ 13) || n == 0x20 || n == 0x85 || n == 0xA0 || n == 0x1680 ||
    (0x2000 ≤ n && n ≤ 0x200A) || n == 0x2028 || n == 0x2029 || n == 0x202F ||
    n == 0x205F || n == 0x3000

def trim (cs : List Char) : List Char :=
  ((cs.dropWhile isBlank).reverse.dropWhile isBlank).reverse

def inRanges (ranges : List (Nat × Nat)) (n : Nat) : Bool :=
  ranges.any fun range => range.1 ≤ n && n ≤ range.2

def readDigits (cs : List Char) : Option Nat :=
  if cs.isEmpty then none
  else if cs.all Char.isDigit then some (Nat.ofDigitChars 10 cs 0)
  else none

-- An optional plus sign and digits, of a value that fits 64 bits.
def readWord (cs : List Char) : Option UInt64 :=
  let digits := match cs with
    | '+' :: rest => rest
    | _ => cs
  match readDigits digits with
  | some n => if n < 2 ^ 64 then some (UInt64.ofNat n) else none
  | none => none

-- An optional sign and digits, of a value that fits 64 bits with sign.
def readSigned (cs : List Char) : Option Int :=
  match cs with
  | '-' :: rest =>
    match readDigits rest with
    | some n => if n ≤ 2 ^ 63 then some (-(n : Int)) else none
    | none => none
  | _ =>
    let digits := match cs with
      | '+' :: rest => rest
      | _ => cs
    match readDigits digits with
    | some n => if n < 2 ^ 63 then some (n : Int) else none
    | none => none

def hexValue? (c : Char) : Option Nat :=
  if c.isDigit then some (c.toNat - '0'.toNat)
  else if 'a' ≤ c && c ≤ 'f' then some (c.toNat - 'a'.toNat + 10)
  else if 'A' ≤ c && c ≤ 'F' then some (c.toNat - 'A'.toNat + 10)
  else none

theorem readDigits_toDigits (n : Nat) : readDigits (Nat.toDigits 10 n) = some n := by
  have notEmpty : (Nat.toDigits 10 n).isEmpty = false := by
    simp [Nat.toDigits_ne_nil]
  have digits : (Nat.toDigits 10 n).all Char.isDigit = true := by
    rw [List.all_eq_true]
    intro c hc
    exact Nat.isDigit_of_mem_toDigits (by decide) (by decide) hc
  simp [readDigits, notEmpty, digits, Nat.ofDigitChars_ten_toDigits]

end Bayeux.Text
