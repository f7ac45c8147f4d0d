import Bayeux.Binary64.Basic
import Bayeux.Text.Basic

set_option autoImplicit false

namespace Bayeux.Toml

def plainDigits (isDigit : Char → Bool) : List Char → Option (List Char)
  | [] => none
  | [c] => if isDigit c then some [c] else none
  | c :: '_' :: rest => if isDigit c then (plainDigits isDigit rest).map (c :: ·) else none
  | c :: rest => if isDigit c then (plainDigits isDigit rest).map (c :: ·) else none

def takeSign : List Char → Bool × List Char
  | '-' :: rest => (true, rest)
  | '+' :: rest => (false, rest)
  | s => (false, s)

def noLeadingZero (digits : List Char) : Bool := digits.length = 1 || digits.head? ≠ some '0'

def readDecimal (s : List Char) : Option (List Char) := do
  let digits ← plainDigits Char.isDigit s
  guard (noLeadingZero digits)
  return digits

-- Digits of a base, each below it.
def readBase (base : Nat) (s : List Char) : Option Int := do
  let digits ← plainDigits (fun c => (Text.hexValue? c).any (· < base)) s
  return (digits.foldl (fun n c => base * n + (Text.hexValue? c).getD 0) 0 : Nat)

def readWhole (s : List Char) : Option Int :=
  match s with
  | '0' :: 'x' :: rest => readBase 16 rest
  | '0' :: 'o' :: rest => readBase 8 rest
  | '0' :: 'b' :: rest => readBase 2 rest
  | _ => do
    let (negative, s) := takeSign s
    let n : Nat := Nat.ofDigitChars 10 (← readDecimal s) 0
    return if negative then -(n : Int) else n

def readInteger (s : List Char) : Option Int :=
  (readWhole s).filter fun n => -2 ^ 63 ≤ n && n < 2 ^ 63

def isExponentMark (c : Char) : Bool := c = 'e' || c = 'E'

def readExponent (s : List Char) : Option Int := do
  let (negative, s) := takeSign s
  let n : Nat := Nat.ofDigitChars 10 (← plainDigits Char.isDigit s) 0
  return if negative then -(n : Int) else n

def readDecimalFloat (negative : Bool) (s : List Char) : Option Binary64 := do
  let mantissa := s.takeWhile fun c => !isExponentMark c
  let tail := s.dropWhile fun c => !isExponentMark c
  let whole ← readDecimal (mantissa.takeWhile (· ≠ '.'))
  let fraction ←
    match mantissa.dropWhile (· ≠ '.') with
    | [] => some []
    | _ :: digits => plainDigits Char.isDigit digits
  let exponent ←
    match tail with
    | [] => some 0
    | _ :: digits => readExponent digits
  guard (!fraction.isEmpty || !tail.isEmpty)
  let digits := Nat.ofDigitChars 10 (whole ++ fraction) 0
  let x := Binary64.ofDecimal negative digits (exponent - fraction.length)
  guard x.isFinite
  return x

def readFloat (s : List Char) : Option Binary64 :=
  let (negative, s) := takeSign s
  match s with
  | ['i', 'n', 'f'] => some (.infinity negative)
  | ['n', 'a', 'n'] => some .nan
  | _ => readDecimalFloat negative s

end Bayeux.Toml
