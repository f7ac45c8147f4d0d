import Bayeux.Binary64.Basic
import Bayeux.Text.Basic

set_option autoImplicit false

namespace Bayeux.Binary64

def isExponentMark (c : Char) : Bool := c = 'e' || c = 'E'

def readExponent (s : List Char) : Option Int :=
  match s with
  | '-' :: rest => (Text.readDigits rest).map fun n => -(n : Int)
  | '+' :: rest => (Text.readDigits rest).map fun n => (n : Int)
  | _ => (Text.readDigits s).map fun n => (n : Int)

-- Digits with or without a point, which may stand before or after all of them, and an exponent.
def readDecimal (negative : Bool) (s : List Char) : Option Binary64 := do
  let mantissa := s.takeWhile fun c => !isExponentMark c
  let whole := mantissa.takeWhile (· ≠ '.')
  let fraction := (mantissa.dropWhile (· ≠ '.')).drop 1
  let digits ← Text.readDigits (whole ++ fraction)
  let exponent ←
    match s.dropWhile fun c => !isExponentMark c with
    | [] => some 0
    | _ :: digits => readExponent digits
  return ofDecimal negative digits (exponent - fraction.length)

def readUnsigned (negative : Bool) (s : List Char) : Option Binary64 :=
  let name := String.ofList (s.map Char.toLower)
  if name = "inf" || name = "infinity" then some (infinity negative)
  else if name = "nan" then some nan
  else readDecimal negative s

def read? (s : List Char) : Option Binary64 :=
  match s with
  | '-' :: rest => readUnsigned true rest
  | '+' :: rest => readUnsigned false rest
  | _ => readUnsigned false s

end Bayeux.Binary64
