import Bayeux.Prelude

set_option autoImplicit false

namespace Bayeux

/-- A double precision number, by its bits. A finite one is `significand * 2 ^ scale / 2 ^ 1075`. -/
structure Binary64 where
  bits : UInt64
  deriving DecidableEq

namespace Binary64

def isNegative (x : Binary64) : Bool := 2 ^ 63 ≤ x.bits.toNat

def magnitudeBits (x : Binary64) : Nat := x.bits.toNat % 2 ^ 63

def exponentField (x : Binary64) : Nat := x.magnitudeBits / 2 ^ 52

def scale (x : Binary64) : Nat := max 1 x.exponentField

def significand (x : Binary64) : Nat :=
  if x.exponentField = 0 then x.magnitudeBits else 2 ^ 52 + x.magnitudeBits % 2 ^ 52

def isZero (x : Binary64) : Bool := x.magnitudeBits = 0

def isFinite (x : Binary64) : Bool := x.exponentField < 2047

def isNaN (x : Binary64) : Bool := x.exponentField = 2047 && x.magnitudeBits % 2 ^ 52 != 0

def infinityBits : Nat := 2047 * 2 ^ 52

def ofMagnitude (negative : Bool) (magnitude : Nat) : Binary64 :=
  ⟨UInt64.ofNat ((if negative then 2 ^ 63 else 0) + min magnitude infinityBits)⟩

def zero (negative : Bool) : Binary64 := ofMagnitude negative 0

def infinity (negative : Bool) : Binary64 := ofMagnitude negative infinityBits

def nan : Binary64 := ⟨0x7FF8000000000000⟩

def neg (x : Binary64) : Binary64 := ⟨x.bits ^^^ 0x8000000000000000⟩

def roundHalfEven (num den : Nat) : Nat :=
  let down := num / den
  let twice := 2 * (num % den)
  if twice < den || (twice = den && down % 2 = 0) then down else down + 1

-- The scale at which `num / den` has 53 significant bits, and never one below the subnormals.
def scaleFor (num den : Nat) : Nat :=
  let shift := 1023 + num.log2 - den.log2
  let tooHigh :=
    if den.log2 ≤ num.log2 then num < den * 2 ^ (num.log2 - den.log2)
    else num * 2 ^ (den.log2 - num.log2) < den
  max 1 (if tooHigh then shift - 1 else shift)

/-- The double nearest to `num / den`, a half to the even neighbour, infinite beyond the largest. -/
def ofRatio (negative : Bool) (num den : Nat) : Binary64 :=
  if num = 0 then zero negative
  else
    let scale := scaleFor num den
    let rounded :=
      if scale ≤ 1075 then roundHalfEven (num * 2 ^ (1075 - scale)) den
      else roundHalfEven num (den * 2 ^ (scale - 1075))
    ofMagnitude negative ((scale - 1) * 2 ^ 52 + rounded)

def ofNat (n : Nat) : Binary64 := ofRatio false n 1

def mul (x y : Binary64) : Binary64 :=
  ofRatio (x.isNegative != y.isNegative)
    (x.significand * y.significand * 2 ^ (x.scale + y.scale)) (2 ^ 2150)

-- For a divisor other than zero.
def div (x y : Binary64) : Binary64 :=
  ofRatio (x.isNegative != y.isNegative)
    (x.significand * 2 ^ x.scale) (y.significand * 2 ^ y.scale)

-- Equality as numbers: zero has one value with two signs, and a NaN equals nothing.
def same (x y : Binary64) : Bool :=
  !x.isNaN && !y.isNaN && (x.bits = y.bits || (x.isZero && y.isZero))

def powerOfTen (k : Nat) : Binary64 := ofNat (10 ^ k)

def ofDecimal (negative : Bool) (digits : Nat) (exponent : Int) : Binary64 :=
  if digits = 0 then zero negative
  -- Beyond these bounds every value rounds to infinity or to zero.
  else if 400 < exponent then infinity negative
  else if exponent + (Nat.log2 digits : Int) < -1200 then zero negative
  else if 0 ≤ exponent then ofRatio negative (digits * 10 ^ exponent.toNat) 1
  else ofRatio negative digits (10 ^ (-exponent).toNat)

end Binary64

end Bayeux
