import Bayeux.Binary64.Basic

set_option autoImplicit false

namespace Bayeux.Binary64

/-- `digits` with the point after the first of them, times ten to the `exponent`. -/
structure Scientific where
  digits : List Char
  exponent : Int
  deriving DecidableEq

-- `num / den` is at least ten to the `exponent`.
def reaches (num den : Nat) (exponent : Int) : Bool :=
  if 0 ≤ exponent then den * 10 ^ exponent.toNat ≤ num else den ≤ num * 10 ^ (-exponent).toNat

-- The exponent of the largest power of ten that is at most `num / den`.
def decimalExponent (num den : Nat) : Int :=
  let guess := (((num.log2 : Int) - (den.log2 : Int)) * 30103).fdiv 100000
  if !reaches num den guess then guess - 1
  else if reaches num den (guess + 1) then guess + 1
  else guess

/-- The reals that round to a double: `low / den` to `high / den` around `mid / den`. -/
structure Interval where
  low : Nat
  mid : Nat
  high : Nat
  den : Nat
  closed : Bool

def interval (x : Binary64) : Interval :=
  let m := x.significand
  let unit := 2 ^ x.scale
  let below := if m = 2 ^ 52 && 1 < x.scale then 1 else 2
  { low := (4 * m - below) * unit
    mid := 4 * m * unit
    high := (4 * m + 2) * unit
    den := 2 ^ 1077
    closed := m % 2 = 0 }

def Interval.contains (i : Interval) (num den : Nat) : Bool :=
  let scaled := num * i.den
  if i.closed then i.low * den ≤ scaled && scaled ≤ i.high * den
  else i.low * den < scaled && scaled < i.high * den

-- The two points of the grid of `10 ^ spacing` next to the middle, the nearer first.
def Interval.onGrid (i : Interval) (spacing : Int) : Option Nat :=
  let up := 10 ^ spacing.toNat
  let down := 10 ^ (-spacing).toNat
  let num := i.mid * down
  let den := i.den * up
  let floor := num / den
  let nearer := if 2 * (num % den) < den then [floor, floor + 1] else [floor + 1, floor]
  nearer.find? fun n => i.contains (n * up) down

-- Tries `count` digits, then one more, until a point of the grid rounds back.
def shortestFrom (i : Interval) (exponent : Int) : (tries count : Nat) → Nat × Int
  | 0, count => (i.mid / i.den, exponent - count)
  | tries + 1, count =>
    let spacing := exponent + 1 - count
    match i.onGrid spacing with
    | some n => (n, spacing)
    | none => shortestFrom i exponent tries (count + 1)

/-- The fewest digits that read back as `x`, of those the nearest; for finite `x` other than zero. -/
def shortest (x : Binary64) : Scientific :=
  let i := x.interval
  let (n, spacing) := shortestFrom i (decimalExponent i.mid i.den) 17 1
  let digits := Nat.toDigits 10 n
  let kept := (digits.reverse.dropWhile (· = '0')).reverse
  { digits := kept
    exponent := spacing + (digits.length : Int) - 1 }

end Bayeux.Binary64
