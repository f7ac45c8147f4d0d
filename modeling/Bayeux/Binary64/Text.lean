import Bayeux.Binary64.Shortest

set_option autoImplicit false

namespace Bayeux.Binary64

-- Digits with a point, without an exponent; `fraction` stands for an empty fraction.
def positional (s : Scientific) (fraction : List Char) : List Char :=
  match s.exponent with
  | .negSucc k => '0' :: '.' :: (List.replicate k '0' ++ s.digits)
  | .ofNat k =>
    let whole := s.digits.take (k + 1)
    let rest := s.digits.drop (k + 1)
    whole ++ List.replicate (k + 1 - whole.length) '0' ++
      (if rest.isEmpty then fraction else '.' :: rest)

def exponential (s : Scientific) : List Char :=
  let mantissa := match s.digits with
    | [] => []
    | [d] => [d]
    | d :: rest => d :: '.' :: rest
  let sign := if s.exponent < 0 then '-' else '+'
  mantissa ++ 'e' :: sign :: Nat.toDigits 10 s.exponent.natAbs

def signed (x : Binary64) (cs : List Char) : List Char :=
  if x.isNegative then '-' :: cs else cs

-- As JSON writes it: positional for exponents from -5 to 15, with at least one decimal.
def jsonChars (x : Binary64) : List Char :=
  signed x <|
    if x.isZero then ['0', '.', '0']
    else
      let s := x.shortest
      if -5 ≤ s.exponent && s.exponent ≤ 15 then positional s ['.', '0'] else exponential s

def plainChars (x : Binary64) : List Char :=
  if x.isNaN then "NaN".toList
  else signed x <|
    if !x.isFinite then "inf".toList
    else if x.isZero then ['0']
    else positional x.shortest []

end Bayeux.Binary64
