import Bayeux.Binary64.Basic
import Bayeux.Table

set_option autoImplicit false

namespace Bayeux

inductive Number where
  | int (n : Int)
  | float (x : Binary64)
  deriving DecidableEq

/-- A JSON value. The members of an object are kept in the order of their names. -/
inductive Json where
  | null
  | bool (b : Bool)
  | number (n : Number)
  | string (s : String)
  | array (items : List Json)
  | object (members : List (String × Json))
  deriving Inhabited

abbrev JsonMap := Table Json

namespace Number

-- The whole numbers that are kept as such: 64 bits, with or without a sign.
def InRange : Number → Prop
  | .int n => -(2 ^ 63 : Int) ≤ n ∧ n < 2 ^ 64
  | .float _ => True

def same : Number → Number → Bool
  | .int a, .int b => a = b
  | .float a, .float b => a.same b
  | _, _ => false

end Number

namespace Json

def isNull : Json → Bool
  | .null => true
  | _ => false

def isObject : Json → Bool
  | .object _ => true
  | _ => false

def string? : Json → Option String
  | .string s => some s
  | _ => none

def members? : Json → Option JsonMap
  | .object members => some members
  | _ => none

mutual

-- Equality of values; the zeros of either sign are the same number.
def same : Json → Json → Bool
  | .null, .null => true
  | .bool a, .bool b => a == b
  | .number a, .number b => a.same b
  | .string a, .string b => a == b
  | .array a, .array b => sameItems a b
  | .object a, .object b => sameMembers a b
  | _, _ => false

def sameItems : List Json → List Json → Bool
  | [], [] => true
  | a :: as, b :: bs => same a b && sameItems as bs
  | _, _ => false

def sameMembers : List (String × Json) → List (String × Json) → Bool
  | [], [] => true
  | (k, a) :: as, (l, b) :: bs => k == l && same a b && sameMembers as bs
  | _, _ => false

end

mutual

-- How many containers stand inside each other: none for a scalar, one for `[]`.
def depth : Json → Nat
  | .array items => itemsDepth items + 1
  | .object members => membersDepth members + 1
  | _ => 0

def itemsDepth : List Json → Nat
  | [] => 0
  | v :: rest => max (depth v) (itemsDepth rest)

def membersDepth : List (String × Json) → Nat
  | [] => 0
  | (_, v) :: rest => max (depth v) (membersDepth rest)

end

end Json

end Bayeux
