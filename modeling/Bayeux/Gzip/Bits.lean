import Bayeux.Prelude

set_option autoImplicit false

namespace Bayeux.Gzip

def byteBits (byte : UInt8) : List Bool :=
  let n := byte.toNat
  [n.testBit 0, n.testBit 1, n.testBit 2, n.testBit 3,
    n.testBit 4, n.testBit 5, n.testBit 6, n.testBit 7]

def bitsOf (bytes : List UInt8) : List Bool := bytes.flatMap byteBits

def bitsToNat : List Bool → Nat
  | [] => 0
  | bit :: rest => bit.toNat + 2 * bitsToNat rest

def natToBits : (size : Nat) → Nat → List Bool
  | 0, _ => []
  | size + 1, n => (n % 2 = 1) :: natToBits size (n / 2)

-- Appends bits to whole bytes; zeros fill the last one.
def packInto (done : Array UInt8) : List Bool → Array UInt8
  | [] => done
  | a :: b :: c :: d :: e :: f :: g :: h :: rest =>
    packInto (done.push (UInt8.ofNat (bitsToNat [a, b, c, d, e, f, g, h]))) rest
  | short => done.push (UInt8.ofNat (bitsToNat short))

-- Takes `size` bits as a number, the lowest first.
def readBits : (size : Nat) → List Bool → Option (Nat × List Bool)
  | 0, bits => some (0, bits)
  | _ + 1, [] => none
  | size + 1, bit :: rest => do
    let (n, rest) ← readBits size rest
    return (bit.toNat + 2 * n, rest)

theorem toNat_odd (n : Nat) : (decide (n % 2 = 1)).toNat = n % 2 := by
  rcases Nat.mod_two_eq_zero_or_one n with h | h <;> simp [h]

theorem readBits_natToBits (size n : Nat) (rest : List Bool) :
    readBits size (natToBits size n ++ rest) = some (n % 2 ^ size, rest) := by
  induction size generalizing n with
  | zero => simp [natToBits, readBits, Nat.mod_one]
  | succ size ih =>
    simp only [natToBits, List.cons_append, readBits, ih, Option.bind_eq_bind, Option.bind_some,
      Option.pure_def, toNat_odd]
    rw [Nat.pow_succ', Nat.mod_mul]

end Bayeux.Gzip
