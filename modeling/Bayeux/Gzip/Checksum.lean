import Bayeux.Prelude

set_option autoImplicit false

namespace Bayeux.Gzip

def polynomial : UInt32 := 0xEDB88320

def divideByte : (steps : Nat) → UInt32 → UInt32
  | 0, r => r
  | steps + 1, r => divideByte steps (if r &&& 1 = 1 then (r >>> 1) ^^^ polynomial else r >>> 1)

-- The remainder of every byte, so that a checksum takes one step a byte.
def remainders : Array UInt32 := (Array.range 256).map fun n => divideByte 8 (UInt32.ofNat n)

def checksumStep (r : UInt32) (byte : UInt8) : UInt32 :=
  remainders.getD ((r ^^^ byte.toUInt32) &&& 0xFF).toNat 0 ^^^ (r >>> 8)

/-- CRC-32 with the reflected polynomial. -/
def crc32 (bytes : List UInt8) : UInt32 :=
  bytes.foldl checksumStep 0xFFFFFFFF ^^^ 0xFFFFFFFF

def littleEndian : (size : Nat) → Nat → List UInt8
  | 0, _ => []
  | size + 1, n => UInt8.ofNat n :: littleEndian size (n / 256)

def ofLittleEndian : List UInt8 → Nat
  | [] => 0
  | byte :: rest => byte.toNat + 256 * ofLittleEndian rest

@[simp] theorem length_littleEndian (size n : Nat) : (littleEndian size n).length = size := by
  induction size generalizing n with
  | zero => rfl
  | succ size ih => simp [littleEndian, ih]

end Bayeux.Gzip
