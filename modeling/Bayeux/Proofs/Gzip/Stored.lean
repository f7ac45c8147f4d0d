import Bayeux.Proofs.Gzip.Container

set_option autoImplicit false

namespace Bayeux.Gzip

def storedBytes (data : List UInt8) : List UInt8 :=
  littleEndian 2 data.length ++ littleEndian 2 (0xFFFF - data.length) ++ data

def storedStream (data : List UInt8) : List UInt8 := 1 :: storedBytes data

def storedMember (data : List UInt8) : ByteArray :=
  headed (storedStream data ++ trailer data)

-- What is left of a byte behind the kind of the block in it.
def padding : List Bool := List.replicate 5 false

theorem byteBits_ofNat (n : Nat) : byteBits (UInt8.ofNat n) = natToBits 8 n := by
  simp only [byteBits, natToBits, Nat.testBit_eq_decide_div_mod_eq, UInt8.toNat_ofNat',
    List.cons.injEq, decide_eq_decide, and_true]
  omega

theorem natToBits_add (a b n : Nat) :
    natToBits (a + b) n = natToBits a n ++ natToBits b (n / 2 ^ a) := by
  induction a generalizing n with
  | zero => simp [natToBits]
  | succ a ih =>
    rw [Nat.succ_add, natToBits, natToBits, ih, Nat.div_div_eq_div_mul, Nat.pow_succ']
    rfl

theorem bitsOf_littleEndian (size n : Nat) :
    bitsOf (littleEndian size n) = natToBits (8 * size) n := by
  induction size generalizing n with
  | zero => rfl
  | succ size ih =>
    have first : bitsOf (littleEndian (size + 1) n) =
        byteBits (UInt8.ofNat n) ++ bitsOf (littleEndian size (n / 256)) := rfl
    rw [first, byteBits_ofNat, ih, Nat.mul_succ, Nat.add_comm, natToBits_add]

theorem readBits_littleEndian {n : Nat} (fits : n < 2 ^ 16) (rest : List Bool) :
    readBits 16 (bitsOf (littleEndian 2 n) ++ rest) = some (n, rest) := by
  rw [bitsOf_littleEndian, readBits_natToBits, Nat.mod_eq_of_lt fits]

theorem bitsToNat_natToBits (size n : Nat) : bitsToNat (natToBits size n) = n % 2 ^ size := by
  induction size generalizing n with
  | zero => simp [natToBits, bitsToNat, Nat.mod_one]
  | succ size ih =>
    rw [natToBits, bitsToNat, ih, toNat_odd, Nat.pow_succ', Nat.mod_mul]

theorem ofNat_bitsToNat_byteBits (byte : UInt8) : UInt8.ofNat (bitsToNat (byteBits byte)) = byte := by
  have bits : byteBits byte = natToBits 8 byte.toNat := by
    rw [← byteBits_ofNat, UInt8.ofNat_toNat]
  rw [bits, bitsToNat_natToBits, Nat.mod_eq_of_lt byte.toNat_lt, UInt8.ofNat_toNat]

theorem readStored_bitsOf (data : List UInt8) (out : Array UInt8) :
    readStored data.length out (bitsOf data) = some (out ++ data.toArray, []) := by
  induction data generalizing out with
  | nil => simp [readStored, bitsOf]
  | cons byte rest ih =>
    have step : readStored (byte :: rest).length out (bitsOf (byte :: rest)) =
        readStored rest.length (out.push (UInt8.ofNat (bitsToNat (byteBits byte)))) (bitsOf rest) :=
      rfl
    rw [step, ih, ofNat_bitsToNat_byteBits]
    simp

theorem inflateStored_padding {data : List UInt8} (fits : data.length < 2 ^ 16) :
    inflateStored #[] (padding ++ bitsOf (storedBytes data)) = some (data.toArray, []) := by
  have aligned : alignToByte (padding ++ bitsOf (storedBytes data)) = bitsOf (storedBytes data) := by
    rw [alignToByte_append _ _ (by simp)]
    rfl
  rw [inflateStored_eq, aligned, readSized, storedBytes, bitsOf_append, bitsOf_append,
    List.append_assoc, readBits_littleEndian fits]
  simp only [Option.bind_eq_bind, Option.bind_some]
  rw [readBits_littleEndian (by omega), Option.bind_some, if_pos (by omega), readStored_bitsOf]
  simp

theorem deflates_storedStream {data : List UInt8} (fits : data.length < 2 ^ 16) :
    Deflates (storedStream data) data.toArray := by
  have final : readBits 1 (bitsOf (storedStream data)) =
      some (1, false :: false :: (padding ++ bitsOf (storedBytes data))) := rfl
  have kind : readBits 2 (false :: false :: (padding ++ bitsOf (storedBytes data))) =
      some (0, padding ++ bitsOf (storedBytes data)) := rfl
  refine ⟨[], by simp, ?_⟩
  rw [inflate, inflateBlocks]
  simp only [final, kind, Option.bind_eq_bind, Option.bind_some, inflateStored_padding fits]
  rfl

theorem isMember_storedMember {data : List UInt8} (fits : data.length < 2 ^ 16) :
    IsMember (storedMember data) data.toByteArray :=
  ⟨storedStream data, by simpa using deflates_storedStream fits, by simp [storedMember]⟩

end Bayeux.Gzip
