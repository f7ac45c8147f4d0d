import Bayeux.Gzip.Bits

set_option autoImplicit false

namespace Bayeux.Gzip

@[simp] theorem length_byteBits (byte : UInt8) : (byteBits byte).length = 8 := rfl

theorem byteBits_bitsToNat (a b c d e f g h : Bool) :
    byteBits (UInt8.ofNat (bitsToNat [a, b, c, d, e, f, g, h])) = [a, b, c, d, e, f, g, h] := by
  cases a <;> cases b <;> cases c <;> cases d <;> cases e <;> cases f <;> cases g <;> cases h <;> rfl

@[simp] theorem length_bitsOf (bytes : List UInt8) : (bitsOf bytes).length = 8 * bytes.length := by
  induction bytes with
  | nil => rfl
  | cons byte rest ih =>
    have step : bitsOf (byte :: rest) = byteBits byte ++ bitsOf rest := rfl
    rw [step, List.length_append, ih, length_byteBits, List.length_cons]
    omega

@[simp] theorem bitsOf_append (a b : List UInt8) : bitsOf (a ++ b) = bitsOf a ++ bitsOf b := by
  simp [bitsOf]

theorem bitsToNat_append_false (bits : List Bool) (count : Nat) :
    bitsToNat (bits ++ List.replicate count false) = bitsToNat bits := by
  induction bits with
  | nil =>
    induction count with
    | zero => rfl
    | succ count ih =>
      have zero : bitsToNat (List.replicate count false) = 0 := ih
      simp [List.replicate_succ, bitsToNat, zero]
  | cons bit rest ih => simp [bitsToNat, ih]

theorem byteBits_short (short : List Bool) (bound : short.length < 8) :
    byteBits (UInt8.ofNat (bitsToNat short)) =
      short ++ List.replicate (8 - short.length) false := by
  rw [← bitsToNat_append_false short (8 - short.length)]
  have size : (short ++ List.replicate (8 - short.length) false).length = 8 := by
    simp only [List.length_append, List.length_replicate]
    omega
  generalize short ++ List.replicate (8 - short.length) false = full at size
  match full, size with
  | [a, b, c, d, e, f, g, h], _ => exact byteBits_bitsToNat a b c d e f g h

theorem bitsOf_packInto (done : Array UInt8) (bits : List Bool) :
    ∃ fill : List Bool, fill.length < 8 ∧
      bitsOf (packInto done bits).toList = bitsOf done.toList ++ bits ++ fill := by
  induction done, bits using packInto.induct with
  | case1 done => exact ⟨[], by simp, by simp [packInto]⟩
  | case2 done a b c d e f g h rest ih =>
    obtain ⟨fill, bound, eq⟩ := ih
    refine ⟨fill, bound, ?_⟩
    rw [packInto, eq]
    have last : bitsOf [UInt8.ofNat (bitsToNat [a, b, c, d, e, f, g, h])] =
        [a, b, c, d, e, f, g, h] := by
      simpa [bitsOf] using byteBits_bitsToNat a b c d e f g h
    simp [last]
  | case3 done short notEmpty notFull =>
    have bound : short.length < 8 := by
      match short with
      | [] => simp
      | [_] | [_, _] | [_, _, _] | [_, _, _, _] | [_, _, _, _, _] | [_, _, _, _, _, _]
      | [_, _, _, _, _, _, _] => simp
      | a :: b :: c :: d :: e :: f :: g :: h :: rest =>
        exact absurd rfl (notFull a b c d e f g h rest)
    have positive : 0 < short.length := List.length_pos_iff.mpr notEmpty
    refine ⟨List.replicate (8 - short.length) false, by simp only [List.length_replicate]; omega, ?_⟩
    rw [packInto.eq_3 done short notEmpty notFull]
    have last : bitsOf [UInt8.ofNat (bitsToNat short)] =
        short ++ List.replicate (8 - short.length) false := by
      simpa [bitsOf] using byteBits_short short bound
    simp [last]

end Bayeux.Gzip
