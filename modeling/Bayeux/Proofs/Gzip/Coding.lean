import Bayeux.Gzip.Encoder
import Bayeux.Gzip.Inflate

set_option autoImplicit false

namespace Bayeux.Gzip

-- Each range goes on where the one before it ends, and the last one reaches the limit.
def contiguous (limit : Nat) : CodeRange → List CodeRange → Bool
  | range, [] => limit ≤ range.base + 2 ^ range.extra
  | range, next :: rest =>
    next.base ≤ range.base + 2 ^ range.extra && contiguous limit next rest

theorem findRange_go_correct (n limit : Nat) (bound : n < limit) (ranges : List CodeRange)
    (i : Nat) (best : Nat × CodeRange) (reached : best.2.base ≤ n)
    (covered : contiguous limit best.2 ranges) :
    let found := findRange.go n ranges i best
    found.2.base ≤ n ∧ n < found.2.base + 2 ^ found.2.extra ∧
      (found = best ∨ ∃ k, ranges[k]? = some found.2 ∧ found.1 = i + k) := by
  induction ranges generalizing i best with
  | nil =>
    simp only [contiguous, decide_eq_true_eq] at covered
    exact ⟨reached, by simp only [findRange.go]; omega, .inl rfl⟩
  | cons range rest ih =>
    simp only [contiguous, Bool.and_eq_true, decide_eq_true_eq] at covered
    simp only [findRange.go]
    split
    next begun =>
      obtain ⟨low, high, place⟩ := ih (i + 1) (i, range) begun covered.2
      refine ⟨low, high, .inr ?_⟩
      rcases place with same | ⟨k, listed, index⟩
      · exact ⟨0, by simp [same], by simp [same]⟩
      · exact ⟨k + 1, by simpa using listed, by omega⟩
    next later => exact ⟨reached, by omega, .inl rfl⟩

theorem readInRange_findRange (first : CodeRange) (ranges : List CodeRange) (n limit : Nat)
    (rest : List Bool) (low : first.base ≤ n) (bound : n < limit)
    (covered : contiguous limit first ranges) :
    let found := findRange (first :: ranges) n
    found.1 < (first :: ranges).length ∧
      readInRange (first :: ranges) found.1
        (natToBits found.2.extra (n - found.2.base) ++ rest) = some (n, rest) := by
  have start : findRange (first :: ranges) n = findRange.go n ranges 1 (0, first) := by
    simp [findRange, findRange.go, low]
  obtain ⟨begun, ended, place⟩ := findRange_go_correct n limit bound ranges 1 (0, first) low covered
  simp only [start]
  generalize findRange.go n ranges 1 (0, first) = found at begun ended place
  have listed : (first :: ranges)[found.1]? = some found.2 := by
    rcases place with same | ⟨k, listed, index⟩
    · simp [same]
    · rw [index, Nat.add_comm]
      simpa using listed
  have inside : found.1 < (first :: ranges).length := (List.getElem?_eq_some_iff.mp listed).1
  refine ⟨inside, ?_⟩
  have small : n - found.2.base < 2 ^ found.2.extra := by omega
  simp only [readInRange, listed, readBits_natToBits, Nat.mod_eq_of_lt small,
    Option.bind_eq_bind, Option.bind_some, Option.pure_def, Option.some.injEq, Prod.mk.injEq, and_true]
  omega

theorem read_fixedLiteralCode (symbol : Nat) (bound : symbol < 288) (rest : List Bool) :
    fixedLiteralTree.read (fixedLiteralCode symbol ++ rest) = some (symbol, rest) := by
  have all : ∀ symbol < 288,
      fixedLiteralTree.read (fixedLiteralCode symbol) = some (symbol, []) := by decide +kernel
  exact CodeTree.read_append _ _ [] rest symbol (all symbol bound)

theorem read_fixedDistanceCode (symbol : Nat) (bound : symbol < 32) (rest : List Bool) :
    fixedDistanceTree.read (fixedDistanceCode symbol ++ rest) = some (symbol, rest) := by
  have all : ∀ symbol < 32,
      fixedDistanceTree.read (fixedDistanceCode symbol) = some (symbol, []) := by decide +kernel
  exact CodeTree.read_append _ _ [] rest symbol (all symbol bound)

def Symbol.Encodable : Symbol → Prop
  | .literal _ => True
  | .copy length distance => 3 ≤ length ∧ length ≤ maxLength ∧ 1 ≤ distance ∧ distance ≤ maxDistance

theorem readInRange_length (length : Nat) (long : 3 ≤ length) (short : length ≤ maxLength)
    (rest : List Bool) :
    let found := findRange lengthRanges length
    found.1 < 29 ∧ readInRange lengthRanges found.1
      (natToBits found.2.extra (length - found.2.base) ++ rest) = some (length, rest) :=
  readInRange_findRange ⟨3, 0⟩ lengthRanges.tail length (maxLength + 1) rest long (by omega)
    (by decide)

theorem readInRange_distance (distance : Nat) (behind : 1 ≤ distance)
    (near : distance ≤ maxDistance) (rest : List Bool) :
    let found := findRange distanceRanges distance
    found.1 < 30 ∧ readInRange distanceRanges found.1
      (natToBits found.2.extra (distance - found.2.base) ++ rest) = some (distance, rest) :=
  readInRange_findRange ⟨1, 0⟩ distanceRanges.tail distance (maxDistance + 1) rest behind (by omega)
    (by decide)

theorem readSymbol_endOfBlock (rest : List Bool) :
    readSymbol fixedLiteralTree fixedDistanceTree (fixedLiteralCode endOfBlock ++ rest) =
      some (none, rest) := by
  simp [readSymbol, read_fixedLiteralCode endOfBlock (by decide)]

theorem readSymbol_literal (byte : UInt8) (rest : List Bool) :
    readSymbol fixedLiteralTree fixedDistanceTree ((Symbol.literal byte).bits ++ rest) =
      some (some (.literal byte), rest) := by
  have below : byte.toNat < endOfBlock := byte.toNat_lt
  have coded : byte.toNat < 288 := Nat.lt_trans below (by decide)
  simp [readSymbol, Symbol.bits, read_fixedLiteralCode _ coded, below]

theorem readSymbol_copy (length distance : Nat)
    (encodable : (Symbol.copy length distance).Encodable) (rest : List Bool) :
    readSymbol fixedLiteralTree fixedDistanceTree ((Symbol.copy length distance).bits ++ rest) =
      some (some (.copy length distance), rest) := by
  obtain ⟨long, short, behind, near⟩ := encodable
  obtain ⟨distanceCode, distanceRead⟩ := readInRange_distance distance behind near rest
  obtain ⟨lengthCode, lengthRead⟩ := readInRange_length length long short
    (fixedDistanceCode (findRange distanceRanges distance).1 ++
      natToBits (findRange distanceRanges distance).2.extra
        (distance - (findRange distanceRanges distance).2.base) ++ rest)
  have coded : firstLength + (findRange lengthRanges length).1 < 288 := by
    simp only [firstLength]
    omega
  have notByte : ¬ firstLength + (findRange lengthRanges length).1 < endOfBlock := by
    simp only [firstLength, endOfBlock]
    omega
  have notEnd : firstLength + (findRange lengthRanges length).1 ≠ endOfBlock := by
    simp only [firstLength, endOfBlock]
    omega
  have distanceCoded := read_fixedDistanceCode (findRange distanceRanges distance).1 (by omega)
  simp only [List.append_assoc] at lengthRead
  simp [readSymbol, Symbol.bits, read_fixedLiteralCode _ coded, notByte, notEnd, lengthRead,
    distanceCoded, distanceRead]

theorem readSymbol_bits (symbol : Symbol) (encodable : symbol.Encodable) (rest : List Bool) :
    readSymbol fixedLiteralTree fixedDistanceTree (symbol.bits ++ rest) =
      some (some symbol, rest) := by
  cases symbol with
  | literal byte => exact readSymbol_literal byte rest
  | copy length distance => exact readSymbol_copy length distance encodable rest

theorem inflateSymbols_bits (symbols : List Symbol) (encodable : ∀ symbol ∈ symbols, symbol.Encodable)
    (fuel : Nat) (enough : symbols.length < fuel) (out : Array UInt8) (rest : List Bool) :
    inflateSymbols fixedLiteralTree fixedDistanceTree fuel out
        (symbols.flatMap Symbol.bits ++ fixedLiteralCode endOfBlock ++ rest) =
      some (symbols.foldl Symbol.apply out, rest) := by
  induction symbols generalizing fuel out with
  | nil =>
    obtain ⟨fuel, rfl⟩ := Nat.exists_eq_add_one.mpr enough
    simp [inflateSymbols, readSymbol_endOfBlock]
  | cons symbol symbols ih =>
    obtain ⟨fuel, rfl⟩ := Nat.exists_eq_add_one.mpr (Nat.zero_lt_of_lt enough)
    have here := readSymbol_bits symbol (encodable symbol (by simp))
    have later := ih (fun other member => encodable other (by simp [member])) fuel
      (by simpa using enough) (symbol.apply out)
    simp only [List.append_assoc] at later
    simp [inflateSymbols, here, later]

theorem length_codeBits (size code : Nat) : (codeBits size code).length = size := by
  induction size with
  | zero => rfl
  | succ size ih => simp [codeBits, ih]

theorem length_fixedLiteralCode_pos (symbol : Nat) : 0 < (fixedLiteralCode symbol).length := by
  unfold fixedLiteralCode
  split
  · simp [length_codeBits]
  · split
    · simp [length_codeBits]
    · split <;> simp [length_codeBits]

theorem Symbol.length_bits_pos (symbol : Symbol) : 0 < symbol.bits.length := by
  cases symbol with
  | literal byte => exact length_fixedLiteralCode_pos byte.toNat
  | copy length distance =>
    have := length_fixedLiteralCode_pos (firstLength + (findRange lengthRanges length).1)
    simp only [Symbol.bits, List.length_append]
    omega

theorem length_le_bits (symbols : List Symbol) :
    symbols.length ≤ (symbols.flatMap Symbol.bits).length := by
  induction symbols with
  | nil => simp
  | cons symbol symbols ih =>
    have := symbol.length_bits_pos
    simp only [List.flatMap_cons, List.length_append, List.length_cons]
    omega

-- What follows the final block is left alone.
theorem inflate_deflateBits (symbols : List Symbol)
    (encodable : ∀ symbol ∈ symbols, symbol.Encodable) (rest : List Bool) :
    inflate (deflateBits symbols ++ rest) = some (expand symbols, rest) := by
  have enough : symbols.length < (deflateBits symbols ++ rest).length + 1 := by
    have := length_le_bits symbols
    simp only [deflateBits, List.length_append]
    omega
  have body := inflateSymbols_bits symbols encodable _ enough #[] rest
  have final (bits : List Bool) : readBits 1 (true :: bits) = some (1, bits) := rfl
  have kind (bits : List Bool) : readBits 2 (true :: false :: bits) = some (1, bits) := rfl
  simp only [inflate, inflateBlocks]
  generalize (deflateBits symbols ++ rest).length + 1 = limit at body
  simp only [List.append_assoc] at body
  simp [deflateBits, expand, final, kind, body]

end Bayeux.Gzip
