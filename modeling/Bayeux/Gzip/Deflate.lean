import Bayeux.Gzip.Bits
import Bayeux.Gzip.Huffman

set_option autoImplicit false

namespace Bayeux.Gzip

/-- A byte, or a repetition of `length` bytes that stand `distance` bytes back. -/
inductive Symbol where
  | literal (byte : UInt8)
  | copy (length distance : Nat)
  deriving DecidableEq

-- Appends `length` bytes, each equal to the one `distance` before it. What lies before the start of
-- the data counts as zeros.
def copyBack (distance : Nat) : (length : Nat) → Array UInt8 → Array UInt8
  | 0, out => out
  | length + 1, out =>
    let byte := if distance ≤ out.size then out.getD (out.size - distance) 0 else 0
    copyBack distance length (out.push byte)

def Symbol.apply (out : Array UInt8) : Symbol → Array UInt8
  | .literal byte => out.push byte
  | .copy length distance => copyBack distance length out

def expand (symbols : List Symbol) : Array UInt8 := symbols.foldl Symbol.apply #[]

/-- A code with a range of values: those from `base` on, told apart by `extra` more bits. -/
structure CodeRange where
  base : Nat
  extra : Nat

def lengthRanges : List CodeRange :=
  [⟨3, 0⟩, ⟨4, 0⟩, ⟨5, 0⟩, ⟨6, 0⟩, ⟨7, 0⟩, ⟨8, 0⟩, ⟨9, 0⟩, ⟨10, 0⟩, ⟨11, 1⟩, ⟨13, 1⟩,
    ⟨15, 1⟩, ⟨17, 1⟩, ⟨19, 2⟩, ⟨23, 2⟩, ⟨27, 2⟩, ⟨31, 2⟩, ⟨35, 3⟩, ⟨43, 3⟩, ⟨51, 3⟩, ⟨59, 3⟩,
    ⟨67, 4⟩, ⟨83, 4⟩, ⟨99, 4⟩, ⟨115, 4⟩, ⟨131, 5⟩, ⟨163, 5⟩, ⟨195, 5⟩, ⟨227, 5⟩, ⟨258, 0⟩]

def distanceRanges : List CodeRange :=
  [⟨1, 0⟩, ⟨2, 0⟩, ⟨3, 0⟩, ⟨4, 0⟩, ⟨5, 1⟩, ⟨7, 1⟩, ⟨9, 2⟩, ⟨13, 2⟩, ⟨17, 3⟩, ⟨25, 3⟩, ⟨33, 4⟩,
    ⟨49, 4⟩, ⟨65, 5⟩, ⟨97, 5⟩, ⟨129, 6⟩, ⟨193, 6⟩, ⟨257, 7⟩, ⟨385, 7⟩, ⟨513, 8⟩, ⟨769, 8⟩,
    ⟨1025, 9⟩, ⟨1537, 9⟩, ⟨2049, 10⟩, ⟨3073, 10⟩, ⟨4097, 11⟩, ⟨6145, 11⟩, ⟨8193, 12⟩,
    ⟨12289, 12⟩, ⟨16385, 13⟩, ⟨24577, 13⟩]

def endOfBlock : Nat := 256

def firstLength : Nat := 257

-- How long the fixed codes are.
def fixedLiteralLengths : List Nat :=
  List.replicate 144 8 ++ List.replicate 112 9 ++ List.replicate 24 7 ++ List.replicate 8 8

def fixedDistanceLengths : List Nat := List.replicate 32 5

def fixedLiteralTree : CodeTree := treeOf (canonicalCodes fixedLiteralLengths)

def fixedDistanceTree : CodeTree := treeOf (canonicalCodes fixedDistanceLengths)

def findRange (ranges : List CodeRange) (n : Nat) : Nat × CodeRange :=
  let rec go : List CodeRange → Nat → Nat × CodeRange → Nat × CodeRange
    | [], _, best => best
    | range :: rest, i, best => if range.base ≤ n then go rest (i + 1) (i, range) else best
  go ranges 0 (0, ⟨0, 0⟩)

end Bayeux.Gzip
