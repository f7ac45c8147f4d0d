import Bayeux.Prelude

set_option autoImplicit false

namespace Bayeux.Gzip

inductive CodeTree where
  | empty
  | leaf (symbol : Nat)
  | node (zero one : CodeTree)
  deriving DecidableEq

namespace CodeTree

def branch : CodeTree → Bool → CodeTree
  | .node zero one, bit => if bit then one else zero
  | _, _ => .empty

def insert : CodeTree → List Bool → Nat → CodeTree
  | _, [], symbol => .leaf symbol
  | tree, true :: code, symbol => .node (tree.branch false) (insert (tree.branch true) code symbol)
  | tree, false :: code, symbol => .node (insert (tree.branch false) code symbol) (tree.branch true)

def read : CodeTree → List Bool → Option (Nat × List Bool)
  | .leaf symbol, bits => some (symbol, bits)
  | .node zero one, bit :: rest => if bit then read one rest else read zero rest
  | _, _ => none

theorem read_append (tree : CodeTree) (bits rest more : List Bool) (symbol : Nat)
    (h : tree.read bits = some (symbol, rest)) :
    tree.read (bits ++ more) = some (symbol, rest ++ more) := by
  induction tree generalizing bits with
  | empty => cases bits <;> simp [read] at h
  | leaf s => simp_all [read]
  | node zero one hz ho =>
    cases bits with
    | nil => simp [read] at h
    | cons bit bits =>
      simp only [read, List.cons_append] at h ⊢
      split
      · rename_i hb
        simp only [hb, if_true] at h
        exact ho bits h
      · rename_i hb
        simp only [hb] at h
        exact hz bits h

end CodeTree

def maxCodeLength : Nat := 15

-- The lowest `size` bits of a code, the highest first.
def codeBits : (size : Nat) → (code : Nat) → List Bool
  | 0, _ => []
  | size + 1, code => code.testBit size :: codeBits size code

-- Symbols of one length get consecutive codes; each length starts at twice where the last ended.
def codesFrom (lengths : List Nat) : (rounds size code : Nat) → List (Nat × List Bool)
  | 0, _, _ => []
  | rounds + 1, size, code =>
    let symbols := lengths.zipIdx.filterMap fun entry =>
      if entry.1 = size then some entry.2 else none
    let codes := symbols.zipIdx.map fun entry => (entry.1, codeBits size (code + entry.2))
    codes ++ codesFrom lengths rounds (size + 1) (2 * (code + symbols.length))

def canonicalCodes (lengths : List Nat) : List (Nat × List Bool) :=
  codesFrom lengths maxCodeLength 1 0

-- The part of all codes of the greatest length that these lengths take.
def codeSpace (lengths : List Nat) : Nat :=
  (lengths.map fun size => if size = 0 then 0 else 2 ^ (maxCodeLength - size)).sum

/-- Lengths that fill the code space exactly, or that belong to one symbol at most. -/
def isComplete (lengths : List Nat) : Bool :=
  codeSpace lengths = 2 ^ maxCodeLength || (lengths.filter (· ≠ 0)).length ≤ 1

def treeOf (codes : List (Nat × List Bool)) : CodeTree :=
  codes.foldl (fun tree entry => tree.insert entry.2 entry.1) .empty

-- Branches that no code takes stand for nothing only if they begin within this many bits.
def strictDepth : Nat := 10

def CodeTree.fillBelow : (depth : Nat) → CodeTree → CodeTree
  | 0, .empty => .leaf 0
  | depth, .node zero one => .node (fillBelow (depth - 1) zero) (fillBelow (depth - 1) one)
  | _, tree => tree

def codeTree? (lengths : List Nat) : Option CodeTree :=
  if isComplete lengths then
    some ((treeOf (canonicalCodes lengths)).fillBelow (strictDepth + 1))
  else none

end Bayeux.Gzip
