import Bayeux.Gzip.Deflate

set_option autoImplicit false

namespace Bayeux.Gzip

-- The value of a code with its extra bits.
def readInRange (ranges : List CodeRange) (code : Nat) (bits : List Bool) :
    Option (Nat × List Bool) :=
  match ranges[code]? with
  | none => none
  | some range => do
    let (n, bits) ← readBits range.extra bits
    return (range.base + n, bits)

def readSymbol (literals distances : CodeTree) (bits : List Bool) :
    Option (Option Symbol × List Bool) := do
  let (symbol, bits) ← literals.read bits
  if symbol < endOfBlock then return (some (.literal (UInt8.ofNat symbol)), bits)
  else if symbol = endOfBlock then return (none, bits)
  else
    let (length, bits) ← readInRange lengthRanges (symbol - firstLength) bits
    let (code, bits) ← distances.read bits
    let (distance, bits) ← readInRange distanceRanges code bits
    return (some (.copy length distance), bits)

-- Reads symbols to the end of the block. Each takes a bit at least.
def inflateSymbols (literals distances : CodeTree) :
    (fuel : Nat) → Array UInt8 → List Bool → Option (Array UInt8 × List Bool)
  | 0, _, _ => none
  | fuel + 1, out, bits =>
    match readSymbol literals distances bits with
    | none => none
    | some (none, bits) => some (out, bits)
    | some (some symbol, bits) => inflateSymbols literals distances fuel (symbol.apply out) bits

def alignToByte (bits : List Bool) : List Bool := bits.drop (bits.length % 8)

def readStored : (size : Nat) → Array UInt8 → List Bool → Option (Array UInt8 × List Bool)
  | 0, out, bits => some (out, bits)
  | size + 1, out, bits =>
    match bits with
    | a :: b :: c :: d :: e :: f :: g :: h :: rest =>
      readStored size (out.push (UInt8.ofNat (bitsToNat [a, b, c, d, e, f, g, h]))) rest
    | _ => none

def inflateStored (out : Array UInt8) (bits : List Bool) : Option (Array UInt8 × List Bool) := do
  let (size, bits) ← readBits 16 (alignToByte bits)
  let (check, bits) ← readBits 16 bits
  if size + check = 0xFFFF then readStored size out bits else none

def lengthOrder : List Nat := [16, 17, 18, 0, 8, 7, 9, 6, 10, 5, 11, 4, 12, 3, 13, 2, 14, 1, 15]

def readLengthCodes : (count : Nat) → List Bool → Option (List Nat × List Bool)
  | 0, bits => some ([], bits)
  | count + 1, bits => do
    let (n, bits) ← readBits 3 bits
    let (rest, bits) ← readLengthCodes count bits
    return (n :: rest, bits)

-- `done` is reversed. A repetition may not lead beyond the lengths that are wanted.
def readCodeLengths (tree : CodeTree) (wanted : Nat) :
    (fuel : Nat) → (done : List Nat) → List Bool → Option (List Nat × List Bool)
  | 0, _, _ => none
  | fuel + 1, done, bits =>
    if done.length = wanted then some (done.reverse, bits)
    else if wanted < done.length then none
    else do
      let (symbol, bits) ← tree.read bits
      if symbol < 16 then readCodeLengths tree wanted fuel (symbol :: done) bits
      else if symbol = 16 then
        let last ← done.head?
        let (n, bits) ← readBits 2 bits
        readCodeLengths tree wanted fuel (List.replicate (3 + n) last ++ done) bits
      else if symbol = 17 then
        let (n, bits) ← readBits 3 bits
        readCodeLengths tree wanted fuel (List.replicate (3 + n) 0 ++ done) bits
      else
        let (n, bits) ← readBits 7 bits
        readCodeLengths tree wanted fuel (List.replicate (11 + n) 0 ++ done) bits

def readTrees (bits : List Bool) : Option (CodeTree × CodeTree × List Bool) := do
  let (a, bits) ← readBits 5 bits
  let (b, bits) ← readBits 5 bits
  let (c, bits) ← readBits 4 bits
  let literals := a + 257
  let distances := b + 1
  if 286 < literals || 30 < distances then none
  else
    let (given, bits) ← readLengthCodes (c + 4) bits
    let ordered := (List.range 19).map fun symbol =>
      match lengthOrder.idxOf? symbol with
      | some i => given.getD i 0
      | none => 0
    let tree ← codeTree? ordered
    let (lengths, bits) ← readCodeLengths tree (literals + distances) (literals + distances + 1) [] bits
    let literalTree ← codeTree? (lengths.take literals)
    let distanceTree ← codeTree? (lengths.drop literals)
    return (literalTree, distanceTree, bits)

-- Reads blocks up to the final one; a symbol or a block takes a bit at least.
def inflateBlocks (limit : Nat) :
    (fuel : Nat) → Array UInt8 → List Bool → Option (Array UInt8 × List Bool)
  | 0, _, _ => none
  | fuel + 1, out, bits => do
    let (final, bits) ← readBits 1 bits
    let (kind, bits) ← readBits 2 bits
    let (out, bits) ←
      match kind with
      | 0 => inflateStored out bits
      | 1 => inflateSymbols fixedLiteralTree fixedDistanceTree limit out bits
      | 2 => do
        let (literals, distances, bits) ← readTrees bits
        inflateSymbols literals distances limit out bits
      | _ => none
    if final = 1 then return (out, bits) else inflateBlocks limit fuel out bits

/-- The data of a deflate stream and the bits after it; none where the stream is damaged. -/
def inflate (bits : List Bool) : Option (Array UInt8 × List Bool) :=
  inflateBlocks (bits.length + 1) (bits.length + 1) #[] bits

end Bayeux.Gzip
