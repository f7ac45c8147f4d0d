import Bayeux.Gzip.Deflate

set_option autoImplicit false

namespace Bayeux.Gzip

def fixedLiteralCode (symbol : Nat) : List Bool :=
  if symbol < 144 then codeBits 8 (0x30 + symbol)
  else if symbol < 256 then codeBits 9 (0x190 + (symbol - 144))
  else if symbol < 280 then codeBits 7 (symbol - 256)
  else codeBits 8 (0xC0 + (symbol - 280))

def fixedDistanceCode (symbol : Nat) : List Bool := codeBits 5 symbol

def Symbol.bits : Symbol → List Bool
  | .literal byte => fixedLiteralCode byte.toNat
  | .copy length distance =>
    let (i, lengths) := findRange lengthRanges length
    let (j, distances) := findRange distanceRanges distance
    fixedLiteralCode (firstLength + i) ++ natToBits lengths.extra (length - lengths.base) ++
      fixedDistanceCode j ++ natToBits distances.extra (distance - distances.base)

def deflateBits (symbols : List Symbol) : List Bool :=
  [true, true, false] ++ symbols.flatMap Symbol.bits ++ fixedLiteralCode endOfBlock

-- How many bytes from `i` on equal those from `j` on, at most `limit`.
def matchLength (data : Array UInt8) : (limit i j : Nat) → Nat
  | 0, _, _ => 0
  | limit + 1, i, j =>
    if h : i < data.size ∧ j < data.size then
      if data[i] = data[j] then matchLength data limit (i + 1) (j + 1) + 1 else 0
    else 0

def maxLength : Nat := 258

def maxDistance : Nat := 32768

-- Where the three bytes from `i` on are looked up.
def slotOf (data : Array UInt8) (i : Nat) : Nat :=
  ((data.getD i 0).toNat * 1171 + (data.getD (i + 1) 0).toNat * 37 +
    (data.getD (i + 2) 0).toNat) % 4096

/-- Covers the data from `i` on; `recent` holds, one higher, where the bytes of a slot were last
seen. A place that is proposed counts only for as many bytes as are equal there. -/
def symbolsFrom (data : Array UInt8) :
    (fuel i : Nat) → (recent : Array Nat) → (done : List Symbol) → List Symbol
  | 0, _, _, done => done.reverse
  | fuel + 1, i, recent, done =>
    if h : i < data.size then
      let slot := slotOf data i
      let seen := recent.getD slot 0
      let distance := i + 1 - seen
      let length :=
        if 0 < seen && seen ≤ i && distance ≤ maxDistance then matchLength data maxLength i (seen - 1)
        else 0
      let recent := recent.setIfInBounds slot (i + 1)
      if 3 ≤ length then symbolsFrom data fuel (i + length) recent (.copy length distance :: done)
      else symbolsFrom data fuel (i + 1) recent (.literal data[i] :: done)
    else done.reverse

def symbolsOf (data : Array UInt8) : List Symbol :=
  symbolsFrom data data.size 0 (Array.replicate 4096 0) []

def deflate (data : Array UInt8) : Array UInt8 := packInto #[] (deflateBits (symbolsOf data))

end Bayeux.Gzip
