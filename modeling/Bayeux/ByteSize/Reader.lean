import Bayeux.ByteSize.Basic
import Bayeux.Text.Basic

set_option autoImplicit false

namespace Bayeux.ByteSize

inductive ReadError where
  | empty
  | unknownUnit (text : String)
  | invalid (text : String)
  | tooLarge (text : String)
  deriving DecidableEq

def ReadError.message : ReadError → String
  | .empty => "empty byte size"
  | .unknownUnit text => "unknown unit in byte size '" ++ text ++ "'"
  | .invalid text => "invalid byte size '" ++ text ++ "'"
  | .tooLarge text => "byte size '" ++ text ++ "' is too large"

-- `number` is what stands before the next unit, reversed; `mayB` holds right after K, M or G.
def readGroups (text : String) :
    (total : Nat) → (number : List Char) → (mayB : Bool) → List Char → Except ReadError ByteSize
  | total, [], _, [] => .ok (ofNat total)
  | _, _ :: _, _, [] => .error (.unknownUnit text)
  | total, number, mayB, c :: rest =>
    match SizeUnit.ofLetter? c with
    | none => readGroups text total (c :: number) false rest
    | some unit =>
      if mayB && unit = .byte then readGroups text total number false rest
      else
        match Text.readWord (Text.trim number.reverse) with
        | none => .error (.invalid text)
        | some n =>
          let sum := total + n.toNat * unit.bytes
          if sum < 2 ^ 64 then readGroups text sum [] (unit != .byte) rest
          else .error (.tooLarge text)

/-- Reads a bare number of bytes or a row of groups such as `1G512M`; blanks around it do not count. -/
def read (text : String) : Except ReadError ByteSize :=
  let trimmed := Text.trim text.toList
  match Text.readWord trimmed with
  | some n => .ok ⟨n⟩
  | none => if trimmed.isEmpty then .error .empty else readGroups text 0 [] false trimmed

def readOrZero (text : String) : ByteSize :=
  match read text with
  | .ok size => size
  | .error _ => zero

-- What a setting that is no number and no text should have been.
def expectation : String := "a byte count or a size string such as \"50K\""

def ofInt? (n : Int) : Option ByteSize :=
  if 0 ≤ n then some (ofNat n.toNat) else none

-- The same reading with one pass over the text for each of its steps, which `read` puts into one.

def replacePair (first second new : Char) : List Char → List Char
  | c :: d :: rest =>
    if c = first ∧ d = second then new :: replacePair first second new rest
    else c :: replacePair first second new (d :: rest)
  | cs => cs

-- The pieces of a text, each of which goes up to a character that ends it.
def splitAfter (ends : Char → Bool) : List Char → List (List Char)
  | [] => []
  | c :: rest =>
    if ends c then [c] :: splitAfter ends rest
    else
      match splitAfter ends rest with
      | [] => [[c]]
      | piece :: later => (c :: piece) :: later

def endsPart (c : Char) : Bool := (SizeUnit.ofCapital? c).isSome

def checkedMul (a b : UInt64) : Option UInt64 :=
  if a.toNat * b.toNat < 2 ^ 64 then some (a * b) else none

def checkedAdd (a b : UInt64) : Option UInt64 :=
  if a.toNat + b.toNat < 2 ^ 64 then some (a + b) else none

def addPart (text : String) (total : UInt64) (part : List Char) : Except ReadError UInt64 :=
  match part.getLast?.bind SizeUnit.ofCapital? with
  | none => .error (.unknownUnit text)
  | some unit =>
    match Text.readWord (Text.trim part.dropLast) with
    | none => .error (.invalid text)
    | some n =>
      match (checkedMul n (UInt64.ofNat unit.bytes)).bind (checkedAdd total) with
      | none => .error (.tooLarge text)
      | some sum => .ok sum

/-- Reads a size step by step. `upper` gives the capital form of a character, which may be several
characters. -/
def readStepwise (upper : Char → List Char) (text : String) : Except ReadError ByteSize :=
  let trimmed := Text.trim text.toList
  match Text.readWord trimmed with
  | some n => .ok ⟨n⟩
  | none =>
    let capitals := trimmed.flatMap upper
    let short :=
      replacePair 'K' 'B' 'K' (replacePair 'M' 'B' 'M' (replacePair 'G' 'B' 'G' capitals))
    if short.isEmpty then .error .empty
    else ((splitAfter endsPart short).foldlM (addPart text) 0).map ByteSize.mk

end Bayeux.ByteSize
