import Bayeux.Prelude

set_option autoImplicit false

namespace Bayeux

/-- A number of bytes, as settings and reports write it: `50K`, `2G512M`, `17B`. -/
structure ByteSize where
  count : UInt64
  deriving DecidableEq

inductive SizeUnit where
  | giga | mega | kilo | byte
  deriving DecidableEq

namespace SizeUnit

def bytes : SizeUnit → Nat
  | .giga => 1024 ^ 3
  | .mega => 1024 ^ 2
  | .kilo => 1024
  | .byte => 1

def letter : SizeUnit → Char
  | .giga => 'G'
  | .mega => 'M'
  | .kilo => 'K'
  | .byte => 'B'

def ofCapital? : Char → Option SizeUnit
  | 'G' => some .giga
  | 'M' => some .mega
  | 'K' => some .kilo
  | 'B' => some .byte
  | _ => none

def ofLetter? (c : Char) : Option SizeUnit := ofCapital? c.toUpper

theorem ofLetter?_letter (unit : SizeUnit) : ofLetter? unit.letter = some unit := by
  cases unit <;> decide

end SizeUnit

namespace ByteSize

def ofNat (n : Nat) : ByteSize := ⟨UInt64.ofNat n⟩

def toNat (size : ByteSize) : Nat := size.count.toNat

def zero : ByteSize := ⟨0⟩

abbrev Group := Nat × SizeUnit

def Group.text (group : Group) : List Char :=
  Nat.toDigits 10 group.1 ++ [group.2.letter]

def Group.value (group : Group) : Nat := group.1 * group.2.bytes

def textOf (groups : List Group) : List Char := groups.flatMap Group.text

def valueOf (groups : List Group) : Nat := (groups.map Group.value).sum

def groupsOf (n : Nat) : List Group :=
  [(n / 1024 ^ 3, SizeUnit.giga), (n / 1024 ^ 2 % 1024, .mega), (n / 1024 % 1024, .kilo),
    (n % 1024, .byte)].filter (fun group => group.1 != 0)

def chars (size : ByteSize) : List Char :=
  if size.toNat = 0 then ['0', 'B'] else textOf (groupsOf size.toNat)

def text (size : ByteSize) : String := String.ofList size.chars

end ByteSize

end Bayeux
