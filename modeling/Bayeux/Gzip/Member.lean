import Bayeux.Gzip.Checksum
import Bayeux.Gzip.Encoder
import Bayeux.Gzip.Inflate

set_option autoImplicit false

namespace Bayeux.Gzip

inductive Damage where
  | truncated
  | header
  | longText
  | body
  | checksum
  deriving DecidableEq

def Damage.message : Damage → String
  | .truncated => "Kind(UnexpectedEof)"
  | .header => reason "invalid gzip header"
  | .longText => reason "gzip header field too long"
  | .body => reason "corrupt deflate stream"
  | .checksum => reason "corrupt gzip stream does not have a matching checksum"
where
  reason (text : String) : String :=
    "Custom \x7b kind: InvalidInput, error: \"" ++ text ++ "\" \x7d"

def plainHeader : List UInt8 := [0x1f, 0x8b, 8, 0, 0, 0, 0, 0, 0, 0xff]

def trailer (data : List UInt8) : List UInt8 :=
  littleEndian 4 (crc32 data).toNat ++ littleEndian 4 data.length

def compress (data : ByteArray) : ByteArray :=
  let bytes := data.data.toList
  ⟨plainHeader.toArray ++ deflate data.data ++ (trailer bytes).toArray⟩

def hasMagic (bytes : ByteArray) : Bool :=
  match bytes.data[0]?, bytes.data[1]? with
  | some a, some b => a = 0x1f && b = 0x8b
  | _, _ => false

def maxText : Nat := 65535

-- What follows a text that ends in a zero byte; the first argument bounds its length.
def skipText : Nat → List UInt8 → Except Damage (List UInt8)
  | _, [] => .error .truncated
  | room, byte :: rest =>
    if byte = 0 then .ok rest
    else
      match room with
      | 0 => .error .longText
      | room + 1 => skipText room rest

def skipExtra : List UInt8 → Except Damage (List UInt8)
  | a :: b :: rest =>
    let size := ofLittleEndian [a, b]
    if size ≤ rest.length then .ok (rest.drop size) else .error .truncated
  | _ => .error .truncated

def hasFlag (flags : UInt8) (i : Nat) : Bool := flags.toNat.testBit i

-- What follows the header. The checksum of a header covers all bytes before it.
def skipHeader (bytes : List UInt8) : Except Damage (List UInt8) :=
  match bytes with
  | id1 :: id2 :: method :: flags :: _ :: _ :: _ :: _ :: _ :: _ :: rest => do
    if id1 ≠ 0x1f || id2 ≠ 0x8b || method ≠ 8 || 0x20 ≤ flags then .error .header
    else
      let rest ← if hasFlag flags 2 then skipExtra rest else .ok rest
      let rest ← if hasFlag flags 3 then skipText maxText rest else .ok rest
      let rest ← if hasFlag flags 4 then skipText maxText rest else .ok rest
      if hasFlag flags 1 then
        match rest with
        | a :: b :: more =>
          let covered := bytes.take (bytes.length - rest.length)
          if ofLittleEndian [a, b] = (crc32 covered).toNat % 2 ^ 16 then .ok more
          else .error .checksum
        | _ => .error .truncated
      else .ok rest
  | _ => .error .truncated

def checkTrailer (data : Array UInt8) (rest : List UInt8) : Except Damage ByteArray :=
  if rest.length < 8 then .error .truncated
  else if rest.take 8 = trailer data.toList then .ok ⟨data⟩
  else .error .checksum

/-- The data of the first member; what follows it does not count. -/
def decompress (bytes : ByteArray) : Except Damage ByteArray := do
  let body ← skipHeader bytes.data.toList
  if body.isEmpty then .error .truncated
  else
    match inflate (bitsOf body) with
    | none => .error .body
    | some (data, bits) => checkTrailer data (body.drop (body.length - bits.length / 8))

end Bayeux.Gzip
