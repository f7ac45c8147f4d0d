import Bayeux.Binary64.Text
import Bayeux.Json.Basic
import Bayeux.Text.Outline

set_option autoImplicit false

namespace Bayeux

def Number.chars : Number → List Char
  | .int n => if n < 0 then '-' :: Nat.toDigits 10 n.natAbs else Nat.toDigits 10 n.natAbs
  | .float x => x.jsonChars

def Number.text (n : Number) : String := String.ofList n.chars

namespace Json

def hexDigit (n : Nat) : Char := Nat.digitChar (n % 16)

-- A quote, a backslash and the controls are escaped, nothing else is.
def escapeChar (c : Char) : List Char :=
  if c = '"' then ['\\', '"']
  else if c = '\\' then ['\\', '\\']
  else if c.toNat < 0x20 then
    match c.toNat with
    | 8 => ['\\', 'b']
    | 9 => ['\\', 't']
    | 10 => ['\\', 'n']
    | 12 => ['\\', 'f']
    | 13 => ['\\', 'r']
    | n => ['\\', 'u', '0', '0', hexDigit (n / 16), hexDigit n]
  else [c]

def stringChars (s : String) : List Char :=
  '"' :: (s.toList.flatMap escapeChar ++ ['"'])

mutual

def chars : Json → List Char
  | .null => ['n', 'u', 'l', 'l']
  | .bool true => ['t', 'r', 'u', 'e']
  | .bool false => ['f', 'a', 'l', 's', 'e']
  | .number n => n.chars
  | .string s => stringChars s
  | .array items => '[' :: (itemChars items ++ [']'])
  | .object members => '{' :: (memberChars members ++ ['}'])

def itemChars : List Json → List Char
  | [] => []
  | [v] => chars v
  | v :: w :: rest => chars v ++ ',' :: itemChars (w :: rest)

def memberChars : List (String × Json) → List Char
  | [] => []
  | [(key, v)] => stringChars key ++ ':' :: chars v
  | (key, v) :: w :: rest => stringChars key ++ ':' :: (chars v ++ ',' :: memberChars (w :: rest))

end

def text (v : Json) : String := String.ofList v.chars

end Json

namespace Json

open Text (Outline)

mutual

def outline : Json → Outline
  | .null => .text "Null"
  | .bool b => .text (if b then "Bool(true)" else "Bool(false)")
  | .number n => .text ("Number(" ++ n.text ++ ")")
  | .string s => .text ("String(" ++ Text.quoted s ++ ")")
  | .array items => .labelled "Array " (.list (itemOutlines items))
  | .object members => .labelled "Object " (.map (memberOutlines members))

def itemOutlines : List Json → List Outline
  | [] => []
  | v :: rest => outline v :: itemOutlines rest

def memberOutlines : List (String × Json) → List (String × Outline)
  | [] => []
  | (key, v) :: rest => (key, outline v) :: memberOutlines rest

end

def mapOutline (members : JsonMap) : Outline := .map (memberOutlines members)

end Json

end Bayeux
