import Bayeux.Json.Scalar

set_option autoImplicit false

namespace Bayeux.Json

-- Passes over a string to its closing quote, whatever code points its escapes give.
def skipString : List Char → Except Fault (List Char)
  | [] => .error (.here .eofString [])
  | '"' :: rest => .ok rest
  | '\\' :: [] => .error (.here .eofString [])
  | '\\' :: 'u' :: a :: b :: c :: d :: rest =>
    match hexValue4? a b c d with
    | none => .error (hexFault (a :: b :: c :: d :: rest))
    | some _ => skipString rest
  | '\\' :: 'u' :: rest => .error (hexFault rest)
  | '\\' :: c :: rest =>
    match simpleEscape? c with
    | some _ => skipString rest
    | none => .error (.next .invalidEscape (c :: rest))
  | c :: rest =>
    if c.toNat < 0x20 then .error (.here .controlCharacter (c :: rest)) else skipString rest

def skipDigits (s : List Char) : List Char := s.dropWhile Char.isDigit

def startsWithDigit : List Char → Bool
  | [] => false
  | c :: _ => c.isDigit

def skipExponent (s : List Char) : Except Fault (List Char) :=
  let digits := match s with
    | '+' :: rest => rest
    | '-' :: rest => rest
    | _ => s
  if startsWithDigit digits then .ok (skipDigits digits) else .error (.next .invalidNumber digits)

def skipNumberEnd : List Char → Except Fault (List Char)
  | 'e' :: rest => skipExponent rest
  | 'E' :: rest => skipExponent rest
  | rest => .ok rest

def skipNumber (s : List Char) : Except Fault (List Char) :=
  let rest := skipDigits s
  match s.takeWhile Char.isDigit with
  | [] => .error (.next .invalidNumber s)
  | '0' :: d :: more => .error (.next .invalidNumber (d :: more ++ rest))
  | _ =>
    match rest with
    | '.' :: fraction =>
      if startsWithDigit fraction then skipNumberEnd (skipDigits fraction)
      else .error (.next .invalidNumber fraction)
    | _ => skipNumberEnd rest

inductive Frame where
  | list
  | object
  deriving DecidableEq

def Frame.unfinished : Frame → Cause
  | .list => .eofList
  | .object => .eofObject

def Frame.expectedEnd : Frame → Cause
  | .list => .expectedListEnd
  | .object => .expectedObjectEnd

def Frame.closing : Frame → Char
  | .list => ']'
  | .object => '}'

-- Before an item: in an object its key and the colon.
def skipToItem (frame : Frame) (s : List Char) : Except Fault (List Char) :=
  match frame with
  | .list => .ok s
  | .object =>
    match skipSpace s with
    | [] => .error (.here .eofObject [])
    | '"' :: rest => do
      match skipSpace (← skipString rest) with
      | [] => .error (.here .eofObject [])
      | ':' :: rest => .ok rest
      | rest => .error (.next .expectedColon rest)
    | rest => .error (.next .keyMustBeString rest)

mutual

def skipInside : (fuel : Nat) → List Frame → List Char → Except Fault (List Char)
  | 0, _, s => .error (.here .eofValue s)
  | fuel + 1, frames, s =>
    match skipSpace s with
    | [] => .error (.here .eofValue [])
    | 'n' :: rest => do skipAfter fuel true frames (← readIdent ['u', 'l', 'l'] rest)
    | 't' :: rest => do skipAfter fuel true frames (← readIdent ['r', 'u', 'e'] rest)
    | 'f' :: rest => do skipAfter fuel true frames (← readIdent ['a', 'l', 's', 'e'] rest)
    | '"' :: rest => do skipAfter fuel true frames (← skipString rest)
    | '-' :: rest => do skipAfter fuel true frames (← skipNumber rest)
    | '[' :: rest => skipAfter fuel false (.list :: frames) rest
    | '{' :: rest => skipAfter fuel false (.object :: frames) rest
    | c :: rest =>
      if c.isDigit then do skipAfter fuel true frames (← skipNumber (c :: rest))
      else .error (.next .expectedValue (c :: rest))

-- `afterItem`: an item has been read in the innermost container, so a comma may follow.
def skipAfter : (fuel : Nat) → (afterItem : Bool) → List Frame → List Char →
    Except Fault (List Char)
  | _, _, [], s => .ok s
  | 0, _, _, s => .error (.here .eofValue s)
  | fuel + 1, afterItem, frame :: outer, s =>
    match skipSpace s with
    | [] => .error (.here frame.unfinished [])
    | c :: rest =>
      if afterItem && c = ',' then do
        skipInside fuel (frame :: outer) (← skipToItem frame rest)
      else if c = frame.closing then skipAfter fuel true outer rest
      else if afterItem then .error (.next frame.expectedEnd (c :: rest))
      else do skipInside fuel (frame :: outer) (← skipToItem frame (c :: rest))

end

def skipValue (s : List Char) : Except Fault (List Char) :=
  skipInside (2 * s.length + 2) [] s

end Bayeux.Json
