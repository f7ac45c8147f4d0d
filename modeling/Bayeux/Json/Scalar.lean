import Bayeux.Json.Basic
import Bayeux.Json.Fault

set_option autoImplicit false

namespace Bayeux.Json

def isSpace (c : Char) : Bool := c = ' ' || c = '\n' || c = '\t' || c = '\r'

def skipSpace (s : List Char) : List Char := s.dropWhile isSpace

def readIdent : (expected : List Char) → List Char → Except Fault (List Char)
  | [], s => .ok s
  | _ :: _, [] => .error (.here .eofValue [])
  | e :: es, c :: s => if c = e then readIdent es s else .error (.next .expectedIdent (c :: s))

def digitValue (c : Char) : Nat := c.toNat - '0'.toNat

-- Appends digits while the number fits 64 bits; from the first that does not, they are left over.
def absorb : Nat → List Char → Nat × List Char
  | significand, [] => (significand, [])
  | significand, c :: rest =>
    let next := 10 * significand + digitValue c
    if next < 2 ^ 64 then absorb next rest else (significand, c :: rest)

-- Divides by `1e308` `times` times, then by `10 ^ last`.
def divideByPower : (times last : Nat) → Binary64 → Binary64
  | 0, last, x => x.div (Binary64.powerOfTen last)
  | times + 1, last, x =>
    if x.isZero then x else divideByPower times last (x.div (Binary64.powerOfTen 308))

/-- The double read for `significand * 10 ^ exponent`: every operation rounds, so it need not be
the nearest one. None when it is too large. -/
def approximate (significand : Nat) (exponent : Int) : Option Binary64 :=
  let x := Binary64.ofNat significand
  match exponent with
  | .ofNat e =>
    if e ≤ 308 then
      let y := x.mul (Binary64.powerOfTen e)
      if y.isFinite then some y else none
    else if x.isZero then some x else none
  | .negSucc e => some (divideByPower (e / 308) (e % 308 + 1) x)

def applySign (negative : Bool) (x : Binary64) : Binary64 := if negative then x.neg else x

def finishFloat (negative : Bool) (significand : Nat) (exponent : Int) (rest : List Char) :
    Except Fault (Number × List Char) :=
  match approximate significand exponent with
  | some x => .ok (.float (applySign negative x), rest)
  | none => .error (.here .numberOutOfRange rest)

inductive ExponentDigits where
  | fits (value : Nat) (rest : List Char)
  | tooLong (rest : List Char)

-- An exponent beyond 31 bits stops at the digit that takes it there.
def readExponentDigits : Nat → List Char → ExponentDigits
  | value, [] => .fits value []
  | value, c :: rest =>
    if c.isDigit then
      let next := 10 * value + digitValue c
      if next < 2 ^ 31 then readExponentDigits next rest else .tooLong rest
    else .fits value (c :: rest)

def readExponent (negative : Bool) (significand : Nat) (start : Int) (s : List Char) :
    Except Fault (Number × List Char) :=
  let (down, digits) := match s with
    | '+' :: rest => (false, rest)
    | '-' :: rest => (true, rest)
    | _ => (false, s)
  match digits with
  | [] => .error (.here .eofValue [])
  | c :: _ =>
    if !c.isDigit then .error (.next .invalidNumber digits)
    else
      match readExponentDigits 0 digits with
      | .fits e rest =>
        finishFloat negative significand (if down then start - e else start + e) rest
      | .tooLong rest =>
        if significand ≠ 0 && !down then .error (.here .numberOutOfRange rest)
        else .ok (.float (Binary64.zero negative), rest.dropWhile Char.isDigit)

def readFraction (negative : Bool) (significand : Nat) (start : Int) (s : List Char) :
    Except Fault (Number × List Char) :=
  let digits := s.takeWhile Char.isDigit
  let rest := s.dropWhile Char.isDigit
  if digits.isEmpty then
    .error (if rest.isEmpty then .here .eofValue [] else .next .invalidNumber rest)
  else
    let (fraction, unused) := absorb significand digits
    let exponent := start - ((digits.length - unused.length : Nat) : Int)
    match rest with
    | 'e' :: rest => readExponent negative fraction exponent rest
    | 'E' :: rest => readExponent negative fraction exponent rest
    | _ => finishFloat negative fraction exponent rest

-- A whole number without fraction and exponent; minus zero and what is below 64 bits are floats.
def wholeNumber (negative : Bool) (n : Nat) : Number :=
  if !negative then .int n
  else if n = 0 || 2 ^ 63 < n then .float (Binary64.ofNat n).neg
  else .int (-(n : Int))

-- Reads a number whose minus sign, if any, has been read.
def readNumber (negative : Bool) (s : List Char) : Except Fault (Number × List Char) :=
  let digits := s.takeWhile Char.isDigit
  let rest := s.dropWhile Char.isDigit
  match digits with
  | [] => .error (if rest.isEmpty then .here .eofValue [] else .next .invalidNumber rest)
  | '0' :: d :: more => .error (.next .invalidNumber (d :: more ++ rest))
  | _ =>
    let (significand, unused) := absorb 0 digits
    let exponent : Int := unused.length
    match rest with
    | '.' :: rest => readFraction negative significand exponent rest
    | 'e' :: rest => readExponent negative significand exponent rest
    | 'E' :: rest => readExponent negative significand exponent rest
    | _ =>
      if unused.isEmpty then .ok (wholeNumber negative significand, rest)
      else finishFloat negative significand exponent rest

def hexValue4? (a b c d : Char) : Option Nat := do
  return (((← Text.hexValue? a) * 16 + (← Text.hexValue? b)) * 16 + (← Text.hexValue? c)) * 16 +
    (← Text.hexValue? d)

-- Four bytes are read as the digits of an escape, whatever they are.
def hexFault (rest : List Char) : Fault :=
  if utf8Length rest < 4 then .here .eofString [] else ⟨.invalidEscape, rest, 4⟩

def simpleEscape? : Char → Option Char
  | '"' => some '"'
  | '\\' => some '\\'
  | '/' => some '/'
  | 'b' => some '\x08'
  | 'f' => some '\x0c'
  | 'n' => some '\n'
  | 'r' => some '\r'
  | 't' => some '\t'
  | _ => none

-- Reads a string to its closing quote; `done` holds, reversed, what came before.
def readString (done : List Char) : List Char → Except Fault (String × List Char)
  | [] => .error (.here .eofString [])
  | '"' :: rest => .ok (String.ofList done.reverse, rest)
  | '\\' :: [] => .error (.here .eofString [])
  | '\\' :: 'u' :: a :: b :: c :: d :: rest =>
    match hexValue4? a b c d with
    | none => .error (hexFault (a :: b :: c :: d :: rest))
    | some high =>
      if 0xDC00 ≤ high && high ≤ 0xDFFF then .error (.here .loneSurrogate rest)
      else if high < 0xD800 || 0xDBFF < high then readString (Char.ofNat high :: done) rest
      else
        match rest with
        | '\\' :: 'u' :: a :: b :: c :: d :: rest =>
          match hexValue4? a b c d with
          | none => .error (hexFault (a :: b :: c :: d :: rest))
          | some low =>
            if low < 0xDC00 || 0xDFFF < low then .error (.here .loneSurrogate rest)
            else
              let code := 0x10000 + (high - 0xD800) * 0x400 + (low - 0xDC00)
              readString (Char.ofNat code :: done) rest
        | '\\' :: 'u' :: rest => .error (hexFault rest)
        | '\\' :: [] => .error (.here .eofString [])
        | '\\' :: rest => .error (.next .unfinishedSurrogate rest)
        | [] => .error (.here .eofString [])
        | rest => .error (.next .unfinishedSurrogate rest)
  | '\\' :: 'u' :: rest => .error (hexFault rest)
  | '\\' :: c :: rest =>
    match simpleEscape? c with
    | some x => readString (x :: done) rest
    | none => .error (.next .invalidEscape (c :: rest))
  | c :: rest =>
    if c.toNat < 0x20 then .error (.next .controlCharacter (c :: rest))
    else readString (c :: done) rest

end Bayeux.Json
