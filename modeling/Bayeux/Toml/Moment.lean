set_option autoImplicit false

namespace Bayeux.Toml

structure Date where
  year : Nat
  month : Nat
  day : Nat
  deriving DecidableEq

structure Clock where
  hour : Nat
  minute : Nat
  second : Option Nat
  fraction : Option (List Char)
  deriving DecidableEq

inductive Zone where
  | utc
  | ahead (minutes : Nat)
  | behind (minutes : Nat)
  deriving DecidableEq

structure Moment where
  date : Option Date
  clock : Option Clock
  zone : Option Zone
  deriving DecidableEq

-- The value of the first `size` characters, if they are digits.
def takeNumber (size : Nat) (s : List Char) : Option (Nat × List Char) :=
  let digits := s.take size
  if digits.length = size && digits.all Char.isDigit then
    some (Nat.ofDigitChars 10 digits 0, s.drop size)
  else none

def takeChar (c : Char) : List Char → Option (List Char)
  | d :: rest => if d = c then some rest else none
  | [] => none

def isLeap (year : Nat) : Bool := year % 4 = 0 && (year % 100 ≠ 0 || year % 400 = 0)

def daysIn (year month : Nat) : Nat :=
  match month with
  | 2 => if isLeap year then 29 else 28
  | 4 | 6 | 9 | 11 => 30
  | _ => 31

def readDate (s : List Char) : Option (Date × List Char) := do
  let (year, s) ← takeNumber 4 s
  let (month, s) ← takeNumber 2 (← takeChar '-' s)
  let (day, s) ← takeNumber 2 (← takeChar '-' s)
  guard (1 ≤ month && month ≤ 12 && 1 ≤ day && day ≤ daysIn year month)
  return (⟨year, month, day⟩, s)

def readFraction (s : List Char) : Option (Option (List Char) × List Char) :=
  match s with
  | '.' :: rest =>
    let digits := rest.takeWhile Char.isDigit
    if digits.isEmpty then none else some (some digits, rest.dropWhile Char.isDigit)
  | _ => some (none, s)

-- Hours and minutes, and seconds if they are written; the sixtieth second is a leap second.
def readClock (s : List Char) : Option (Clock × List Char) := do
  let (hour, s) ← takeNumber 2 s
  let (minute, s) ← takeNumber 2 (← takeChar ':' s)
  guard (hour ≤ 23 && minute ≤ 59)
  match s with
  | ':' :: rest =>
    let (second, rest) ← takeNumber 2 rest
    guard (second ≤ 60)
    let (fraction, rest) ← readFraction rest
    return (⟨hour, minute, some second, fraction⟩, rest)
  | _ => return (⟨hour, minute, none, none⟩, s)

def readZone (s : List Char) : Option (Option Zone) :=
  match s with
  | [] => some none
  | ['Z'] | ['z'] => some (some .utc)
  | '+' :: rest => (minutes rest).map fun n => some (.ahead n)
  | '-' :: rest => (minutes rest).map fun n => some (.behind n)
  | _ => none
where
  minutes (s : List Char) : Option Nat := do
    let (hour, s) ← takeNumber 2 s
    let (minute, s) ← takeNumber 2 (← takeChar ':' s)
    guard (hour ≤ 23 && minute ≤ 59 && s.isEmpty)
    return 60 * hour + minute

def Moment.read? (s : List Char) : Option Moment :=
  match readDate s with
  | some (date, []) => some ⟨some date, none, none⟩
  | some (date, c :: rest) => do
    guard (c = 'T' || c = 't' || c = ' ')
    let (clock, rest) ← readClock rest
    let zone ← readZone rest
    return ⟨some date, some clock, zone⟩
  | none =>
    match readClock s with
    | some (clock, []) => some ⟨none, some clock, none⟩
    | _ => none

def padded (size n : Nat) : List Char :=
  let digits := Nat.toDigits 10 n
  List.replicate (size - digits.length) '0' ++ digits

def Date.chars (date : Date) : List Char :=
  padded 4 date.year ++ '-' :: padded 2 date.month ++ '-' :: padded 2 date.day

-- Fractions are kept to the billionth, without zeros at the end.
def fractionChars (digits : List Char) : List Char :=
  let kept := ((digits.take 9).reverse.dropWhile (· = '0')).reverse
  '.' :: (if kept.isEmpty then ['0'] else kept)

def Clock.chars (clock : Clock) : List Char :=
  padded 2 clock.hour ++ ':' :: padded 2 clock.minute ++
    (clock.second.map fun n => ':' :: padded 2 n).getD [] ++
    (clock.fraction.map fractionChars).getD []

def Zone.chars : Zone → List Char
  | .utc => ['Z']
  | .ahead n => '+' :: padded 2 (n / 60) ++ ':' :: padded 2 (n % 60)
  | .behind n => (if n = 0 then '+' else '-') :: padded 2 (n / 60) ++ ':' :: padded 2 (n % 60)

def Moment.text (m : Moment) : String :=
  let date := (m.date.map Date.chars).getD []
  let clock := (m.clock.map Clock.chars).getD []
  let join := if m.date.isSome && m.clock.isSome then ['T'] else []
  String.ofList (date ++ join ++ clock ++ (m.zone.map Zone.chars).getD [])

end Bayeux.Toml
