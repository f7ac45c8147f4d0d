import Bayeux.Settings.Raw
import Bayeux.Text.Basic

set_option autoImplicit false

namespace Bayeux

/-- One step from a setting to a part of it. A negative index counts from the end. -/
inductive PlaceStep where
  | name (name : String)
  | index (index : Int)
  deriving DecidableEq

namespace PlaceStep

def isNameChar (c : Char) : Bool := c.isAlphanum || c = '_' || c = '-'

-- An index between blanks, and its closing bracket.
def readIndex (s : List Char) : Option (Int × List Char) :=
  let skip (s : List Char) : List Char := s.dropWhile fun c => c = ' ' || c = '\t'
  let s := skip s
  let isIndexChar (c : Char) : Bool := c.isDigit || c = '-'
  match Text.readSigned (s.takeWhile isIndexChar), skip (s.dropWhile isIndexChar) with
  | some n, ']' :: rest => some (n, rest)
  | _, _ => none

def readMore : (fuel : Nat) → List Char → Option (List PlaceStep)
  | 0, _ => none
  | fuel + 1, s =>
    match s with
    | [] => some []
    | '.' :: rest =>
      let name := rest.takeWhile isNameChar
      if name.isEmpty then none
      else (readMore fuel (rest.dropWhile isNameChar)).map (.name (String.ofList name) :: ·)
    | '[' :: rest =>
      match readIndex rest with
      | some (n, rest) => (readMore fuel rest).map (.index n :: ·)
      | none => none
    | _ => none

/-- Reads a place such as `log.to` or `a.b[0]`. A key that is no place is the name of a setting. -/
def readPlace (key : String) : List PlaceStep :=
  match readMore (key.length + 2) ('.' :: key.toList) with
  | some steps => steps
  | none => [.name key]

end PlaceStep

namespace RawSetting

-- The items, made enough of them for an index, and where it points.
def reach (items : List RawSetting) (index : Int) : List RawSetting × Nat :=
  let blanks (n : Nat) : List RawSetting := List.replicate n .missing
  if 0 ≤ index then (items ++ blanks (index.toNat + 1 - items.length), index.toNat)
  else
    let back := index.natAbs
    if back ≤ items.length then (items, items.length - back)
    else (blanks (back - items.length) ++ items, 0)

-- A setting as a table or as a list, empty if it is none.
def asTable : RawSetting → Table RawSetting × Option String
  | .table entries source => (entries, source)
  | _ => ([], none)

def asList : RawSetting → List RawSetting × Option String
  | .list items source => (items, source)
  | _ => ([], none)

-- Puts a setting over what is at a place; what stands in the way of the place is replaced.
def put (value : RawSetting) : List PlaceStep → RawSetting → RawSetting
  | [], old => value.above old
  | .name name :: steps, old =>
    let (entries, source) := old.asTable
    .table (entries.insert name (put value steps ((entries.get? name).getD .missing))) source
  | .index index :: steps, old =>
    let (items, source) := old.asList
    let (items, i) := reach items index
    .list (items.set i (put value steps (items.getD i .missing))) source

def putAll (old : RawSetting) (given : List (String × RawSetting)) : RawSetting :=
  given.foldl (fun old entry => put entry.2 (PlaceStep.readPlace entry.1) old) old

end RawSetting

end Bayeux
