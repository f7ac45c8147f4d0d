import Bayeux.Json.Parser
import Bayeux.Json.Printer
import Bayeux.Json.Skip
import Bayeux.Text.Quoted

set_option autoImplicit false

namespace Bayeux.Json

/-- How reading a value of a wanted kind ends. A mismatch has no position of its own: it gets that
of the container it stands in. -/
inductive Outcome (α : Type) where
  | ok (value : α) (rest : List Char)
  | fault (fault : Fault)
  | mismatch (message : String) (rest : List Char)

namespace Outcome

variable {α β : Type}

def ofExcept : Except Fault (α × List Char) → Outcome α
  | .ok (value, rest) => .ok value rest
  | .error e => .fault e

def map (f : α → β) : Outcome α → Outcome β
  | .ok value rest => .ok (f value) rest
  | .fault e => .fault e
  | .mismatch message rest => .mismatch message rest

def place : Outcome α → Except Fault (α × List Char)
  | .ok value rest => .ok (value, rest)
  | .fault e => .error e
  | .mismatch message rest => .error (.here (.data message) rest)

end Outcome

def invalidType (found expected : String) : Cause :=
  .data ("invalid type: " ++ found ++ ", expected " ++ expected)

def foundNumber : Number → String
  | .int n => "integer `" ++ Number.text (.int n) ++ "`"
  | .float x => "floating point `" ++ Number.text (.float x) ++ "`"

def unexpected (expected : String) : List Char → Fault
  | [] => .here .eofValue []
  | 'n' :: rest => after (readIdent ['u', 'l', 'l'] rest) "null"
  | 't' :: rest => after (readIdent ['r', 'u', 'e'] rest) "boolean `true`"
  | 'f' :: rest => after (readIdent ['a', 'l', 's', 'e'] rest) "boolean `false`"
  | '-' :: rest => number (readNumber true rest)
  | '"' :: rest =>
    match readString [] rest with
    | .ok (s, rest) => .here (invalidType ("string " ++ Text.quoted s) expected) rest
    | .error e => e
  | '[' :: rest => .here (invalidType "sequence" expected) ('[' :: rest)
  | '{' :: rest => .here (invalidType "map" expected) ('{' :: rest)
  | c :: rest =>
    if c.isDigit then number (readNumber false (c :: rest)) else .next .expectedValue (c :: rest)
where
  after (read : Except Fault (List Char)) (found : String) : Fault :=
    match read with
    | .ok rest => .here (invalidType found expected) rest
    | .error e => e
  number (read : Except Fault (Number × List Char)) : Fault :=
    match read with
    | .ok (n, rest) => .here (invalidType (foundNumber n) expected) rest
    | .error e => e

def readStringField (s : List Char) : Outcome String :=
  match skipSpace s with
  | '"' :: rest => .ofExcept (readString [] rest)
  | rest => .fault (unexpected "a string" rest)

def readBoolField (s : List Char) : Outcome Bool :=
  match skipSpace s with
  | 't' :: rest => .ofExcept ((readIdent ['r', 'u', 'e'] rest).map fun rest => (true, rest))
  | 'f' :: rest => .ofExcept ((readIdent ['a', 'l', 's', 'e'] rest).map fun rest => (false, rest))
  | rest => .fault (unexpected "a boolean" rest)

-- Where reading stands once the end of a container has been looked for.
def pastListEnd (s : List Char) : List Char :=
  match skipSpace s with
  | ']' :: rest => rest
  | ',' :: rest => skipSpace rest
  | rest => rest

def pastObjectEnd (s : List Char) : List Char :=
  match skipSpace s with
  | '}' :: rest => rest
  | rest => rest

def readListEnd (s : List Char) : Except Fault (List Char) :=
  match skipSpace s with
  | [] => .error (.here .eofList [])
  | ']' :: rest => .ok rest
  | ',' :: rest =>
    match skipSpace rest with
    | ']' :: rest => .error (.next .trailingComma (']' :: rest))
    | rest => .error (.next .trailingCharacters rest)
  | rest => .error (.next .trailingCharacters rest)

/-- A field of a record: reading it tells how the record changes. -/
structure RecordField (σ : Type) where
  name : String
  read : List Char → Outcome (σ → σ)

variable {σ : Type}

-- The fields in order, as long as there are items.
def readItems : List (RecordField σ) → (first : Bool) → σ → List Char → Outcome σ
  | [], _, record, s => .ok record s
  | field :: fields, first, record, s =>
    match skipSpace s with
    | [] => .fault (.here .eofList [])
    | ']' :: rest => .ok record (']' :: rest)
    | c :: rest =>
      let item : Except Fault (List Char) :=
        if first then .ok (c :: rest)
        else if c = ',' then itemAfterComma rest
        else .error (.next .expectedListEnd (c :: rest))
      match item with
      | .error e => .fault e
      | .ok s =>
        match field.read s with
        | .ok change rest => readItems fields false (change record) rest
        | .fault e => .fault e
        | .mismatch message rest => .mismatch message rest

-- The members in any order; a name that is not known is passed over, a known one comes once.
def readMembers (fields : List (RecordField σ)) :
    (fuel : Nat) → (seen : List String) → (first : Bool) → σ → List Char → Outcome σ
  | 0, _, _, _, s => .fault (.here .eofObject s)
  | fuel + 1, seen, first, record, s =>
    match skipSpace s with
    | [] => .fault (.here .eofObject [])
    | '}' :: rest => .ok record ('}' :: rest)
    | c :: rest =>
      let key : Except Fault (List Char) :=
        if first then
          if c = '"' then .ok rest else .error (.next .keyMustBeString (c :: rest))
        else if c = ',' then keyAfterComma rest
        else .error (.next .expectedObjectEnd (c :: rest))
      match key.bind (readString []) with
      | .error e => .fault e
      | .ok (name, rest) =>
        match fields.find? (·.name == name) with
        | none =>
          match (readColon rest).bind skipValue with
          | .error e => .fault e
          | .ok rest => readMembers fields fuel seen false record rest
        | some field =>
          if seen.contains name then .mismatch ("duplicate field `" ++ name ++ "`") rest
          else
            match readColon rest with
            | .error e => .fault e
            | .ok rest =>
              match field.read rest with
              | .ok change rest =>
                readMembers fields fuel (name :: seen) false (change record) rest
              | .fault e => .fault e
              | .mismatch message rest => .mismatch message rest

/-- Reads a record from an object or, its fields in order, from an array. What is left out keeps the
value it has in `initial`. -/
def readRecord (label : String) (fields : List (RecordField σ)) (initial : σ) (s : List Char) :
    Outcome σ :=
  match skipSpace s with
  | [] => .fault (.here .eofValue [])
  | '[' :: rest =>
    .ofExcept <|
      match readItems fields true initial rest with
      | .ok record rest => (readListEnd rest).map fun rest => (record, rest)
      | .fault e => .error e
      | .mismatch message rest => .error (.here (.data message) (pastListEnd rest))
  | '{' :: rest =>
    .ofExcept <|
      match readMembers fields (rest.length + 1) [] true initial rest with
      | .ok record rest => .ok (record, pastObjectEnd rest)
      | .fault e => .error e
      | .mismatch message rest => .error (.here (.data message) (pastObjectEnd rest))
  | rest => .fault (unexpected label rest)

def readWhole {α : Type} (read : List Char → Outcome α) (text : String) : Except Problem α :=
  let result : Except Fault α := do
    let (value, rest) ← (read text.toList).place
    readEnd rest
    return value
  result.mapError (·.problem text)

end Bayeux.Json
