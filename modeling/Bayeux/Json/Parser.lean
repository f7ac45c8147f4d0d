import Bayeux.Json.Scalar

set_option autoImplicit false

namespace Bayeux.Json

def maxDepth : Nat := 127

-- After a comma another item has to follow.
def itemAfterComma (s : List Char) : Except Fault (List Char) :=
  match skipSpace s with
  | [] => .error (.here .eofValue [])
  | ']' :: rest => .error (.next .trailingComma (']' :: rest))
  | rest => .ok rest

-- After a comma another key has to follow; what is returned begins behind its quote.
def keyAfterComma (s : List Char) : Except Fault (List Char) :=
  match skipSpace s with
  | [] => .error (.here .eofValue [])
  | '"' :: rest => .ok rest
  | '}' :: rest => .error (.next .trailingComma ('}' :: rest))
  | rest => .error (.next .keyMustBeString rest)

def readColon (s : List Char) : Except Fault (List Char) :=
  match skipSpace s with
  | [] => .error (.here .eofObject [])
  | ':' :: rest => .ok rest
  | rest => .error (.next .expectedColon rest)

mutual

/-- Reads a value; `room` more containers may be opened. The fuel is never used up when it exceeds
twice the length of the text. -/
def readValue : (fuel room : Nat) → List Char → Except Fault (Json × List Char)
  | 0, _, s => .error (.here .eofValue s)
  | fuel + 1, room, s =>
    match skipSpace s with
    | [] => .error (.here .eofValue [])
    | 'n' :: rest => do return (.null, ← readIdent ['u', 'l', 'l'] rest)
    | 't' :: rest => do return (.bool true, ← readIdent ['r', 'u', 'e'] rest)
    | 'f' :: rest => do return (.bool false, ← readIdent ['a', 'l', 's', 'e'] rest)
    | '"' :: rest => do
      let (text, rest) ← readString [] rest
      return (.string text, rest)
    | '-' :: rest => do
      let (n, rest) ← readNumber true rest
      return (.number n, rest)
    | '[' :: rest =>
      match room with
      | 0 => .error (.next .recursionLimit ('[' :: rest))
      | room + 1 => readFirstItem fuel room rest
    | '{' :: rest =>
      match room with
      | 0 => .error (.next .recursionLimit ('{' :: rest))
      | room + 1 => readFirstMember fuel room rest
    | c :: rest =>
      if c.isDigit then do
        let (n, rest) ← readNumber false (c :: rest)
        return (.number n, rest)
      else .error (.next .expectedValue (c :: rest))

def readFirstItem : (fuel room : Nat) → List Char → Except Fault (Json × List Char)
  | 0, _, s => .error (.here .eofValue s)
  | fuel + 1, room, s =>
    match skipSpace s with
    | [] => .error (.here .eofList [])
    | ']' :: rest => .ok (.array [], rest)
    | rest => do
      let (item, rest) ← readValue fuel room rest
      readMoreItems fuel room [item] rest

def readMoreItems : (fuel room : Nat) → (done : List Json) → List Char →
    Except Fault (Json × List Char)
  | 0, _, _, s => .error (.here .eofValue s)
  | fuel + 1, room, done, s =>
    match skipSpace s with
    | [] => .error (.here .eofList [])
    | ']' :: rest => .ok (.array done.reverse, rest)
    | ',' :: rest => do
      let rest ← itemAfterComma rest
      let (item, rest) ← readValue fuel room rest
      readMoreItems fuel room (item :: done) rest
    | rest => .error (.next .expectedListEnd rest)

def readFirstMember : (fuel room : Nat) → List Char → Except Fault (Json × List Char)
  | 0, _, s => .error (.here .eofValue s)
  | fuel + 1, room, s =>
    match skipSpace s with
    | [] => .error (.here .eofObject [])
    | '}' :: rest => .ok (.object [], rest)
    | '"' :: rest => do
      let (key, rest) ← readString [] rest
      let (value, rest) ← readValue fuel room (← readColon rest)
      readMoreMembers fuel room [(key, value)] rest
    | rest => .error (.next .keyMustBeString rest)

def readMoreMembers : (fuel room : Nat) → (done : JsonMap) → List Char →
    Except Fault (Json × List Char)
  | 0, _, _, s => .error (.here .eofValue s)
  | fuel + 1, room, done, s =>
    match skipSpace s with
    | [] => .error (.here .eofObject [])
    | '}' :: rest => .ok (.object done, rest)
    | ',' :: rest => do
      let (key, rest) ← readString [] (← keyAfterComma rest)
      let (value, rest) ← readValue fuel room (← readColon rest)
      readMoreMembers fuel room (done.insert key value) rest
    | rest => .error (.next .expectedObjectEnd rest)

end

def readEnd (s : List Char) : Except Fault Unit :=
  match skipSpace s with
  | [] => .ok ()
  | rest => .error (.next .trailingCharacters rest)

def readText (text : String) : Except Fault Json := do
  let s := text.toList
  let (value, rest) ← readValue (2 * s.length + 1) maxDepth s
  readEnd rest
  return value

/-- Reads a text that holds one value. Of equal keys the last one counts. -/
def parse (text : String) : Except Problem Json :=
  (readText text).mapError (·.problem text)

end Bayeux.Json
