import Bayeux.Text.Basic

set_option autoImplicit false

namespace Bayeux.Json

-- Why reading stopped. `data` is a value that is well written and not what was asked for.
inductive Cause where
  | eofList | eofObject | eofString | eofValue
  | expectedColon | expectedListEnd | expectedObjectEnd | expectedIdent | expectedValue
  | invalidEscape | invalidNumber | numberOutOfRange | controlCharacter | keyMustBeString
  | loneSurrogate | trailingComma | trailingCharacters | unfinishedSurrogate | recursionLimit
  | data (message : String)
  deriving DecidableEq

def Cause.message : Cause → String
  | .eofList => "EOF while parsing a list"
  | .eofObject => "EOF while parsing an object"
  | .eofString => "EOF while parsing a string"
  | .eofValue => "EOF while parsing a value"
  | .expectedColon => "expected `:`"
  | .expectedListEnd => "expected `,` or `]`"
  | .expectedObjectEnd => "expected `,` or `\x7d`"
  | .expectedIdent => "expected ident"
  | .expectedValue => "expected value"
  | .invalidEscape => "invalid escape"
  | .invalidNumber => "invalid number"
  | .numberOutOfRange => "number out of range"
  | .controlCharacter => "control character (\\u0000-\\u001F) found while parsing a string"
  | .keyMustBeString => "key must be a string"
  | .loneSurrogate => "lone leading surrogate in hex escape"
  | .trailingComma => "trailing comma"
  | .trailingCharacters => "trailing characters"
  | .unfinishedSurrogate => "unexpected end of hex escape"
  | .recursionLimit => "recursion limit exceeded"
  | .data message => message

/-- A cause and where it arose: before `rest`, with `ahead` bytes of it taken as read. -/
structure Fault where
  cause : Cause
  rest : List Char
  ahead : Nat
  deriving DecidableEq

namespace Fault

def here (cause : Cause) (rest : List Char) : Fault := ⟨cause, rest, 0⟩

def next (cause : Cause) (rest : List Char) : Fault :=
  ⟨cause, rest, if rest.isEmpty then 0 else 1⟩

end Fault

-- Lines and columns count from one and from zero, columns in bytes.
structure Position where
  line : Nat
  column : Nat
  deriving DecidableEq

def Position.start : Position := ⟨1, 0⟩

def Position.advance (p : Position) (byte : UInt8) : Position :=
  if byte = 10 then ⟨p.line + 1, 0⟩ else ⟨p.line, p.column + 1⟩

def utf8Length (cs : List Char) : Nat := cs.foldl (fun n c => n + c.utf8Size) 0

def Fault.position (fault : Fault) (text : String) : Position :=
  let bytes := text.toUTF8
  let read := bytes.size - utf8Length fault.rest + fault.ahead
  (bytes.toList.take read).foldl Position.advance Position.start

structure Problem where
  message : String
  position : Option Position
  deriving DecidableEq

def Problem.text (problem : Problem) : String :=
  match problem.position with
  | none => problem.message
  | some p => problem.message ++ " at line " ++ toString p.line ++ " column " ++ toString p.column

-- The digits at the front as a number of 64 bits.
def leadingWord (cs : List Char) : Option UInt64 := Text.readWord (cs.takeWhile Char.isDigit)

def Position.read? (cs : List Char) : Option Position :=
  let column := " column ".toList
  let rest := cs.dropWhile Char.isDigit
  if column.isPrefixOf rest then
    let last := rest.drop column.length
    if last.all Char.isDigit then
      match leadingWord cs, leadingWord last with
      | some line, some column => some ⟨line.toNat, column.toNat⟩
      | _, _ => none
    else none
  else none

-- What stands before and after the last ` at line `; `seen` is reversed.
def splitAtLine : (seen : List Char) → List Char → Option (List Char × List Char)
  | _, [] => none
  | seen, c :: rest =>
    match splitAtLine (c :: seen) rest with
    | some split => some split
    | none =>
      let mark := " at line ".toList
      if mark.isPrefixOf (c :: rest) then some (seen.reverse, (c :: rest).drop mark.length) else none

-- A problem by its message alone. A position at its end counts as the position; line zero is none.
def Problem.custom (message : String) : Problem :=
  match splitAtLine [] message.toList with
  | none => ⟨message, none⟩
  | some (before, after) =>
    match Position.read? after with
    | none => ⟨message, none⟩
    | some p => ⟨String.ofList before, if p.line = 0 then none else some p⟩

def Fault.problem (fault : Fault) (text : String) : Problem :=
  ⟨fault.cause.message, some (fault.position text)⟩

end Bayeux.Json
