import Bayeux.Json.Record
import Bayeux.Settings.Basic

set_option autoImplicit false

namespace Bayeux

namespace Json

-- A name from a fixed list, behind its opening quote.
def readVariant (names : List String) (s : List Char) : Except Fault (String × List Char) := do
  let (name, rest) ← readString [] s
  if names.contains name then return (name, rest)
  else
    let listed := String.intercalate ", " (names.map fun n => "`" ++ n ++ "`")
    .error (.here (.data ("unknown variant `" ++ name ++ "`, expected one of " ++ listed)) rest)

-- The name has to be there: an object without one is no choice.
def readVariantKey (names : List String) (s : List Char) : Except Fault (String × List Char) :=
  match skipSpace s with
  | [] => .error (.here .eofObject [])
  | '"' :: rest => readVariant names rest
  | '}' :: rest => .error (.next .expectedValue ('}' :: rest))
  | rest => .error (.next .keyMustBeString rest)

def readUnit (s : List Char) : Except Fault (List Char) :=
  match skipSpace s with
  | 'n' :: rest => readIdent ['u', 'l', 'l'] rest
  | rest => .error (unexpected "unit" rest)

-- Reads one of the names, as a string or as the one key of an object, with null as its value.
def readChoice (names : List String) (s : List Char) : Except Fault (String × List Char) :=
  match skipSpace s with
  | [] => .error (.here .eofValue [])
  | '"' :: rest => readVariant names rest
  | '{' :: rest => do
    let (name, rest) ← readVariantKey names rest
    let rest ← readUnit (← readColon rest)
    match skipSpace rest with
    | [] => .error (.here .eofObject [])
    | '}' :: rest => .ok (name, rest)
    | rest => .error (.here .expectedValue rest)
  | rest => .error (.next .expectedValue rest)

def readByteSize (s : List Char) : Outcome ByteSize :=
  match skipSpace s with
  | [] => .fault (.here .eofValue [])
  | '"' :: rest =>
    .ofExcept <| do
      let (text, rest) ← readString [] rest
      match ByteSize.read text with
      | .ok size => .ok (size, rest)
      | .error e => .error (.here (.data e.message) rest)
  | '-' :: rest => .ofExcept ((readNumber true rest).bind number)
  | '[' :: rest => .fault (.here (invalidType "sequence" ByteSize.expectation) (pastListEnd rest))
  | '{' :: rest => .fault (.here (invalidType "map" ByteSize.expectation) (pastObjectEnd rest))
  | c :: rest =>
    if c.isDigit then .ofExcept ((readNumber false (c :: rest)).bind number)
    else .fault (unexpected ByteSize.expectation (c :: rest))
where
  number : Number × List Char → Except Fault (ByteSize × List Char)
    | (.int n, rest) =>
      match ByteSize.ofInt? n with
      | some size => .ok (size, rest)
      | none => .error (.here (.data ("invalid byte size " ++ Number.text (.int n))) rest)
    | (n, rest) => .error (.here (invalidType (foundNumber n) ByteSize.expectation) rest)

end Json

open Json

def LogSettings.fields : List (RecordField LogSettings) :=
  [{ name := "to"
     read := fun s => (Outcome.ofExcept (readChoice (Log.Destination.all.map (·.name)) s)).map
      fun name log =>
        { log with destination := (Log.Destination.ofName? name).getD log.destination } },
    { name := "level"
      read := fun s =>
        match readStringField s with
        | .ok text rest =>
          match Log.Level.read? text with
          | some level => .ok (fun log => { log with level := level }) rest
          | none => .mismatch (Log.Level.unknown text) rest
        | .fault e => .fault e
        | .mismatch message rest => .mismatch message rest },
    { name := "dir"
      read := fun s => (readStringField s).map fun dir log => { log with dir := dir } },
    { name := "file"
      read := fun s => (readStringField s).map fun file log => { log with file := file } }]

def LogSettings.read (s : List Char) : Outcome LogSettings :=
  readRecord "struct Log" LogSettings.fields LogSettings.default s

def MessageSettings.fields : List (RecordField MessageSettings) :=
  [{ name := "zip_message_size_threshold"
     read := fun s =>
       (readByteSize s).map fun size message => { message with zipThreshold := size } },
    { name := "ignore_null_data"
      read := fun s =>
        (readBoolField s).map fun b message => { message with ignoreNullData := b } }]

def MessageSettings.read (s : List Char) : Outcome MessageSettings :=
  readRecord "struct MessageConf" MessageSettings.fields MessageSettings.default s

def Settings.fields : List (RecordField Settings) :=
  [{ name := "log"
     read := fun s => (LogSettings.read s).map fun log settings => { settings with log := log } },
    { name := "message"
      read := fun s =>
        (MessageSettings.read s).map fun message settings => { settings with message := message } }]

def Settings.read (s : List Char) : Outcome Settings :=
  readRecord "struct Inner" Settings.fields Settings.default s

def ByteSize.toJson (size : ByteSize) : Json := .string size.text

def ByteSize.ofJson (text : String) : Except Problem ByteSize := readWhole readByteSize text

def LogSettings.ofJson (text : String) : Except Problem LogSettings :=
  readWhole LogSettings.read text

def MessageSettings.ofJson (text : String) : Except Problem MessageSettings :=
  readWhole MessageSettings.read text

def Settings.ofJson (text : String) : Except Problem Settings := readWhole Settings.read text

end Bayeux
