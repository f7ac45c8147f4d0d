import Bayeux.Settings.Basic
import Bayeux.Settings.Raw
import Bayeux.Settings.Sources
import Bayeux.Text.LowerCase

set_option autoImplicit false

namespace Bayeux

namespace RawSetting

def trueWords : List String := ["1", "true", "on", "yes"]

def falseWords : List String := ["0", "false", "off", "no"]

-- Reads a switch. A number is on unless it is zero; a text is a word for on or off in any case.
def readBool (key : String) (setting : RawSetting) : Except SettingsError Bool :=
  match setting with
  | .bool b => .ok b
  | .integer n => .ok (n ≠ 0)
  | .float x => .ok (!x.isZero)
  | .text s source =>
    let word := Text.lowerCase s
    if trueWords.contains word then .ok true
    else if falseWords.contains word then .ok false
    else .error (.wrongType (RawSetting.text word source).shown "a boolean" key source)
  | other => .error (.wrongType other.shown "a boolean" key other.source)

-- Reads a text. Numbers and truth values count by the text they have.
def readString (key : String) (setting : RawSetting) : Except SettingsError String :=
  match setting with
  | .bool b => .ok (toString b)
  | .integer n => .ok (toString n)
  | .float x => .ok (String.ofList x.plainChars)
  | .text s _ => .ok s
  | other => .error (.wrongType other.shown "a string" key other.source)

def unexpected (setting : RawSetting) (expected key : String) : SettingsError :=
  .badValue ("invalid type: " ++ setting.shown ++ ", expected " ++ expected) key

def readSize (key : String) (setting : RawSetting) : Except SettingsError ByteSize :=
  match setting with
  | .text s _ => (ByteSize.read s).mapError fun e => .badValue e.message key
  | .integer n =>
    match ByteSize.ofInt? n with
    | some size => .ok size
    | none => .error (.badValue ("invalid byte size " ++ toString n) key)
  | other => .error (other.unexpected ByteSize.expectation key)

def readLevel (key : String) (setting : RawSetting) : Except SettingsError Log.Level := do
  let s ← setting.readString key
  match Log.Level.read? s with
  | some level => .ok level
  | none => .error (.badValue (Log.Level.unknown s) key)

-- Reads a destination by its name, which may also be the only key of a table.
def readDestination (key : String) (setting : RawSetting) : Except SettingsError Log.Destination :=
  match setting with
  | .text name _ => named name
  | .table [(name, _)] _ => named name
  | _ =>
    .error (.badValue
      "value of enum To should be represented by either string or table with exactly one key" key)
where
  named (name : String) : Except SettingsError Log.Destination :=
    match Log.Destination.ofName? name with
    | some destination => .ok destination
    | none => .error (.badValue ("enum To does not have variant constructor " ++ name) key)

/-- A part of a group of settings: reading it tells how the group changes. -/
structure SettingPart (σ : Type) where
  name : String
  read : (key : String) → RawSetting → Except SettingsError (σ → σ)

variable {σ : Type}

def readNamed (parts : List (SettingPart σ)) (pathOf : String → String) :
    List (String × RawSetting) → σ → Except SettingsError σ
  | [], group => .ok group
  | (name, setting) :: rest, group =>
    match parts.find? (·.name == name) with
    | none => readNamed parts pathOf rest group
    | some part =>
      match part.read (pathOf name) setting with
      | .ok change => readNamed parts pathOf rest (change group)
      | .error e => .error e

def readInOrder (key : String) : (index : Nat) → List (SettingPart σ) → List RawSetting → σ →
    Except SettingsError σ
  | _, [], _, group => .ok group
  | _, _, [], group => .ok group
  | index, part :: parts, setting :: settings, group =>
    match part.read (key ++ "[" ++ toString index ++ "]") setting with
    | .ok change => readInOrder key (index + 1) parts settings (change group)
    | .error e => .error e

/-- Reads a group from a table or, its parts in order, from a list. What is left out keeps the value
it has in `initial`; what the group does not know is passed over. -/
def readGroup (label : String) (parts : List (SettingPart σ)) (initial : σ) (key : String)
    (setting : RawSetting) : Except SettingsError σ :=
  match setting with
  | .table entries _ => readNamed parts (fun name => key ++ "." ++ name) entries initial
  | .list items _ => readInOrder key 0 parts items initial
  | other => .error (other.unexpected label key)

end RawSetting

open RawSetting

def LogSettings.parts : List (SettingPart LogSettings) :=
  [{ name := "to"
     read := fun key raw => do
      let destination ← raw.readDestination key
      return fun log => { log with destination } },
    { name := "level"
      read := fun key raw => do
        let level ← raw.readLevel key
        return fun log => { log with level } },
    { name := "dir"
      read := fun key raw => do
        let dir ← raw.readString key
        return fun log => { log with dir } },
    { name := "file"
      read := fun key raw => do
        let file ← raw.readString key
        return fun log => { log with file } }]

def MessageSettings.parts : List (SettingPart MessageSettings) :=
  [{ name := "zip_message_size_threshold"
     read := fun key raw => do
      let zipThreshold ← raw.readSize key
      return fun message => { message with zipThreshold } },
    { name := "ignore_null_data"
      read := fun key raw => do
        let ignoreNullData ← raw.readBool key
        return fun message => { message with ignoreNullData } }]

def Settings.parts : List (SettingPart Settings) :=
  [{ name := "log"
     read := fun key raw => do
      let log ← readGroup "struct Log" LogSettings.parts .default key raw
      return fun settings => { settings with log } },
    { name := "message"
      read := fun key raw => do
        let message ← readGroup "struct MessageConf" MessageSettings.parts .default key raw
        return fun settings => { settings with message } }]

def Settings.ofRaw (raw : RawSetting) : Except SettingsError Settings :=
  readNamed Settings.parts id raw.entries .default

namespace Settings

def override (settings : Settings) (options : Options) : Settings :=
  { settings with
    message :=
      { zipThreshold := options.zipThreshold.getD settings.message.zipThreshold
        ignoreNullData := options.ignoreNullData.getD settings.message.ignoreNullData }
    options }

def load (surroundings : Surroundings) (options : Options) : Except SettingsError Settings := do
  let raw ← surroundings.gather options.configName
  let settings ← ofRaw raw
  return settings.override options

end Settings

end Bayeux
