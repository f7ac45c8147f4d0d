import Bayeux.Binary64.Reader
import Bayeux.Folder
import Bayeux.Settings.Place
import Bayeux.Settings.Raw
import Bayeux.Text.Basic
import Bayeux.Text.LowerCase
import Bayeux.Toml.Parser

set_option autoImplicit false

namespace Bayeux

structure Surroundings where
  folder : Folder
  environment : Table String
  deriving DecidableEq

namespace RawSetting

mutual

def ofToml (source : String) : Toml → RawSetting
  | .text s => .text s (some source)
  | .integer n => .integer n
  | .float x => .float x
  | .bool b => .bool b
  | .moment s => .text s (some source)
  | .list items => .list (ofTomls source items) (some source)
  | .tables items => .list (ofTomls source items) (some source)
  | .table _ entries => .table (ofEntries source entries) (some source)

def ofTomls (source : String) : List Toml → List RawSetting
  | [] => []
  | item :: rest => ofToml source item :: ofTomls source rest

def ofEntries (source : String) : List (String × Toml) → List (String × RawSetting)
  | [] => []
  | (name, value) :: rest => (name, ofToml source value) :: ofEntries source rest

end

-- What a variable holds: a truth value in any case, a whole number, another number, or a text.
def ofVariable (value : String) : RawSetting :=
  let s := value.toList
  let word := Text.lowerCase value
  if word = "true" then .bool true
  else if word = "false" then .bool false
  else
    match Text.readSigned s with
    | some n => .integer n
    | none =>
      match Binary64.read? s with
      | some x => .float x
      | none => .text value (some "the environment")

def variableMark : List Char := "cometd_".toList

-- Two underscores stand for a point.
def pointed : List Char → List Char
  | '_' :: '_' :: rest => '.' :: pointed rest
  | c :: rest => c :: pointed rest
  | [] => []

-- The key of the setting that a variable holds. The case of its name does not count.
def variableKey? (name : String) : Option String :=
  let cs := (Text.lowerCase name).toList
  if variableMark.isPrefixOf cs then some (String.ofList (pointed (cs.drop variableMark.length)))
  else none

def ofVariables (environment : Table String) : List (String × RawSetting) :=
  environment.filterMap fun (name, value) =>
    (variableKey? name).map fun key => (key, ofVariable value)

def ofDocument (name text : String) : Except SettingsError (List (String × RawSetting)) :=
  match Toml.parse text with
  | some document => .ok (ofToml name document).entries
  | none => .error .badSyntax

end RawSetting

namespace Surroundings

def extension : List Char := "toml".toList

-- What stands behind the last point, unless that is the first character.
def extensionOf (file : String) : Option (List Char) :=
  let back := file.toList.reverse
  match (back.dropWhile (· ≠ '.')).drop 1 with
  | [] => none
  | _ => some (back.takeWhile (· ≠ '.')).reverse

-- The name with the extension added to its last part. One that has an extension already is kept as
-- it is written, and a slash at its end begins a part that no extension has been given to.
def extended? (name : String) : Option String :=
  let steps := Folder.stepsOf name
  let added := "." ++ String.ofList extension
  match steps.getLast? with
  | none => none
  | some last =>
    if last = ".." then none
    else if (extensionOf last).isSome then
      let part := if name.toList.getLast? = some '/' then ".placeholder" else ""
      some (name ++ part ++ added)
    else
      let file := Folder.joinSteps (steps.dropLast ++ [last ++ added])
      some (if Folder.isAbsolute name then "/" ++ file else file)

def withoutMark (text : String) : String :=
  match text.toList with
  | '\uFEFF' :: rest => String.ofList rest
  | _ => text

-- The name of a file in messages, seen from the directory.
def nameInMessages (folder : Folder) (name : String) : String :=
  let steps := Folder.stepsOf name
  if Folder.isAbsolute name then
    let base := Folder.stepsOf folder.path
    let common := ((steps.zip base).takeWhile fun pair => pair.1 = pair.2).length
    Folder.joinSteps (List.replicate (base.length - common) ".." ++ steps.drop common)
  else Folder.joinSteps steps

/-- The settings in a file. If there is a file of that very name its extension has to be right;
otherwise the extension is added. -/
def ofFile (folder : Folder) (name : String) : Except SettingsError (List (String × RawSetting)) :=
  match folder.read name with
  | .ok text =>
    if extensionOf ((Folder.stepsOf name).getLast?.getD "") = some extension then
      RawSetting.ofDocument (nameInMessages folder name) (withoutMark text)
    else
      .error (.unknownFormat (if Folder.isAbsolute name then name else folder.path ++ "/" ++ name))
  | .error _ =>
    match extended? name with
    | none => .error (.fileMissing name)
    | some full =>
      match folder.read full with
      | .ok text => RawSetting.ofDocument (nameInMessages folder full) (withoutMark text)
      | .error _ => .error (.fileMissing name)

def usualFile : String := "cometd"

def ofUsualFile (folder : Folder) : Except SettingsError (List (String × RawSetting)) :=
  match ofFile folder usualFile with
  | .error (.fileMissing _) | .error (.unknownFormat _) => .ok []
  | result => result

def ofNamedFile (folder : Folder) :
    Option String → Except SettingsError (List (String × RawSetting))
  | none => .ok []
  | some name => ofFile folder name

/-- Everything that is set: the usual file, over it the variables, over them the named file. -/
def gather (surroundings : Surroundings) (configName : Option String) :
    Except SettingsError RawSetting := do
  let usual ← ofUsualFile surroundings.folder
  let named ← ofNamedFile surroundings.folder configName
  let layers := [usual, RawSetting.ofVariables surroundings.environment, named]
  return layers.foldl RawSetting.putAll .empty

end Surroundings

end Bayeux
