import Bayeux.Binary64.Text
import Bayeux.Table
import Bayeux.Text.Quoted

set_option autoImplicit false

namespace Bayeux

/-- A setting as it was given, and where, if a message may have to tell. -/
inductive RawSetting where
  | missing
  | bool (b : Bool)
  | integer (n : Int)
  | float (x : Binary64)
  | text (s : String) (source : Option String)
  | list (items : List RawSetting) (source : Option String)
  | table (entries : List (String × RawSetting)) (source : Option String)

namespace RawSetting

def empty : RawSetting := .table [] none

def entries : RawSetting → Table RawSetting
  | .table entries _ => entries
  | _ => []

def source : RawSetting → Option String
  | .text _ source => source
  | .list _ source => source
  | .table _ source => source
  | _ => none

mutual

/-- Puts a setting over an older one. Tables are joined key by key; anything else replaces. -/
def above : RawSetting → RawSetting → RawSetting
  | .table entries _, .table old source => .table (entriesAbove entries old) source
  | .table entries _, _ => .table (entriesAbove entries []) none
  | new, _ => new

def entriesAbove : List (String × RawSetting) → Table RawSetting → Table RawSetting
  | [], old => old
  | (name, value) :: rest, old =>
    entriesAbove rest (old.insert name (value.above ((old.get? name).getD .missing)))

end

-- A float with a decimal point, a whole one as well.
def floatChars (x : Binary64) : List Char :=
  let cs := x.plainChars
  if x.isFinite && !cs.contains '.' then cs ++ ['.', '0'] else cs

def shown : RawSetting → String
  | .missing => "unit value"
  | .bool b => "boolean `" ++ toString b ++ "`"
  | .integer n => "integer `" ++ toString n ++ "`"
  | .float x => "floating point `" ++ String.ofList (floatChars x) ++ "`"
  | .text s _ => "string " ++ Text.quoted s
  | .list _ _ => "sequence"
  | .table _ _ => "map"

end RawSetting

inductive SettingsError where
  | badSyntax
  | wrongType (found expected key : String) (source : Option String)
  | badValue (reason key : String)
  | fileMissing (name : String)
  | unknownFormat (path : String)
  deriving DecidableEq

namespace SettingsError

-- What is said about an error; about the syntax of a document nothing is.
def message? : SettingsError → Option String
  | .badSyntax => none
  | .wrongType found expected key source =>
    some ("invalid type: " ++ found ++ ", expected " ++ expected ++ " for key `" ++ key ++ "`" ++
      (source.map fun s => " in " ++ s).getD "")
  | .badValue reason key => some (reason ++ " for key `" ++ key ++ "`")
  | .fileMissing name => some ("configuration file \"" ++ name ++ "\" not found")
  | .unknownFormat path =>
    some ("configuration file \"" ++ path ++ "\" is not of a supported file format")

end SettingsError

end Bayeux
