import Bayeux.ByteSize.Reader
import Bayeux.Log.Level
import Bayeux.Text.Outline

set_option autoImplicit false

namespace Bayeux

namespace Log

inductive Destination where
  | off | file | console | both
  deriving DecidableEq

namespace Destination

def all : List Destination := [.off, .file, .console, .both]

def name : Destination → String
  | .off => "off"
  | .file => "file"
  | .console => "console"
  | .both => "both"

def label : Destination → String
  | .off => "Off"
  | .file => "File"
  | .console => "Console"
  | .both => "Both"

def ofName? (name : String) : Option Destination := all.find? fun d => d.name == name

def isOff (d : Destination) : Bool := d = .off

def toFile (d : Destination) : Bool := d = .file || d = .both

def toConsole (d : Destination) : Bool := d = .console || d = .both

end Destination

end Log

structure LogSettings where
  destination : Log.Destination
  level : Log.Level
  dir : String
  file : String
  deriving DecidableEq

namespace LogSettings

def default : LogSettings :=
  { destination := .console
    level := .info
    dir := "/var/log/cometd"
    file := "cometd.log" }

def joinPath (dir path : String) : String :=
  if path.startsWith "/" || dir.isEmpty then path
  else if dir.endsWith "/" then dir ++ path
  else dir ++ "/" ++ path

def path? (log : LogSettings) : Option String :=
  if log.file.isEmpty then none else some (joinPath log.dir log.file)

def outline (log : LogSettings) : Text.Outline :=
  .record "Log"
    [("to", .text log.destination.label), ("level", .tuple "Level" [.text log.level.label]),
      ("dir", .str log.dir), ("file", .str log.file)]

end LogSettings

structure MessageSettings where
  -- A serialized message longer than this is stored compressed.
  zipThreshold : ByteSize
  ignoreNullData : Bool
  deriving DecidableEq

namespace MessageSettings

def default : MessageSettings := ⟨⟨51200⟩, false⟩

def outline (message : MessageSettings) : Text.Outline :=
  .record "MessageConf"
    [("zip_message_size_threshold", .text message.zipThreshold.text),
      ("ignore_null_data", .bool message.ignoreNullData)]

end MessageSettings

structure Options where
  configName : Option String
  zipThreshold : Option ByteSize
  ignoreNullData : Option Bool
  deriving DecidableEq

namespace Options

def none : Options := ⟨.none, .none, .none⟩

def outline (options : Options) : Text.Outline :=
  .record "Options"
    [("cfg_name", .optional (options.configName.map .str)),
      ("zip_message_size_threshold",
        .optional (options.zipThreshold.map fun size => .text size.text)),
      ("ignore_null_data", .optional (options.ignoreNullData.map .bool))]

end Options

structure Settings where
  log : LogSettings
  message : MessageSettings
  options : Options
  deriving DecidableEq

namespace Settings

def default : Settings := ⟨.default, .default, .none⟩

def outline (settings : Settings) : Text.Outline :=
  .record "Inner"
    [("log", settings.log.outline), ("message", settings.message.outline),
      ("opts", settings.options.outline)]

def shown : String := "Settings ..."

end Settings

end Bayeux
