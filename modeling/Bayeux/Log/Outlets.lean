import Bayeux.Folder
import Bayeux.Log.Level
import Bayeux.Settings.Basic

set_option autoImplicit false

namespace Bayeux.Log

def Event.line (stamp : String) (e : Event) : String :=
  stamp ++ " " ++ e.level.shortName ++ " " ++ e.source ++ " | " ++ e.message ++ "\t\n"

structure Outlets where
  console : String
  folder : Folder
  -- A line could not be written, and no line has been taken since.
  stopped : Bool := false
  deriving DecidableEq

namespace Outlets

def toConsole (o : Outlets) (text : String) : Outlets := { o with console := o.console ++ text }

-- The file is opened when the first line is written to it.
def toFile? (o : Outlets) (log : LogSettings) (text : String) : Option Outlets :=
  match log.path? with
  | none => none
  | some path =>
    match o.folder.append path text with
    | .ok folder => some { o with folder }
    | .error _ => none

/-- Writes the line of an event. Where the file cannot be opened the line is lost and the log
stops; with both destinations the console has got the first piece of the line by then. -/
def write (o : Outlets) (log : LogSettings) (stamp : String) (e : Event) : Outlets :=
  let line := e.line stamp
  match log.destination with
  | .off => o
  | .console => o.toConsole line
  | .file => (o.toFile? log line).getD { o with stopped := true }
  | .both =>
    match o.toFile? log line with
    | some written => written.toConsole line
    | none => { o.toConsole stamp with stopped := true }

def record (o : Outlets) (log : LogSettings) (stamp : String) (e : Event) : Outlets :=
  if e.level.passes log.level && !o.stopped then o.write log stamp e else o

def recordAll (o : Outlets) (log : LogSettings) (stamp : String) (events : List Event) : Outlets :=
  events.foldl (fun o e => o.record log stamp e) o

end Outlets

end Bayeux.Log
