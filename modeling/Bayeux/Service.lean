import Bayeux.Log.Outlets
import Bayeux.Settings.Load

set_option autoImplicit false

namespace Bayeux

structure Service where
  settings : Option Settings
  log : Option LogSettings
  outlets : Log.Outlets

inductive ServiceError where
  | badSettings (error : SettingsError)
  | settingsTaken
  | logTaken
  deriving DecidableEq

def ServiceError.message? : ServiceError → Option String
  | .badSettings error => error.message?
  | .settingsTaken => some "Settings init failed"
  | .logTaken => some "logger init error, SetLoggerError(())"

namespace Service

def idle (folder : Folder) : Service :=
  { settings := none
    log := none
    outlets := { console := "", folder } }

-- Loads the settings. They stay what they are once they have been loaded.
def loadSettings (service : Service) (environment : Table String) (options : Options) :
    Except ServiceError (Service × Settings) :=
  match Settings.load ⟨service.outlets.folder, environment⟩ options with
  | .error error => .error (.badSettings error)
  | .ok settings =>
    if service.settings.isSome then .error .settingsTaken
    else .ok ({ service with settings := some settings }, settings)

def openLog (service : Service) (log : LogSettings) : Except ServiceError Service :=
  if service.log.isSome then .error .logTaken else .ok { service with log := some log }

def report (service : Service) (stamp : String) (e : Log.Event) : Service :=
  match service.log with
  | some log => { service with outlets := service.outlets.record log stamp e }
  | none => service

def reportAll (service : Service) (stamp : String) (events : List Log.Event) : Service :=
  events.foldl (fun service e => service.report stamp e) service

end Service

def Settings.events (settings : Settings) : List Log.Event :=
  let event (level : Log.Level) (message : String) : Log.Event := ⟨level, "cometd_conf", message⟩
  [event .debug ("Config info is " ++ settings.outline.line),
    event .info ("message.zip_message_size_threshold is " ++ settings.message.zipThreshold.text),
    event .info ("message.ignore_null_data is " ++ toString settings.message.ignoreNullData)] ++
    (settings.options.configName.map fun name => event .info ("config file is " ++ name)).toList

end Bayeux
