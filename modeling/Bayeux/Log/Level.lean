set_option autoImplicit false

namespace Bayeux.Log

inductive Level where
  | critical | error | warning | info | debug | trace
  deriving DecidableEq

namespace Level

def all : List Level := [.critical, .error, .warning, .info, .debug, .trace]

-- The most important level is the lowest.
def rank : Level → Nat
  | .critical => 1
  | .error => 2
  | .warning => 3
  | .info => 4
  | .debug => 5
  | .trace => 6

def passes (level threshold : Level) : Bool := level.rank ≤ threshold.rank

def name : Level → String
  | .critical => "CRITICAL"
  | .error => "ERROR"
  | .warning => "WARNING"
  | .info => "INFO"
  | .debug => "DEBUG"
  | .trace => "TRACE"

def shortName : Level → String
  | .critical => "CRIT"
  | .error => "ERRO"
  | .warning => "WARN"
  | .info => "INFO"
  | .debug => "DEBG"
  | .trace => "TRCE"

def label : Level → String
  | .critical => "Critical"
  | .error => "Error"
  | .warning => "Warning"
  | .info => "Info"
  | .debug => "Debug"
  | .trace => "Trace"

def commonName : Level → String
  | .critical | .error => "ERROR"
  | .warning => "WARN"
  | .info => "INFO"
  | .debug => "DEBUG"
  | .trace => "TRACE"

-- Whether `text` is a beginning of `name` and not empty; the case of ASCII letters does not count.
def abbreviates (text name : String) : Bool :=
  !text.isEmpty && (text.toList.map Char.toUpper).isPrefixOf name.toList

def off : String := "OFF"

-- A level by a beginning of its name or else of its short name. Switching off is no level.
def read? (text : String) : Option Level :=
  if abbreviates text off then none
  else
    match all.find? fun level => abbreviates text level.name with
    | some level => some level
    | none => all.find? fun level => abbreviates text level.shortName

def unknown (text : String) : String := "unknown log level '" ++ text ++ "'"

end Level

structure Event where
  level : Level
  source : String
  message : String
  deriving DecidableEq

end Bayeux.Log
