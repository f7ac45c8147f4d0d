import Bayeux.Benchmark.Basic
import Bayeux.CommandLine.Scan
import Bayeux.Settings.Basic
import Bayeux.Text.Basic

set_option autoImplicit false

namespace Bayeux.CommandLine

def readBool? : String → Option Bool
  | "true" => some true
  | "false" => some false
  | _ => none

def readSize? (text : String) : Option ByteSize :=
  match ByteSize.read text with
  | .ok size => some size
  | .error _ => none

def settingSpecs : List Spec :=
  [{ name := "config", short := some 'f' },
    { name := "zip-threshold", accepts := fun text => (readSize? text).isSome },
    { name := "ignore-null-data", accepts := fun text => (readBool? text).isSome }]

def optionsOf (given : List Given) : Options :=
  { configName := value? given "config"
    zipThreshold := (value? given "zip-threshold").bind readSize?
    ignoreNullData := (value? given "ignore-null-data").bind readBool? }

def readOptions (arguments : List String) : Except UsageError Options :=
  (scan settingSpecs arguments).map optionsOf

def readCount? (text : String) : Option Nat :=
  (Text.readWord text.toList).map UInt64.toNat

def defaultCount : Nat := 50000

def benchmarkSpecs : List Spec :=
  settingSpecs ++
    [{ name := "count"
       ownValue := some (toString defaultCount)
       accepts := fun text => (readCount? text).isSome },
      { name := "payload" },
      { name := "retain", takesValue := false }]

def benchmarkOf (given : List Given) : Benchmark :=
  { count := ((value? given "count").bind readCount?).getD defaultCount
    payloadFile := value? given "payload"
    retain := isGiven given "retain" }

def readBenchmark (arguments : List String) : Except UsageError (Options × Benchmark) :=
  (scan benchmarkSpecs arguments).map fun given => (optionsOf given, benchmarkOf given)

end Bayeux.CommandLine
