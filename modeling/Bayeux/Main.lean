import Bayeux.Benchmark.Outcome
import Bayeux.Service
import Std.Time

set_option autoImplicit false

namespace Bayeux

namespace Benchmark

-- A fraction of so many digits, without zeros at its end.
def fractionText (size n : Nat) : String :=
  let digits := Nat.toDigits 10 n
  let all := List.replicate (size - digits.length) '0' ++ digits
  let kept := (all.reverse.dropWhile (· = '0')).reverse
  if kept.isEmpty then "" else "." ++ String.ofList kept

-- A time in the largest unit of which there is a whole one.
def durationText (nanoseconds : Nat) : String :=
  let inUnits (size : Nat) (unit : String) : String :=
    toString (nanoseconds / 10 ^ size) ++ fractionText size (nanoseconds % 10 ^ size) ++ unit
  if 10 ^ 9 ≤ nanoseconds then inUnits 9 "s"
  else if 10 ^ 6 ≤ nanoseconds then inUnits 6 "ms"
  else if 10 ^ 3 ≤ nanoseconds then inUnits 3 "µs"
  else toString nanoseconds ++ "ns"

end Benchmark

def environment : IO (Table String) := do
  let text ← try IO.FS.readFile "/proc/self/environ" catch _ => pure ""
  let entry (line : String) : Option (String × String) :=
    match line.splitOn "=" with
    | name :: value :: more => some (name, String.intercalate "=" (value :: more))
    | _ => none
  return Table.ofList ((text.splitOn "\x00").filterMap entry)

def readFolder (names : List String) : IO Folder := do
  let path ← IO.currentDir
  let mut files : Table String := []
  for name in names do
    try
      files := files.insert name (← IO.FS.readFile name)
    catch _ => pure ()
  return ⟨path.toString, files⟩

def filesOf (options : Options) (benchmark : Benchmark) : List String :=
  let settings := [some Surroundings.usualFile, options.configName].filterMap id
  settings ++ settings.filterMap Surroundings.extended? ++ benchmark.payloadFile.toList

def timeStamp : IO String := do
  let now ← Std.Time.PlainDateTime.now
  return now.format "uuuu-MM-dd HH:mm:ss.SSS"

def logEvent (log : LogSettings) (e : Log.Event) : IO Unit := do
  if e.level.passes log.level then
    let line := e.line (← timeStamp)
    if log.destination.toConsole then IO.print line
    if log.destination.toFile then
      match log.path? with
      | none => pure ()
      | some path =>
        try
          let file ← IO.FS.Handle.mk path .append
          file.putStr line
        catch _ => pure ()

def timed {α : Type} (compute : Unit → α) : IO (α × Nat) := do
  let start ← IO.monoNanosNow
  let value ← IO.lazyPure compute
  let stop ← IO.monoNanosNow
  return (value, stop - start)

def printLine (label value : String) : IO Unit :=
  let start := label ++ ":"
  IO.println (start ++ String.ofList (List.replicate (17 - start.length) ' ') ++ value)

open Benchmark in
def measure (benchmark : Benchmark) (settings : Settings) (folder : Folder) :
    IO (Except Problem Report) := do
  let log (level : Log.Level) (message : String) : IO Unit :=
    logEvent settings.log ⟨level, "cometd_bench", message⟩
  match benchmark.loadPayload folder with
  | .error problem => return .error problem
  | .ok payload =>
    log .info ("building " ++ toString benchmark.count ++ " messages, zip threshold " ++
      settings.message.zipThreshold.text ++ ", retain payloads: " ++ toString benchmark.retain)
    let (queue, produceTime) ← timed fun _ => benchmark.produce settings.message payload
    let (served, serializeTime) ← timed fun _ => queue.mapM serialize
    match served with
    | .error problem => return .error problem
    | .ok served =>
      let (readable, readTime) ← timed fun _ => countReadable (served.map (·.1))
      let report := benchmark.reportOf (served.map (·.2)) readable
      let retained := if benchmark.retain then benchmark.count else 0
      log .info ("retained " ++ toString retained ++ " producer payload handles")
      for (label, value) in report.lines do
        printLine label value
      for (label, time) in timeLabels.zip [produceTime, serializeTime, readTime] do
        printLine label (durationText time)
      return .ok report

def usageText (specs : List CommandLine.Spec) : String :=
  let line (spec : CommandLine.Spec) : String :=
    "    --" ++ spec.name ++ (if spec.takesValue then " <" ++ spec.name ++ ">" else "")
  "Measure frozen message serialization and payload reads\n\nOPTIONS:\n" ++
    String.intercalate "\n" (specs.map line)

def endOf (outcome : Benchmark.Outcome) : IO UInt32 := do
  match outcome with
  | .usage .help =>
    IO.println (usageText
      (CommandLine.benchmarkSpecs ++ [CommandLine.helpSpec, CommandLine.versionSpec]))
  | .usage .version => IO.println "cometd-bench 0.1.0"
  | .usage _ => IO.eprintln ("error: invalid arguments\n\n" ++ usageText CommandLine.benchmarkSpecs)
  | .badSettings error =>
    IO.eprintln ("settings init failed: " ++ error.message?.getD "bad document")
  | .failed problem => IO.eprintln (Benchmark.failureText problem)
  | .reported _ => pure ()
  return UInt32.ofNat outcome.exitCode

end Bayeux

open Bayeux in
def main (arguments : List String) : IO UInt32 := do
  match CommandLine.readBenchmark arguments with
  | .error error => endOf (.usage error)
  | .ok (options, benchmark) =>
    let folder ← readFolder (filesOf options benchmark)
    match Settings.load ⟨folder, ← environment⟩ options with
    | .error error => endOf (.badSettings error)
    | .ok settings =>
      settings.events.forM (logEvent settings.log)
      let result ← measure benchmark settings folder
      match result with
      | .error problem =>
        logEvent settings.log ⟨.error, "cometd_bench", Benchmark.failureText problem⟩
      | .ok _ => pure ()
      endOf (.ofRun result)
