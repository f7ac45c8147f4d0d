import Bayeux.CommandLine.Options
import Bayeux.Settings.Load

set_option autoImplicit false

namespace Bayeux.Benchmark

inductive Outcome where
  | usage (error : CommandLine.UsageError)
  | badSettings (error : SettingsError)
  | failed (problem : Problem)
  | reported (report : Report)
  deriving DecidableEq

-- Being asked for help or for the version is no failure.
def Outcome.exitCode : Outcome → Nat
  | .usage .help => 0
  | .usage .version => 0
  | .usage _ => 1
  | .badSettings _ => 101
  | .failed _ => 1
  | .reported _ => 0

def failureText (problem : Problem) : String := "benchmark failed, " ++ problem.text

def Outcome.ofRun : Except Problem Report → Outcome
  | .ok report => .reported report
  | .error problem => .failed problem

def execute (surroundings : Surroundings) (arguments : List String) : Outcome :=
  match CommandLine.readBenchmark arguments with
  | .error error => .usage error
  | .ok (options, benchmark) =>
    match Settings.load surroundings options with
    | .error error => .badSettings error
    | .ok settings => .ofRun (benchmark.run settings.message surroundings.folder)

end Bayeux.Benchmark
