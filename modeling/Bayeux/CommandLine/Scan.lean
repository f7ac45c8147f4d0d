set_option autoImplicit false

namespace Bayeux.CommandLine

-- Why a command line is not taken. Asking for help or for the version ends reading as well.
inductive UsageError where
  | unknownArgument
  | emptyValue
  | invalidValue
  | repeated
  | help
  | version
  deriving DecidableEq

/-- An option by its long name. One that takes no value is a switch; one with a value of its own
may be given without. -/
structure Spec where
  name : String
  short : Option Char := none
  takesValue : Bool := true
  ownValue : Option String := none
  accepts : String → Bool := fun _ => true

def helpSpec : Spec := { name := "help", short := some 'h', takesValue := false }

def versionSpec : Spec := { name := "version", short := some 'V', takesValue := false }

structure Given where
  name : String
  value : Option String
  deriving DecidableEq

/-- What was read: the options, the last first, and the one that still wants a value. -/
structure Progress where
  given : List Given
  pending : Option String
  onlyValues : Bool

def Progress.start : Progress := ⟨[], none, false⟩

def withoutDashes (cs : List Char) : List Char := cs.dropWhile (· = '-')

def withoutEquals (cs : List Char) : List Char := cs.dropWhile (· = '=')

def splitLong (cs : List Char) : String × Option (List Char) :=
  let name := cs.takeWhile (· ≠ '=')
  match cs.dropWhile (· ≠ '=') with
  | [] => (String.ofList name, none)
  | _ :: value => (String.ofList name, some value)

def Progress.take (p : Progress) (spec : Spec) (value : Option (List Char)) :
    Except UsageError Progress :=
  if spec.name = helpSpec.name then .error .help
  else if spec.name = versionSpec.name then .error .version
  else if !spec.takesValue then .ok { p with given := ⟨spec.name, none⟩ :: p.given, pending := none }
  else
    match value with
    | some cs =>
      let value := String.ofList (withoutEquals cs)
      .ok { p with given := ⟨spec.name, some value⟩ :: p.given, pending := none }
    | none => .ok { p with given := ⟨spec.name, none⟩ :: p.given, pending := some spec.name }

def Progress.fill (p : Progress) (value : String) : Progress :=
  match p.given with
  | [] => p
  | last :: before => { p with given := { last with value := some value } :: before, pending := none }

def readLong (specs : List Spec) (p : Progress) (cs : List Char) : Except UsageError Progress :=
  let (name, value) := splitLong (withoutDashes cs)
  match specs.find? (·.name == name) with
  | some spec => p.take spec value
  | none => .error .unknownArgument

-- Letters up to the first one that takes a value; that one has the rest.
def readShort (specs : List Spec) : Progress → List Char → Except UsageError Progress
  | p, [] => .ok p
  | p, c :: rest =>
    match specs.find? (·.short == some c) with
    | none => .error .unknownArgument
    | some spec =>
      if spec.takesValue then p.take spec (if rest.isEmpty then none else some rest)
      else
        match p.take spec none with
        | .ok p => readShort specs p rest
        | .error e => .error e

def readArgument (specs : List Spec) (p : Progress) (argument : String) :
    Except UsageError Progress :=
  let cs := argument.toList
  if p.onlyValues then .error .unknownArgument
  else if cs = ['-', '-'] then .ok { p with onlyValues := true }
  else if cs.take 2 = ['-', '-'] then readLong specs p cs
  else if cs.head? = some '-' && cs ≠ ['-'] then readShort specs p (withoutDashes cs)
  else if p.pending.isSome then .ok (p.fill argument)
  else .error .unknownArgument

def valuesOf (given : List Given) (name : String) : List String :=
  (given.filter (·.name = name)).filterMap (·.value)

-- Whether an option that has to have a value was given without.
def lacksValue (given : List Given) (spec : Spec) : Bool :=
  spec.takesValue && spec.ownValue.isNone && given.any (·.name = spec.name) &&
    (valuesOf given spec.name).isEmpty

def checkSpec (given : List Given) (spec : Spec) : Except UsageError Unit :=
  let values := valuesOf given spec.name
  let times := (given.filter (·.name = spec.name)).length
  if lacksValue given spec then .error .emptyValue
  else if !values.all spec.accepts then .error .invalidValue
  else if 1 < times then .error .repeated
  else .ok ()

def scan (specs : List Spec) (arguments : List String) : Except UsageError (List Given) := do
  let all := specs ++ [helpSpec, versionSpec]
  let p ← arguments.foldlM (readArgument all) Progress.start
  let given := p.given.reverse
  let waiting := specs.filter fun spec => p.pending = some spec.name
  if waiting.any (lacksValue given) then .error .emptyValue
  specs.forM (checkSpec given)
  return given

def value? (given : List Given) (name : String) : Option String := (valuesOf given name).head?

def isGiven (given : List Given) (name : String) : Bool := given.any (·.name = name)

end Bayeux.CommandLine
